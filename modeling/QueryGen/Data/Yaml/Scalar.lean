import QueryGen.Data.Yaml.Place
import QueryGen.Data.Json.Reader
import QueryGen.Data.Yaml
import QueryGen.Text.Basic

/-!
# Scalars and their lines

A scalar may run over several lines. Its text is read in two steps: first the glyphs as they are
written, then the text that they make up once the lines are joined.

- `Glyph`, `fold`: joining lines.
- `singleQuoted?`, `doubleQuoted?`, `plainGlyphs?`: the three ways to write a scalar.
-/

namespace QueryGen.Yaml

/-! ## Joining lines -/

/-- A part of a scalar that runs over several lines. -/
inductive Glyph where
  | char (c : Char)
  /-- A space or tab, which is dropped at the ends of a line. -/
  | blank (c : Char)
  /-- The end of a line, with the character that ends it. -/
  | lineBreak (c : Char)
  /-- A line break that joins two lines without a space. -/
  | splice
deriving DecidableEq, Repr

/-- The blanks and line breaks between two characters. -/
inductive Gap where
  | blanks (cs : List Char)
  /-- A line break and those behind it. -/
  | breaks (first : Char) (more : List Char)
  /-- The line breaks behind a splice. -/
  | spliced (more : List Char)

/-- A single line feed becomes a space. Of several breaks the first is dropped if it is a line
feed. -/
def Gap.text : Gap → List Char
  | blanks cs => cs
  | breaks first more =>
    if first ≠ '\n' then first :: more else if more = [] then [' '] else more
  | spliced more => more

/-- The text of glyphs that follow a gap. -/
def foldFrom : Gap → List Glyph → List Char
  | gap, [] => gap.text
  | gap, .char c :: rest => gap.text ++ c :: foldFrom (.blanks []) rest
  | .blanks cs, .blank c :: rest => foldFrom (.blanks (cs ++ [c])) rest
  | gap, .blank _ :: rest => foldFrom gap rest
  | .blanks _, .lineBreak c :: rest => foldFrom (.breaks c []) rest
  | .breaks first more, .lineBreak c :: rest => foldFrom (.breaks first (more ++ [c])) rest
  | .spliced more, .lineBreak c :: rest => foldFrom (.spliced (more ++ [c])) rest
  | gap, .splice :: rest => gap.text ++ foldFrom (.spliced []) rest

/-- The text of a scalar, with its lines joined. -/
def fold (glyphs : List Glyph) : List Char := foldFrom (.blanks []) glyphs

@[simp] theorem fold_nil : fold [] = [] := rfl

theorem fold_chars (cs : List Char) : fold (cs.map .char) = cs := by
  induction cs with
  | nil => rfl
  | cons c rest ih => simpa [fold, foldFrom, Gap.text] using ih

/-- The glyph that a character without a special meaning stands for. -/
def glyph (c : Char) : Glyph :=
  if isBlank c then .blank c else if isBreak c then .lineBreak c else .char c

/-! ## Quoted scalars -/

/-- The glyphs up to the closing quote. The quote itself is written twice. -/
def singleQuoted? : Nat → Place → Option (List Glyph × Place)
  | 0, _ => none
  | n + 1, p => do
    if p.atMark then none else
    match p.rest with
    | [] => none
    | '\'' :: '\'' :: _ => do
      let (glyphs, q) ← singleQuoted? n (p.skip 2)
      return (.char '\'' :: glyphs, q)
    | '\'' :: _ => return ([], p.next)
    | c :: _ => do
      let (glyphs, q) ← singleQuoted? n p.next
      return (glyph c :: glyphs, q)

/-- The number of hexadecimal digits behind a letter that opens a code. -/
def codeLength? : Char → Option Nat
  | 'x' => some 2
  | 'u' => some 4
  | 'U' => some 8
  | _ => none

/-- The character that a letter behind a backslash stands for. -/
def letterEscape? : Char → Option Char
  | '0' => some '\x00'
  | 'a' => some '\x07'
  | 'b' => some '\x08'
  | 't' => some '\t'
  | '\t' => some '\t'
  | 'n' => some '\n'
  | 'v' => some '\x0b'
  | 'f' => some '\x0c'
  | 'r' => some '\x0d'
  | 'e' => some '\x1b'
  | ' ' => some ' '
  | '"' => some '"'
  | '/' => some '/'
  | '\\' => some '\\'
  | 'N' => some '\u0085'
  | '_' => some '\u00a0'
  | 'L' => some '\u2028'
  | 'P' => some '\u2029'
  | _ => none

/-- The character of a code, which may be no half of a surrogate pair. -/
def ofCode? (digits : List Char) : Option Char := do
  let code := (← digits.mapM Json.hexDigit?).foldl (fun n digit => 16 * n + digit) 0
  if code.isValidChar then return .ofNat code else none

/-- The character that an escape stands for, and the length of the escape behind its backslash. -/
def escape? : List Char → Option (Char × Nat)
  | [] => none
  | c :: rest =>
    match codeLength? c with
    | some n => do
      if rest.length < n then none
      else return (← ofCode? (rest.take n), n + 1)
    | none => (letterEscape? c).map (·, 1)

/-- The glyphs up to the closing quote, with escapes. -/
def doubleQuoted? : Nat → Place → Option (List Glyph × Place)
  | 0, _ => none
  | n + 1, p => do
    if p.atMark then none else
    match p.rest with
    | [] => none
    | '"' :: _ => return ([], p.next)
    | '\\' :: rest =>
      if rest.head?.any isBreak then do
        let (glyphs, q) ← doubleQuoted? n (p.skip 2)
        return (.splice :: glyphs, q)
      else do
        let (c, length) ← escape? rest
        let (glyphs, q) ← doubleQuoted? n (p.skip (length + 1))
        return (.char c :: glyphs, q)
    | c :: _ => do
      let (glyphs, q) ← doubleQuoted? n p.next
      return (glyph c :: glyphs, q)

/-! ## Plain scalars -/

/-- A character that ends a word between brackets. -/
def isFlowIndicator (c : Char) : Bool :=
  c == ',' || c == '[' || c == ']' || c == '\x7b' || c == '\x7d'

/-- The characters up to the next blank, or the colon behind a key. Between brackets a colon may
not stand right before one of their indicators. -/
def plainWord? (flow : Bool) : List Char → Option (List Char)
  | [] => some []
  | c :: rest =>
    if isGap (c :: rest) then some []
    else if c = ':' ∧ isGap rest then some []
    else if flow ∧ c = ':' ∧ rest.head?.any (fun d => isFlowIndicator d || d == '?') then none
    else if flow ∧ isFlowIndicator c then some []
    else (plainWord? flow rest).map (c :: ·)

/-- A tab among the columns that have to be left free in front of a line. -/
def hasTabIndent (column : Nat) (gap : List Char) : Bool :=
  (Text.splitWith isBreak gap).tail.any fun line => (line.take column).contains '\t'

/-- A plain scalar is read up to the next thing that is no part of it. -/
structure PlainRead where
  glyphs : List Glyph
  /-- The place behind the blanks that follow. -/
  behind : Place
  /-- Those blanks end a line. -/
  endsLine : Bool

/-- A plain scalar. Its further lines have at least `column` blanks in front. -/
def plainGlyphs? (flow : Bool) (column : Nat) : Nat → Place → Option PlainRead
  | 0, _ => none
  | n + 1, p => do
    if p.atMark ∨ p.rest.head? = some '#' then return ⟨[], p, false⟩ else
    let word ← plainWord? flow p.rest
    let behind := p.skip word.length
    let gap := behind.rest.takeWhile fun c => isBlank c || isBreak c
    let after := behind.skip gap.length
    if hasTabIndent column gap then none
    else if gap = [] ∨ (!flow ∧ after.column < column) then
      return ⟨word.map .char, after, gap.any isBreak⟩
    else
      let more ← plainGlyphs? flow column n after
      if more.glyphs = [] then return ⟨word.map .char, more.behind, gap.any isBreak⟩
      else return { more with glyphs := word.map .char ++ gap.map glyph ++ more.glyphs }

/-- The characters that may not open a plain scalar. -/
def indicators : List Char :=
  ['-', '?', ':', ',', '[', ']', '\x7b', '\x7d', '#', '&', '*', '!', '|', '>', '\'', '"', '%', '@',
    '\x60']

/-- Whether a plain scalar may open here. A dash may if more than a blank follows, and so may
a question mark or colon outside brackets. -/
def opensPlain (flow : Bool) : List Char → Bool
  | [] => false
  | c :: rest =>
    if isGap (c :: rest) then false
    else if indicators.contains c then
      !isGap rest && (c == '-' || (!flow && (c == '?' || c == ':')))
    else true

end QueryGen.Yaml
