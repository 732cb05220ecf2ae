import QueryGen.Data.Yaml
import QueryGen.Data.Yaml.Place

/-!
# Block scalars

A bar or an angle opens a text that takes up the lines below it. Behind a bar the lines stay as they
are, behind an angle they are joined.

- `BlockHeader`: the sign that opens the text, with what stands behind it.
- `BlockLine`, `joinLines`: the lines of a text, and how they are joined.
- `blockScalar?`: the text.
-/

namespace QueryGen.Yaml

/-! ## The first line -/

/-- What becomes of the line ends behind the last line. -/
inductive Chomping where
  /-- One of them stays. -/
  | clip
  | strip
  | keep
deriving DecidableEq, Repr

structure BlockHeader where
  /-- Lines are joined. -/
  folds : Bool
  chomping : Chomping
  /-- How much deeper the text is indented than the block that it stands in, if that is written. -/
  indent : Option Nat
deriving Repr

def chomping? : Char → Option Chomping
  | '+' => some .keep
  | '-' => some .strip
  | _ => none

def indentDigit? (c : Char) : Option Nat :=
  if c.isDigit ∧ c ≠ '0' then some (c.toNat - '0'.toNat) else none

/-- A sign that `read` knows at the front of a text. -/
def sign? {α : Type} (read : Char → Option α) : List Char → Option α × List Char
  | [] => (none, [])
  | c :: rest =>
    match read c with
    | some a => (some a, rest)
    | none => (none, c :: rest)

/-- The header at the front of a text. Its two signs stand in either order, and only a comment may
follow them. -/
def BlockHeader.read? : List Char → Option BlockHeader
  | [] => none
  | c :: rest =>
    if c ≠ '|' ∧ c ≠ '>' then none
    else
      let (early, rest) := sign? indentDigit? rest
      let (chomping, rest) := sign? chomping? rest
      let (late, rest) := if early.isSome then (none, rest) else sign? indentDigit? rest
      let indent := early.orElse fun _ => late
      let behind := rest.dropWhile isBlank
      if isLineEnd behind ∨ behind.head? = some '#' then
        some ⟨c == '>', chomping.getD .clip, indent⟩
      else none

/-! ## Lines -/

/-- A line with what stands before it and the one that it follows. -/
structure BlockLine where
  /-- The characters that end empty lines before it. -/
  empty : List Char
  text : List Char
  /-- The character that ends it, if it does not stand at the end of the text. -/
  ending : Option Char
deriving Repr

def BlockLine.startsBlank (l : BlockLine) : Bool := l.text.head?.any isBlank

/-- What stands between two lines. If they are joined, a line feed that ends the first one is
dropped, or becomes a space if no empty lines follow. Lines that start with a blank are not
joined. -/
def joint (folds : Bool) (l next : BlockLine) : List Char :=
  if folds && l.ending == some '\n' && !l.startsBlank && !next.startsBlank then
    if next.empty = [] then [' '] else next.empty
  else l.ending.toList ++ next.empty

/-- The text of the lines behind a line. -/
def joinBehind (folds : Bool) (l : BlockLine) : List BlockLine → List Char
  | [] => []
  | next :: rest => joint folds l next ++ next.text ++ joinBehind folds next rest

/-- The text of lines. -/
def joinLines (folds : Bool) : List BlockLine → List Char
  | [] => []
  | l :: rest => l.empty ++ l.text ++ joinBehind folds l rest

/-- What follows the last line: the character that ends it, and those that end the empty lines
behind. -/
def Chomping.tail (ending : Option Char) (empty : List Char) : Chomping → List Char
  | clip => ending.toList
  | strip => []
  | keep => ending.toList ++ empty

/-! ## Reading lines -/

/-- What is found in front of a line. -/
structure EmptyLines where
  /-- The characters that end empty lines. -/
  endings : List Char
  /-- The rightmost column that was reached. -/
  deepest : Nat
  /-- The place behind the blanks that indent the line. -/
  behind : Place

/-- Past empty lines and the blanks that indent the line behind them, which are no more than
`indent`. No tab may stand among the blanks. -/
def emptyLines? (indent : Option Nat) : Nat → Place → Option EmptyLines
  | 0, _ => none
  | n + 1, p =>
    let blanks := (p.rest.takeWhile (· == ' ')).length
    let q := p.skip (indent.elim blanks (min blanks))
    match q.rest with
    | [] => some ⟨[], q.column, q⟩
    | c :: _ =>
      if c = '\t' ∧ indent.all (q.column < ·) then none
      else if isBreak c then do
        let more ← emptyLines? indent n q.next
        return { more with endings := c :: more.endings, deepest := max q.column more.deepest }
      else some ⟨[], q.column, q⟩

/-- The lines that start in a column, the empty ones behind them, and the place behind all. -/
def blockLines? (column : Nat) :
    Nat → List Char → Place → Option (List BlockLine × List Char × Place)
  | 0, _, _ => none
  | n + 1, empty, p =>
    if p.column = column ∧ p.rest ≠ [] then do
      let q := p.toLineEnd
      let l : BlockLine := ⟨empty, p.rest.takeWhile (!isBreak ·), q.rest.head?⟩
      let more ← emptyLines? (some column) n q.next
      let (lines, last) ← blockLines? column n more.endings more.behind
      return (l :: lines, last)
    else return ([], empty, p)

/-- The text of a block scalar, and the place behind it. Its lines have at least `margin` blanks in
front; where the header does not say how many, the first line decides. -/
def blockScalar? (margin bound : Nat) (p : Place) : Option (YamlScalar × Place) := do
  let header ← BlockHeader.read? p.rest
  let given := header.indent.map (margin - 1 + ·)
  let first ← emptyLines? given bound p.toLineEnd.next
  let column := given.getD (max first.deepest (max margin 1))
  let (lines, empty, q) ← blockLines? column bound first.endings first.behind
  let ending := lines.getLast?.bind (·.ending)
  let text := joinLines header.folds lines ++ header.chomping.tail ending empty
  return (⟨if header.folds then .quoted else .lines, .ofList text, none⟩, q)

end QueryGen.Yaml
