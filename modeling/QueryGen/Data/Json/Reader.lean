import QueryGen.Data.Json

/-!
# Reading JSON

A reader takes the characters of a value from the front of a text and gives the rest. There is no
room for comments, trailing commas, or control characters in strings. A number in front of the
arguments bounds the length of the text.

A string may hold half of a surrogate pair, which is no character. Such a string has no text, and
a record with such a name has no fields: they can only be passed over.

- `hexDigit?`, `escape?`, `stringBody?`: strings with their escapes.
- `number?`: numbers.
- `readValue?`, `readItems?`, `readFields?`: values.
- `parseLoose`: the value of a whole text, with such strings.
- `parse`: the value of a whole text without them.
-/

namespace QueryGen.Json

/-- Blanks between the parts of a value. -/
def isBlank (c : Char) : Bool := c == ' ' || c == '\n' || c == '\t' || c == '\r'

def skipBlanks (cs : List Char) : List Char := cs.dropWhile isBlank

/-! ## Strings -/

def hexDigit? (c : Char) : Option Nat :=
  if c.isDigit then some (c.toNat - '0'.toNat)
  else if 'a' ≤ c ∧ c ≤ 'f' then some (c.toNat - 'a'.toNat + 10)
  else if 'A' ≤ c ∧ c ≤ 'F' then some (c.toNat - 'A'.toNat + 10)
  else none

/-- The number that four hexadecimal digits write. -/
def hex4? : List Char → Option (Nat × List Char)
  | a :: b :: c :: d :: rest => do
    let digits ← [a, b, c, d].mapM hexDigit?
    return (digits.foldl (fun n digit => 16 * n + digit) 0, rest)
  | _ => none

/-- The character of a code unit, or of two that make up a surrogate pair. Half of a pair is no
character. -/
def unicodeEscape? (cs : List Char) : Option (Option Char × List Char) := do
  let (high, rest) ← hex4? cs
  if 0xD800 ≤ high ∧ high < 0xDC00 then
    match rest with
    | '\\' :: 'u' :: more => do
      let (low, more) ← hex4? more
      if 0xDC00 ≤ low ∧ low < 0xE000 then
        return (some (.ofNat (0x10000 + (high - 0xD800) * 0x400 + (low - 0xDC00))), more)
      else return (none, rest)
    | _ => return (none, rest)
  else if 0xDC00 ≤ high ∧ high < 0xE000 then return (none, rest)
  else return (some (.ofNat high), rest)

/-- The character that a letter behind a backslash stands for. -/
def letterEscape? : Char → Option Char
  | '"' => some '"'
  | '\\' => some '\\'
  | '/' => some '/'
  | 'b' => some '\x08'
  | 'f' => some '\x0c'
  | 'n' => some '\n'
  | 'r' => some '\r'
  | 't' => some '\t'
  | _ => none

/-- The character that an escape stands for. The backslash is already taken. -/
def escape? : List Char → Option (Option Char × List Char)
  | 'u' :: rest => unicodeEscape? rest
  | c :: rest => (letterEscape? c).map fun c => (some c, rest)
  | [] => none

/-- A character in front of a text, if there is one and the text has only characters. -/
def consChar (c : Option Char) (text : Option (List Char)) : Option (List Char) :=
  c.bind fun c => text.map (c :: ·)

/-- The text of a string behind its opening quote. -/
def stringBody? : Nat → List Char → Option (Option (List Char) × List Char)
  | 0, _ => none
  | _ + 1, [] => none
  | _ + 1, '"' :: rest => some (some [], rest)
  | n + 1, '\\' :: rest => do
    let (c, rest) ← escape? rest
    let (text, rest) ← stringBody? n rest
    return (consChar c text, rest)
  | n + 1, c :: rest => do
    if c.toNat < 0x20 then none
    else
      let (text, rest) ← stringBody? n rest
      return (consChar c text, rest)

/-- A string behind its opening quote. -/
def string? (n : Nat) (cs : List Char) : Option (Option String × List Char) := do
  let (text, rest) ← stringBody? n cs
  return (text.map String.ofList, rest)

/-! ## Numbers -/

/-- Digits, at least one. -/
def digits? (cs : List Char) : Option (List Char × List Char) :=
  match cs.span Char.isDigit with
  | ([], _) => none
  | split => some split

/-- Digits without a needless zero in front. -/
def whole? : List Char → Option (List Char × List Char)
  | '0' :: rest =>
    match rest with
    | [] => some (['0'], [])
    | c :: _ => if c.isDigit then none else some (['0'], rest)
  | cs => digits? cs

/-- The digits behind a point, if there is one. -/
def fraction? : List Char → Option (List Char × List Char)
  | '.' :: rest => (digits? rest).map fun (digits, rest) => ('.' :: digits, rest)
  | cs => some ([], cs)

/-- The exponent, if there is one. -/
def exponent? : List Char → Option (List Char × List Char)
  | [] => some ([], [])
  | e :: rest =>
    if e = 'e' ∨ e = 'E' then
      let (sign, rest) := match rest with
        | '+' :: rest => (['+'], rest)
        | '-' :: rest => (['-'], rest)
        | rest => ([], rest)
      (digits? rest).map fun (digits, rest) => (e :: sign ++ digits, rest)
    else some ([], e :: rest)

/-- The number that decimal digits write. -/
def ofDigits (digits : List Char) : Nat :=
  digits.foldl (fun n c => 10 * n + (c.toNat - '0'.toNat)) 0

/-- A number at the front of a text. -/
def number? (cs : List Char) : Option (JsonScalar × List Char) := do
  let (sign, rest) := match cs with
    | '-' :: rest => (['-'], rest)
    | rest => ([], rest)
  let (whole, rest) ← whole? rest
  let (fraction, rest) ← fraction? rest
  let (exponent, rest) ← exponent? rest
  if sign = [] ∧ fraction = [] ∧ exponent = [] ∧ ofDigits whole < UInt64.size then
    return (.nat (ofDigits whole), rest)
  else return (.number (.ofList (sign ++ whole ++ fraction ++ exponent)), rest)

/-! ## Values -/

/-- A value with parts that can only be passed over. -/
abbrev Loose := Tree (Option JsonScalar)

/-- A record, which can only be passed over if a name is no text. -/
def recordOf (fields : List (Option String × Loose)) : Loose :=
  match fields.mapM fun (name, item) => name.map (·, item) with
  | some fields => .record fields
  | none => .scalar none

mutual

/-- A value at the front of a text. -/
def readValue? : Nat → List Char → Option (Loose × List Char)
  | 0, _ => none
  | n + 1, cs =>
    match skipBlanks cs with
    | 'n' :: 'u' :: 'l' :: 'l' :: rest => some (.scalar (some .null), rest)
    | 't' :: 'r' :: 'u' :: 'e' :: rest => some (.scalar (some (.bool true)), rest)
    | 'f' :: 'a' :: 'l' :: 's' :: 'e' :: rest => some (.scalar (some (.bool false)), rest)
    | '"' :: rest => (string? (n + 1) rest).map fun (s, rest) => (.scalar (s.map .text), rest)
    | '[' :: rest =>
      match skipBlanks rest with
      | ']' :: rest => some (.list [], rest)
      | rest => (readItems? n rest).map fun (items, rest) => (.list items, rest)
    | '\x7b' :: rest =>
      match skipBlanks rest with
      | '\x7d' :: rest => some (.record [], rest)
      | rest => (readFields? n rest).map fun (fields, rest) => (recordOf fields, rest)
    | rest => (number? rest).map fun (s, rest) => (.scalar (some s), rest)

/-- The items of a list, up to its end. -/
def readItems? : Nat → List Char → Option (List Loose × List Char)
  | 0, _ => none
  | n + 1, cs => do
    let (item, rest) ← readValue? n cs
    match skipBlanks rest with
    | ',' :: rest => do
      let (items, rest) ← readItems? n rest
      return (item :: items, rest)
    | ']' :: rest => return ([item], rest)
    | _ => none

/-- The fields of a record, up to its end. -/
def readFields? : Nat → List Char → Option (List (Option String × Loose) × List Char)
  | 0, _ => none
  | n + 1, cs => do
    match skipBlanks cs with
    | '"' :: rest => do
      let (name, rest) ← string? (n + 1) rest
      match skipBlanks rest with
      | ':' :: rest => do
        let (item, rest) ← readValue? n rest
        match skipBlanks rest with
        | ',' :: rest => do
          let (fields, rest) ← readFields? n rest
          return ((name, item) :: fields, rest)
        | '\x7d' :: rest => return ([(name, item)], rest)
        | _ => none
      | _ => none
    | _ => none

end

/-- The value of a text that holds nothing else, in which strings may be no texts. -/
def parseLoose (s : String) : Option Loose := do
  let cs := s.toList
  let (t, rest) ← readValue? (cs.length + 1) cs
  if skipBlanks rest = [] then return t else none

/-- The value of a text that holds nothing else. -/
def parse (s : String) : Option Json := (parseLoose s).bind Tree.readable?

end QueryGen.Json
