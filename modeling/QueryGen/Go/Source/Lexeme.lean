import QueryGen.Text.Class

/-!
# Lexemes of Go

Each function gives the text behind a lexeme at the front of a text, and none if there is no such
lexeme. The character NUL stands in no literal and no comment.

- `number?`: an integer, a floating-point number or an imaginary number.
- `rune?`, `string?`, `rawString?`: literals in quotes.
- `comment?`: a comment.
- `cut?`: a lexeme and the text behind it.
-/

namespace QueryGen.Go.Lexeme

/-- Gives the text behind something at the front of a text. -/
abbrev Behind : Type := List Char → Option (List Char)

/-- The text behind something that may be missing. -/
def optional (f : Behind) (cs : List Char) : List Char := (f cs).getD cs

/-- Passes over one of several characters. -/
def oneOf? (choices : List Char) : Behind
  | [] => none
  | c :: rest => if choices.contains c then some rest else none

/-- Passes over `n` characters of a class. -/
def exactly? (p : Char → Bool) : Nat → Behind
  | 0, cs => some cs
  | _ + 1, [] => none
  | n + 1, c :: rest => if p c then exactly? p n rest else none

/-- The longest of several readings of one text, which leaves the least. -/
def longest? : List (List Char) → Option (List Char)
  | [] => none
  | rest :: others =>
    match longest? others with
    | some other => some (if other.length < rest.length then other else rest)
    | none => some rest

/-- Cuts a text behind a lexeme. -/
def cut? (f : Behind) (cs : List Char) : Option (List Char × List Char) :=
  (f cs).map fun rest => (cs.take (cs.length - rest.length), rest)

/-! ## Numbers -/

def isBinaryDigit (c : Char) : Bool := c == '0' || c == '1'

def isOctalDigit (c : Char) : Bool := '0' ≤ c && c ≤ '7'

def isHexDigit (c : Char) : Bool := c.isDigit || "abcdefABCDEF".toList.contains c

/-- Passes over more digits, with single underscores between them. -/
def moreDigits (p : Char → Bool) : List Char → List Char
  | '_' :: c :: rest => if p c then moreDigits p rest else '_' :: c :: rest
  | c :: rest => if p c then moreDigits p rest else c :: rest
  | [] => []

/-- Digits with single underscores between them. -/
def digits? (p : Char → Bool) : Behind
  | [] => none
  | c :: rest => if p c then some (moreDigits p rest) else none

/-- Digits with an underscore in front of them or without. -/
def spacedDigits? (p : Char → Bool) (cs : List Char) : Option (List Char) :=
  digits? p (optional (oneOf? ['_']) cs)

/-- A zero, a letter for the base, and digits. -/
def based? (letters : List Char) (p : Char → Bool) : Behind
  | '0' :: rest => do spacedDigits? p (← oneOf? letters rest)
  | _ => none

/-- An integer with a letter for its base. -/
def basedInteger? (cs : List Char) : Option (List Char) :=
  [(['x', 'X'], isHexDigit), (['o', 'O'], isOctalDigit), (['b', 'B'], isBinaryDigit)].findSome?
    fun (letters, p) => based? letters p cs

/-- An integer. One that begins with a zero is octal. -/
def integer? (cs : List Char) : Option (List Char) :=
  match basedInteger? cs, cs with
  | some rest, _ => some rest
  | none, '0' :: rest => some (optional (spacedDigits? isOctalDigit) rest)
  | none, cs => digits? Char.isDigit cs

/-- An exponent behind one of the given letters. -/
def exponent? (letters : List Char) (cs : List Char) : Option (List Char) := do
  let rest ← oneOf? letters cs
  digits? Char.isDigit (optional (oneOf? ['+', '-']) rest)

/-- A decimal number with a point or an exponent. -/
def decimalFloat? (cs : List Char) : Option (List Char) :=
  match digits? Char.isDigit cs, cs with
  | some ('.' :: rest), _ =>
    some (optional (exponent? ['e', 'E']) (optional (digits? Char.isDigit) rest))
  | some rest, _ => exponent? ['e', 'E'] rest
  | none, '.' :: rest => (digits? Char.isDigit rest).map (optional (exponent? ['e', 'E']))
  | none, _ => none

/-- The digits of a hexadecimal number, perhaps with a point among them. -/
def hexMantissa? (cs : List Char) : Option (List Char) :=
  match spacedDigits? isHexDigit cs, cs with
  | some ('.' :: rest), _ => some (optional (digits? isHexDigit) rest)
  | some rest, _ => some rest
  | none, '.' :: rest => digits? isHexDigit rest
  | none, _ => none

/-- A hexadecimal number with an exponent. -/
def hexFloat? : Behind
  | '0' :: rest => do exponent? ['p', 'P'] (← hexMantissa? (← oneOf? ['x', 'X'] rest))
  | _ => none

/-- The longest number. -/
def number? (cs : List Char) : Option (List Char) :=
  let real := [integer? cs, decimalFloat? cs, hexFloat? cs].filterMap id
  let imaginary := ((digits? Char.isDigit cs).toList ++ real).filterMap (oneOf? ['i'])
  longest? (imaginary ++ real)

/-! ## Literals in quotes -/

/-- An escape in a rune, behind its backslash. -/
def runeEscape? : Behind
  | [] => none
  | c :: rest =>
    if c = 'x' then exactly? isHexDigit 2 rest
    else if c = 'u' then exactly? isHexDigit 4 rest
    else if c = 'U' then exactly? isHexDigit 8 rest
    else if isOctalDigit c then exactly? isOctalDigit 2 rest
    else if "abfnrtv\\'\"".toList.contains c then some rest
    else none

/-- One character between single quotes. -/
def rune? : Behind
  | '\'' :: '\\' :: rest => do oneOf? ['\''] (← runeEscape? rest)
  | '\'' :: c :: rest => if c = '\'' || c = '\x00' then none else oneOf? ['\''] rest
  | _ => none

/-- How many hexadecimal digits follow the letter of an escape in a string at least. -/
def escapeDigits (letter : Char) : Nat :=
  if letter = 'x' then 2 else if letter = 'u' then 4 else if letter = 'U' then 8 else 0

/-- Whether an escape with the given letter is complete in front of a text. -/
def escapeIsComplete (letter : Char) (rest : List Char) : Bool :=
  letter ≠ '\x00' && (rest.takeWhile isHexDigit).length ≥ escapeDigits letter

/-- A string behind its opening quote. A backslash goes together with the character behind it. -/
def stringTail? : Behind
  | [] => none
  | '\\' :: c :: rest => if escapeIsComplete c rest then stringTail? rest else none
  | c :: rest =>
    if c = '"' then some rest
    else if c = '\n' || c = '\x00' then none
    else stringTail? rest

def string? : Behind
  | '"' :: rest => stringTail? rest
  | _ => none

/-- The text behind the first of the given characters, unless a NUL stands before it. -/
def behindFirst? (closing : Char) : Behind
  | [] => none
  | c :: rest =>
    if c = closing then some rest else if c = '\x00' then none else behindFirst? closing rest

def rawString? : Behind
  | '\x60' :: rest => behindFirst? '\x60' rest
  | _ => none

/-! ## Comments -/

/-- The text behind the end of a block comment. -/
def blockTail? : Behind
  | [] => none
  | '*' :: '/' :: rest => some rest
  | c :: rest => if c = '\x00' then none else blockTail? rest

/-- A comment. One to the end of the line does not hold the line end. -/
def comment? : Behind
  | '/' :: '/' :: rest => some (rest.dropWhile fun c => c ≠ '\n' && c ≠ '\x00')
  | '/' :: '*' :: rest => blockTail? rest
  | _ => none

end QueryGen.Go.Lexeme
