import QueryGen.Text.Class

/-!
# Interpreted string literals of Go

- `quoteChar`: how a character is written between double quotes.
- `quote`: a text as a literal. Control characters are escaped, so a literal stays on one line.
-/

namespace QueryGen.Go

/-- The four lower-case hexadecimal digits of a number below `0x10000`. -/
def hex4 (n : Nat) : List Char :=
  [n / 4096 % 16, n / 256 % 16, n / 16 % 16, n % 16].map Nat.digitChar

/-- A character as it is written inside a literal. -/
def quoteChar (c : Char) : List Char :=
  match c with
  | '"' => ['\\', '"']
  | '\\' => ['\\', '\\']
  | '\n' => ['\\', 'n']
  | '\r' => ['\\', 'r']
  | '\t' => ['\\', 't']
  | c => if Text.isControl c then '\\' :: 'u' :: hex4 c.toNat else [c]

/-- A text as an interpreted string literal. -/
def quoteText (cs : List Char) : List Char := '"' :: (cs.flatMap quoteChar ++ ['"'])

/-- A string as an interpreted string literal. -/
def quote (s : String) : String := .ofList (quoteText s.toList)

theorem quoteText_append (a b : List Char) :
    quoteText (a ++ b) = '"' :: (a.flatMap quoteChar ++ b.flatMap quoteChar ++ ['"']) := by
  simp [quoteText]

end QueryGen.Go
