import QueryGen.Text.Class

/-!
# Go identifiers

- `isIdentifier`: a letter or an underscore, then letters, digits and underscores.
- `isGoIdentifier`: an identifier that is no keyword.
-/

namespace QueryGen.Go

/-- A letter, a digit or an underscore. -/
def isIdentChar (c : Char) : Bool := Text.isWord c || c == '_'

def isIdentStart (c : Char) : Bool := Text.isLetter c || c == '_'

/-- The shape of an identifier; keywords have it too. -/
def isIdentifierText : List Char → Bool
  | [] => false
  | c :: rest => isIdentStart c && rest.all isIdentChar

def isIdentifier (name : String) : Bool := isIdentifierText name.toList

def keywords : List String :=
  ["break", "case", "chan", "const", "continue", "default", "defer", "else", "fallthrough", "for",
   "func", "go", "goto", "if", "import", "interface", "map", "package", "range", "return", "select",
   "struct", "switch", "type", "var"]

/-- A name that Go code may declare. -/
def isGoIdentifier (name : String) : Bool := isIdentifier name && !keywords.contains name

theorem isIdentifier_of_isGoIdentifier {name : String} (h : isGoIdentifier name = true) :
    isIdentifier name = true := by
  simp only [isGoIdentifier, Bool.and_eq_true] at h
  exact h.1

end QueryGen.Go
