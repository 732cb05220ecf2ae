import QueryGen.Text.Basic

/-!
# Checks of generated lines

- `isBalanced`: every block that a line opens is closed by a later one.
- `inOrder`: given lines occur in the given order.
- `hasLine`, `countContaining`: how often a line, or a text in lines, occurs.
-/

namespace QueryGen.Lines

/-- Whether a line, blanks at its ends aside, is among the lines. -/
def hasLine (lines : List String) (line : String) : Bool := lines.any (trimmed · == line)

/-- Whether a text occurs in a line. -/
def mentions (needle line : String) : Bool := Text.contains needle.toList line.toList

/-- The number of lines with a text. -/
def countContaining (lines : List String) (needle : String) : Nat :=
  lines.countP (mentions needle)

/-- Whether the expected lines occur one behind the other. -/
def inOrder : List String → List String → Bool
  | _, [] => true
  | [], _ :: _ => false
  | line :: lines, want :: wants =>
    if trimmed line == want then inOrder lines wants else inOrder lines (want :: wants)

/-- Whether a line closes a block. -/
def closes (line : String) : Bool := (trimmed line).toList.head? == some '\x7d'

/-- Whether a line opens a block. -/
def opens (line : String) : Bool := (trimmed line).toList.getLast? == some '\x7b'

/-- The number of open blocks behind the lines, unless one closes a block that is not open. -/
def depthAfter? : Nat → List String → Option Nat
  | depth, [] => some depth
  | depth, line :: rest =>
    match closes line, depth with
    | true, 0 => none
    | true, depth + 1 => depthAfter? (if opens line then depth + 1 else depth) rest
    | false, depth => depthAfter? (if opens line then depth + 1 else depth) rest

/-- Every block is opened before it is closed, and closed at the end. -/
def isBalanced (lines : List String) : Bool := depthAfter? 0 lines == some 0

theorem inOrder_nil (lines : List String) : inOrder lines [] = true := by
  cases lines <;> rfl

end QueryGen.Lines
