import QueryGen.Text.Basic
import QueryGen.Text.Case

/-!
# Log filters

A log filter is a list of directives with commas between them. A directive is a level, or the name
of what writes to the log, a span in brackets, or both, with a level behind an equals sign.

- `LogFilterError`: why a text is no filter.
- `isLogLevel`: the names and numbers of levels.
- `checkDirective`, `checkLogFilter`: what keeps a text from being a directive or a filter.
-/

namespace QueryGen

inductive LogFilterError where
  /-- A directive is not of the form that it should have. -/
  | directive
  /-- What stands behind an equals sign is no level. -/
  | level
deriving DecidableEq, Repr, Inhabited

namespace LogFilterError

def message : LogFilterError → String
  | directive => "invalid filter directive"
  | level => "error parsing level filter: expected one of \"off\", \"error\", \"warn\", " ++
      "\"info\", \"debug\", \"trace\", or a number 0-5"

/-- What is said about an error. One about a level has the level's own error as its cause, which
says the same. -/
def causes : LogFilterError → List String
  | directive => [directive.message]
  | level => [level.message, level.message]

end LogFilterError

/-! ## Levels -/

/-- A number of at most five, with a plus sign in front or not. -/
def isLevelNumber (cs : List Char) : Bool :=
  let digits := if cs.head? = some '+' then cs.tail else cs
  !digits.isEmpty && digits.all Char.isDigit &&
    ((digits.dropWhile (· == '0')).isEmpty ||
      ["1", "2", "3", "4", "5"].any (digits.dropWhile (· == '0') == ·.toList))

/-- The levels of a log, by name in any case and by number. -/
def isLogLevel (cs : List Char) : Bool :=
  ["trace", "debug", "info", "warn", "error", "off"].any (Text.sameAsciiCase cs ·.toList) ||
    isLevelNumber cs

/-! ## Directives -/

/-- A character with which a name begins. -/
def startsLogName (c : Char) : Bool := Text.isWord c || ['_', '-', ':'].contains c

/-- What follows a span whose opening bracket is taken. Behind the name of the span there may be a
field in braces, which is not empty. -/
def behindSpan? (cs : List Char) : Option (List Char) :=
  match cs.dropWhile fun c => c ≠ ']' && c ≠ '\x7b' with
  | ']' :: rest => some rest
  | '\x7b' :: rest =>
    match rest.head?, rest.dropWhile (· ≠ '\x7d') with
    | some '\x7d', _ => none
    | _, '\x7d' :: ']' :: rest => some rest
    | _, _ => none
  | _ => none

/-- What follows the name and the span that open a directive. -/
def behindTarget? : List Char → Option (List Char)
  | [] => none
  | '[' :: rest => behindSpan? rest
  | c :: rest =>
    if !startsLogName c then none
    else match rest.dropWhile fun c => c ≠ '=' && c ≠ '[' with
      | '[' :: rest => behindSpan? rest
      | rest => some rest

/-- Blanks around a directive are dropped, but not from a level behind an equals sign. Such a level
may be missing. -/
def checkDirective (cs : List Char) : Except LogFilterError Unit :=
  match behindTarget? (Text.trim cs) with
  | none => .error .directive
  | some [] => .ok ()
  | some ('=' :: level) =>
    if Text.trim cs = cs ∧ (level = [] ∨ isLogLevel level) then .ok () else .error .level
  | some _ => .error .directive

/-- The first thing that keeps a text from being a log filter. Nothing may stand between commas. -/
def checkLogFilter (s : String) : Except LogFilterError Unit :=
  ((Text.splitOn ',' s.toList).filter (· ≠ [])).forM checkDirective

end QueryGen
