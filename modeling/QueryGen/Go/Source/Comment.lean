import QueryGen.Text.Basic

/-!
# Comments

- `stripMarkers`: the lines of a comment without its markers.
- `joinDoc`: the text of comment lines, without blank lines at its ends.
-/

namespace QueryGen.Go

/-- A line of a block comment without blanks at its ends and without a leading star. -/
def stripStar (line : List Char) : List Char :=
  match Text.trim line with
  | '*' :: ' ' :: rest => rest
  | '*' :: rest => rest
  | line => line

/-- The text between the markers of a block comment. Other text is left alone. -/
def blockText (comment : List Char) : List Char :=
  match comment with
  | '/' :: '*' :: rest =>
    match rest.reverse with
    | '/' :: '*' :: inner => inner.reverse
    | _ => comment
  | _ => comment

/-- The lines of a comment. A line comment loses one space behind its marker, a block comment its
leading blank lines. -/
def stripMarkers (comment : List Char) : List (List Char) :=
  match comment with
  | '/' :: '/' :: line =>
    match line with
    | ' ' :: rest => [Text.trimEnd rest]
    | _ => [Text.trimEnd line]
  | _ => ((Text.lines (blockText comment)).map stripStar).dropWhile (· == [])

/-- The lines from the first to the last that is not blank. -/
def joinDoc (lines : List (List Char)) : List Char :=
  let rest := lines.dropWhile Text.isBlankText
  Text.join ['\n'] ((rest.reverse.dropWhile Text.isBlankText).reverse)

end QueryGen.Go
