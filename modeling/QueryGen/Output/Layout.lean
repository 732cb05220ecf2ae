import QueryGen.Go.Declaration

/-!
# Layout of generated Go files

A file is written as a list of lines; a line may hold line ends of its own.

- `Import.line`: an import as Go spells it.
- `importLines`: the import block, the standard library first.
- `preamble`: the lines up to the first declaration.
- `commentLines`: a text as line comments.
- `alignedLines`: rows of cells in columns of equal width.
-/

namespace QueryGen

/-- An import as Go spells it. -/
def Import.line (i : Import) : String :=
  let path := "\"" ++ i.path ++ "\""
  match i.name with
  | some name => name ++ " " ++ path
  | none => path

/-- Whether a package belongs to the standard library: there is no dot before the first slash. -/
def Import.isStandard (i : Import) : Bool :=
  !(i.path.toList.takeWhile (· ≠ '/')).contains '.'

namespace Output

/-- Leaves out all but the first of imports of one path that follow each other. -/
def dropRepeated : List Import → List Import
  | [] => []
  | i :: rest =>
    match dropRepeated rest with
    | [] => [i]
    | j :: kept => if i.path = j.path then i :: kept else i :: j :: kept

/-- Imports sorted by path. Of several imports of one path the first counts. -/
def sortImports (imports : List Import) : List Import :=
  dropRepeated (imports.mergeSort fun a b => !(b.path < a.path))

/-- The import block. -/
def importLines (imports : List Import) : List String :=
  let standard := sortImports (imports.filter (·.isStandard))
  let others := sortImports (imports.filter (!·.isStandard))
  let indented := List.map fun (i : Import) => "\t" ++ i.line
  match standard, others with
  | [], [] => []
  | [only], [] | [], [only] => ["import " ++ only.line, ""]
  | [], _ => ["import ("] ++ indented others ++ [")", ""]
  | _, [] => ["import ("] ++ indented standard ++ [")", ""]
  | _, _ => ["import ("] ++ indented standard ++ [""] ++ indented others ++ [")", ""]

/-- The first line of every generated file. -/
def header : String := "// Code generated by sqlgen. DO NOT EDIT."

/-- The lines up to the first declaration. -/
def preamble (package : String) (imports : List Import) : List String :=
  [header, "", "package " ++ package, ""] ++ importLines imports

/-- A line as a line comment. -/
def commentLine (line : List Char) : String :=
  if Text.isBlankText line then "//" else "// " ++ .ofList line

/-- A text as line comments. -/
def commentLines (text : String) : List String := (Text.lines text.toList).map commentLine

/-- The width of each column: that of its widest cell, where another cell follows it. -/
def columnWidths (rows : List (List String)) : List Nat :=
  let columns := (rows.map List.length).foldl max 0
  (List.range columns).map fun c =>
    ((rows.filter (c + 1 < ·.length)).map fun row => (row.getD c "").length).foldl max 0

/-- A cell with spaces up to a width, and one space behind it. -/
def padded (width : Nat) (cell : String) : String :=
  cell ++ .ofList (List.replicate (width - cell.length) ' ') ++ " "

/-- The cells of a row, all but the last padded. -/
def rowText : List Nat → List String → String
  | _, [] => ""
  | _, [cell] => cell
  | width :: widths, cell :: rest => padded width cell ++ rowText widths rest
  | [], cell :: rest => padded 0 cell ++ rowText [] rest

/-- Rows of cells in columns of equal width, behind a tab. -/
def alignedLines (rows : List (List String)) : List String :=
  let widths := columnWidths rows
  rows.map fun row => .ofList (Text.trimEnd ('\t' :: (rowText widths row).toList))

/-- The text of lines, each with a line end. -/
def unlines (lines : List String) : String := String.join (lines.map (· ++ "\n"))

theorem unlines_append (a b : List String) : unlines (a ++ b) = unlines a ++ unlines b := by
  simp [unlines, String.join_append]

end Output

end QueryGen
