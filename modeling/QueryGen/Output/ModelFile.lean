import QueryGen.Model.Basic
import QueryGen.Output.Layout

/-!
# Model files

- `modelFile`: the Go source of a model: a constant with the name of its table, the struct, and a
  method that gives the constant.
-/

namespace QueryGen.Output

/-- The cells of a field: its name, type and tag, and its comment if it has one. -/
def fieldRow (f : ModelField) : List String :=
  [f.name, f.type.text, "`" ++ f.tag ++ "`"] ++
  match f.comment with
  | none | some "" => []
  | some comment => ["// " ++ comment]

/-- The comment above the struct. -/
def modelComment (m : Model) : List String :=
  match m.comment.filter (!isBlankString ·) with
  | some comment => commentLines (m.name ++ " " ++ comment)
  | none => ["// " ++ m.name ++ " mapped from table <" ++ m.table ++ ">"]

/-- The packages that the types of the fields name. -/
def modelImports (m : Model) : List Import :=
  m.fields.flatMap fun f => f.type.packages.map fun p => { path := p }

/-- The lines of a model file. -/
def modelLines (m : Model) : List String :=
  let constant := "TableName" ++ m.name
  preamble m.package (modelImports m) ++
  ["const " ++ constant ++ " = \"" ++ m.table ++ "\"", ""] ++
  modelComment m ++
  ["type " ++ m.name ++ " struct \x7b"] ++
  alignedLines (m.fields.map fieldRow) ++
  ["\x7d", "", "// TableName " ++ m.name ++ "'s table name",
    "func (*" ++ m.name ++ ") TableName() string \x7b", "\treturn " ++ constant, "\x7d"]

/-- The Go source of a model. -/
def modelFile (m : Model) : String := unlines (modelLines m)

end QueryGen.Output
