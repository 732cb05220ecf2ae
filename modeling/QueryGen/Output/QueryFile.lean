import QueryGen.Method.Basic
import QueryGen.Model.Basic
import QueryGen.Output.Layout

/-!
# Query files

- `GeneratedMethod`: a compiled method with the comment and the imports that it needs.
- `QueryFile`: what a query file is written from.
- `QueryFile.imports`: the imports of the file.
- `GeneratedMethod.lines`: the lines of a method.
- `QueryFile.source`: the Go source of the file.
-/

namespace QueryGen

/-- A compiled method. -/
structure GeneratedMethod where
  method : QueryMethod
  compiled : Compiled
  /-- The comment of the method in its interface. -/
  comment : String
  /-- The packages that the signature names. -/
  imports : List Import := []
deriving Inhabited

/-- What a query file is written from. -/
structure QueryFile where
  package : String
  model : Model
  receiver : String
  modelImport : Import
  /-- The path of the package of query objects. -/
  genImport : String
  /-- The qualifier of that package. -/
  genPackage : String
  methods : List GeneratedMethod
deriving Inhabited

/-- An import of a path that goes by a qualifier. -/
def Import.ofQualifier (qualifier path : String) : Import where
  name := if lastSegment path = qualifier then none else some qualifier
  path := path

@[simp] theorem Import.qualifier_ofQualifier (qualifier path : String) :
    (Import.ofQualifier qualifier path).qualifier = qualifier := by
  by_cases h : lastSegment path = qualifier <;> simp [Import.ofQualifier, Import.qualifier, h]

/-! ## Methods -/

namespace GeneratedMethod

/-- The call that runs the statement. -/
def call (g : GeneratedMethod) : String :=
  let args := g.compiled.execArgs
  match g.method.exec, g.method.data?, g.method.scan? with
  | .raw, some data, some kind =>
    "Raw(" ++ args ++ ")." ++ kind.method ++ "(&" ++ data.name ++ ")"
  | .filter, some data, some kind =>
    "Where(" ++ args ++ ")." ++ kind.method ++ "(&" ++ data.name ++ ")"
  | _, _, _ => "Exec(" ++ args ++ ")"

/-- The lines that set the results other than the data. -/
def resultLines (g : GeneratedMethod) : List String :=
  let run := Reserved.execution
  let rows := match g.method.rowsAffected? with
    | some r => ["\t" ++ r.name ++ " = " ++ r.type.text ++ "(" ++ run ++ ".RowsAffected)"]
    | none => []
  let error := match g.method.error?, g.method.rowsAffected? with
    | some e, _ => ["\t" ++ e.name ++ " = " ++ run ++ ".Error"]
    | none, none => ["\t_ = " ++ run]
    | none, some _ => []
  rows ++ error

/-- The lines of a method. -/
def lines (receiver doType : String) (g : GeneratedMethod) : List String :=
  let run := Reserved.execution
  Output.commentLines g.comment ++
  ["func (" ++ receiver ++ " " ++ doType ++ ") " ++ g.method.signature ++ " \x7b"] ++
  g.compiled.statements.map ("\t" ++ ·) ++
  ["", "\tvar " ++ run ++ " *gorm.DB",
    "\t" ++ run ++ " = " ++ receiver ++ ".UnderlyingDB()." ++ g.call ++
      " // ignore_security_alert"] ++
  g.resultLines ++
  ["\treturn", "\x7d"]

end GeneratedMethod

/-! ## Files -/

namespace QueryFile

/-- The name of the query type. -/
def queryType (f : QueryFile) : String := Naming.lowerFirst f.model.name

/-- The name of the type that carries the methods. -/
def doType (f : QueryFile) : String := f.queryType ++ "Do"

/-- The name of the function that makes a query object. -/
def constructor (f : QueryFile) : String := "new" ++ f.model.name

/-- The imports of the file, before they are sorted. -/
def imports (f : QueryFile) : List Import :=
  [.ofQualifier f.genPackage f.genImport, { path := f.genImport ++ "/field" },
    { path := "gorm.io/gorm" }] ++
  (if f.methods.isEmpty then [] else [{ path := "strings" }]) ++
  (if f.methods.any (·.compiled.needsFormat) then [{ path := "fmt" }] else []) ++
  f.modelImport :: f.methods.flatMap (·.imports)

/-- The lines of the function that makes a query object. -/
def constructorLines (f : QueryFile) : List String :=
  let obj := "_" ++ f.queryType
  ["func " ++ f.constructor ++ "(db *gorm.DB) " ++ f.queryType ++ " \x7b",
    "\t" ++ obj ++ " := " ++ f.queryType ++ "\x7b\x7d", "",
    "\t" ++ obj ++ "." ++ f.doType ++ ".UseDB(db)",
    "\t" ++ obj ++ "." ++ f.doType ++ ".UseModel(&" ++ f.model.goType.text ++ "\x7b\x7d)", "",
    "\ttableName := " ++ obj ++ "." ++ f.doType ++ ".TableName()",
    "\t" ++ obj ++ ".ALL = field.NewAsterisk(tableName)"] ++
  f.model.fields.map (fun c => "\t" ++ obj ++ "." ++ c.name ++ " = field.New" ++ c.kind ++
    "(tableName, \"" ++ c.column ++ "\")") ++
  ["", "\treturn " ++ obj, "\x7d", ""]

/-- The lines of the query types. -/
def typeLines (f : QueryFile) : List String :=
  let rows := ["ALL", "field.Asterisk"] :: f.model.fields.map fun c => [c.name, "field." ++ c.kind]
  ["type " ++ f.queryType ++ " struct \x7b", "\t" ++ f.doType, ""] ++
  Output.alignedLines rows ++
  ["\x7d", "",
    "func (" ++ f.receiver ++ " " ++ f.queryType ++ ") TableName() string \x7b return " ++
      f.receiver ++ "." ++ f.doType ++ ".TableName() \x7d", "",
    "type " ++ f.doType ++ " struct\x7b " ++ f.genPackage ++ ".DO \x7d"]

/-- The lines of the file. -/
def lines (f : QueryFile) : List String :=
  Output.preamble f.package f.imports ++ f.constructorLines ++ f.typeLines ++
  f.methods.flatMap fun g => "" :: g.lines f.receiver f.doType

/-- The Go source of the file. -/
def source (f : QueryFile) : String := Output.unlines f.lines

end QueryFile

end QueryGen
