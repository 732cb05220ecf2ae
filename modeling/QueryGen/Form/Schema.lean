import QueryGen.Data.Json
import QueryGen.Schema.Dialect
import QueryGen.Schema.Table

/-!
# Tables as JSON

- `DataType.toJson`, `Column.toJson`, `Table.toJson` and their readers.
- `Dialect.ofJson?`: a dialect by its name.
-/

namespace QueryGen

open Json (str)

def Dialect.ofJson? : Json → Option Dialect := Json.choice? Dialect.ofName?

namespace DataType

/-- The types that have no parts, by name. -/
def units : List (String × DataType) :=
  [("Integer", integer), ("BigInt", bigInt), ("SmallInt", smallInt), ("TinyInt", tinyInt),
   ("Decimal", decimal), ("Float", float), ("Double", double), ("Text", text),
   ("Binary", binary), ("Blob", blob), ("Date", date), ("Time", time), ("DateTime", dateTime),
   ("Timestamp", timestamp), ("Boolean", boolean), ("Json", json), ("Uuid", uuid)]

def toJson : DataType → Json
  | varchar length => .record [("Varchar", Json.ofOption Json.nat length)]
  | char length => .record [("Char", Json.ofOption Json.nat length)]
  | varBinary length => .record [("VarBinary", Json.ofOption Json.nat length)]
  | enum values => .record [("Enum", Json.texts values)]
  | other declaration => .record [("Other", str declaration)]
  | integer => str "Integer"
  | bigInt => str "BigInt"
  | smallInt => str "SmallInt"
  | tinyInt => str "TinyInt"
  | decimal => str "Decimal"
  | float => str "Float"
  | double => str "Double"
  | text => str "Text"
  | binary => str "Binary"
  | blob => str "Blob"
  | date => str "Date"
  | time => str "Time"
  | dateTime => str "DateTime"
  | timestamp => str "Timestamp"
  | boolean => str "Boolean"
  | json => str "Json"
  | uuid => str "Uuid"

def ofJson? (t : Json) : Option DataType := do
  let (kind, content) ← t.variant?
  match kind with
  | "Varchar" => return varchar (← content.bind (Tree.orNull Json.nat?))
  | "Char" => return char (← content.bind (Tree.orNull Json.nat?))
  | "VarBinary" => return varBinary (← content.bind (Tree.orNull Json.nat?))
  | "Enum" => return enum (← content.bind (Tree.listOf Tree.text?))
  | "Other" => return other (← content.bind Tree.text?)
  | name => if Json.isUnit content then units.lookup name else none

end DataType

def Column.toJson (c : Column) : Json :=
  .record [("name", str c.name), ("data_type", c.type.toJson), ("nullable", Json.bool c.nullable),
    ("default_value", Json.ofOption str c.default), ("comment", Json.ofOption str c.comment),
    ("is_primary_key", Json.bool c.isPrimaryKey), ("auto_increment", Json.bool c.autoIncrement)]

def Column.ofJson? (t : Json) : Option Column := do
  let f ← t.fields? ["name", "data_type", "nullable", "default_value", "comment",
    "is_primary_key", "auto_increment"]
  return {
    name := ← f.required "name" Tree.text?
    type := ← f.required "data_type" DataType.ofJson?
    nullable := ← f.flag "nullable"
    default := ← f.textOrNull "default_value"
    comment := ← f.textOrNull "comment"
    isPrimaryKey := ← f.flag "is_primary_key"
    autoIncrement := ← f.flag "auto_increment" }

def TableKind.toJson : TableKind → Json
  | table => str "Table"
  | view => str "View"
  | other name => .record [("Other", str name)]

def TableKind.ofJson? (t : Json) : Option TableKind := do
  let (kind, content) ← t.variant?
  match kind with
  | "Table" => if Json.isUnit content then some table else none
  | "View" => if Json.isUnit content then some view else none
  | "Other" => return other (← content.bind Tree.text?)
  | _ => none

def Table.toJson (t : Table) : Json :=
  .record [("name", str t.name), ("schema", str t.schema),
    ("columns", Json.array Column.toJson t.columns), ("comment", Json.ofOption str t.comment),
    ("table_type", t.kind.toJson)]

def Table.ofJson? (t : Json) : Option Table := do
  let f ← t.fields? ["name", "schema", "columns", "comment", "table_type"]
  return {
    name := ← f.required "name" Tree.text?
    schema := ← f.withDefault "schema" "" Tree.text?
    columns := ← f.required "columns" (Tree.listOf Column.ofJson?)
    comment := ← f.textOrNull "comment"
    kind := ← f.withDefault "table_type" .table TableKind.ofJson? }

end QueryGen
