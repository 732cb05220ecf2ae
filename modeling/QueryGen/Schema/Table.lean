import QueryGen.Schema.DataType

/-!
# Tables

- `Column`, `Table`: what a catalog knows of a table.
- `splitQualified`: the schema and the name of a table as they are written with a dot.
-/

namespace QueryGen

structure Column where
  name : String
  type : DataType
  nullable : Bool := false
  default : Option String := none
  comment : Option String := none
  isPrimaryKey : Bool := false
  autoIncrement : Bool := false
deriving DecidableEq, Repr, Inhabited

/-- The Go type of the column. -/
def Column.goType (c : Column) : GoType := c.type.goType c.nullable

inductive TableKind where
  | table | view
  | other (name : String)
deriving DecidableEq, Repr, Inhabited

structure Table where
  name : String
  /-- Empty when there is none. -/
  schema : String := ""
  columns : List Column
  comment : Option String := none
  kind : TableKind := .table
deriving DecidableEq, Repr, Inhabited

namespace Table

/-- The first column of a name. -/
def column? (t : Table) (name : String) : Option Column := t.columns.find? (·.name == name)

def primaryKeys (t : Table) : List Column := t.columns.filter (·.isPrimaryKey)

end Table

/-- The text before the first dot, if there is one, and the text behind it. -/
def splitQualified (name : String) : Option String × String :=
  match Text.cutFirst? (· == '.') name.toList with
  | some (schema, name) => (some (.ofList schema), .ofList name)
  | none => (none, name)

/-- Whether a table goes by a name, with its schema in front or without. -/
def Table.isNamed (t : Table) (query : String) : Bool :=
  let (schema, name) := splitQualified query
  t.name == name && schema.all (t.schema == ·)

end QueryGen
