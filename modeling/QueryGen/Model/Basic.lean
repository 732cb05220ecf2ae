import QueryGen.Go.Declaration
import QueryGen.Go.Identifier
import QueryGen.Naming.Basic
import QueryGen.Schema.Table

/-!
# Models

A model is the Go struct that the rows of a table are read into. It is made from the columns of
the table, or read from a struct that exists.

- `Model`, `ModelField`: a model and its columns.
- `ModelField.tag`: the struct tag of a field.
- `Model.ofTable`, `Model.ofStruct`: the two ways to a model.
- `Model.registry`: the models as known structs.
-/

namespace QueryGen

/-- A column of a model. -/
structure ModelField where
  name : String
  column : String
  type : GoType
  isPrimaryKey : Bool := false
  autoIncrement : Bool := false
  comment : Option String := none
  /-- The kind of the query field. -/
  kind : String
deriving DecidableEq, Repr, Inhabited

/-- The Go struct of a table. -/
structure Model where
  name : String
  table : String
  /-- The qualifier of the package of the struct. -/
  package : String
  comment : Option String := none
  fields : List ModelField
deriving DecidableEq, Repr, Inhabited

/-- Why there is no model. -/
inductive ModelError where
  | invalidName (name : String)
  | noFields (name : String)
deriving DecidableEq, Repr, Inhabited

def ModelError.message : ModelError → String
  | invalidName name => "invalid Go identifier: " ++ name
  | noFields name => "model " ++ name ++ " has no fields"

/-! ## Tags -/

namespace ModelField

/-- A comment without the characters that end a setting or a tag. -/
def tagComment (comment : String) : String :=
  .ofList (comment.toList.map fun c => if c = '"' ∨ c = ';' ∨ c = '\x60' then ' ' else c)

/-- The settings of a column. -/
def settings (f : ModelField) : List String :=
  ["column:" ++ f.column] ++
  (if f.isPrimaryKey then ["primaryKey"] else []) ++
  (if f.autoIncrement then ["autoIncrement:true"] else []) ++
  match f.comment with
  | none | some "" => []
  | some comment => ["comment:" ++ tagComment comment]

/-- The value of the tag that maps the field to its column. -/
def columnTag (f : ModelField) : String := ";".intercalate f.settings

/-- The whole struct tag, without the quotes around it. -/
def tag (f : ModelField) : String :=
  "gorm:\"" ++ f.columnTag ++ "\" json:\"" ++ f.column ++ "\""

/-- The field of a column. -/
def ofColumn (c : Column) : ModelField where
  name := Naming.goName c.name
  column := c.name
  type := c.goType
  isPrimaryKey := c.isPrimaryKey
  autoIncrement := c.autoIncrement
  comment := c.comment
  kind := c.type.fieldKind

end ModelField

/-! ## Fields of existing structs -/

/-- The query fields of the predeclared types. -/
def scalarKinds : List (String × String) :=
  [("int", "Int"), ("int8", "Int8"), ("int16", "Int16"), ("int32", "Int32"), ("rune", "Int32"),
   ("int64", "Int64"), ("uint", "Uint"), ("uint8", "Uint8"), ("byte", "Uint8"),
   ("uint16", "Uint16"), ("uint32", "Uint32"), ("uint64", "Uint64"), ("float32", "Float32"),
   ("float64", "Float64"), ("bool", "Bool"), ("string", "String")]

/-- The kind of the query field of a Go type. -/
def GoType.fieldKind (t : GoType) : String :=
  if t.deref.isByteSlice then "Bytes"
  else if t.deref.isQualified "time" "Time" then "Time"
  else match t.deref with
    | .named none name => (scalarKinds.lookup name).getD "Field"
    | _ => "Field"

/-- The settings of a tag: parts between semicolons, each a key with a value behind a colon. -/
def tagSettings (tag : String) : List (String × String) :=
  let parts := (Text.splitOn ';' tag.toList).filter (!Text.isBlankText ·)
  parts.map fun part =>
    match Text.cutFirst? (· == ':') part with
    | some (key, value) => (.ofList (Text.trim key), .ofList (Text.trim value))
    | none => (.ofList (Text.trim part), "")

/-- The value of the first setting of a key. The case of the key does not count. -/
def setting? (settings : List (String × String)) (key : String) : Option String :=
  (settings.find? fun s => Text.sameAsciiCase s.1.toList key.toList).map Prod.snd

/-- The model field of a struct field. Fields that are embedded, not exported or left out by their
tag have none. -/
def ModelField.ofStructField? (f : StructField) : Option ModelField :=
  let tag := (f.tagValue? "gorm").getD ""
  if f.embedded || !f.isExported || tag == "-" then none
  else
    let settings := tagSettings tag
    some {
      name := f.name
      column := ((setting? settings "column").filter (· ≠ "")).getD (Naming.columnName f.name)
      type := f.type
      isPrimaryKey := (setting? settings "primaryKey").isSome ||
        (setting? settings "primary_key").isSome || f.name == "ID"
      autoIncrement := (setting? settings "autoIncrement").any (· ≠ "false")
      comment := setting? settings "comment"
      kind := f.type.fieldKind }

/-! ## Models -/

namespace Model

/-- A model with a usable name and at least one field. -/
def checked (m : Model) : Except ModelError Model :=
  if !Go.isGoIdentifier m.name then .error (.invalidName m.name)
  else if m.fields.isEmpty then .error (.noFields m.name)
  else .ok m

/-- The model of a table. -/
def ofTable (t : Table) (package : String) : Except ModelError Model :=
  checked {
    name := Naming.structName t.name
    table := t.name
    package
    comment := t.comment
    fields := t.columns.map ModelField.ofColumn }

/-- A struct that exists as the model of a table. -/
def ofStruct (d : StructDecl) (table package : String) : Except ModelError Model :=
  checked { name := d.name, table, package, fields := d.fields.filterMap ModelField.ofStructField? }

/-- The type of the struct. -/
def goType (m : Model) : GoType := .qualified m.package m.name

def field? (m : Model) (name : String) : Option ModelField := m.fields.find? (·.name == name)

def primaryKeys (m : Model) : List ModelField := m.fields.filter (·.isPrimaryKey)

/-- The fields that templates may refer to. -/
def shape (m : Model) : StructShape :=
  ⟨m.name, m.fields.map fun f => { name := f.name, type := f.type }⟩

/-- The models as known structs. -/
def registry (models : List Model) : StructRegistry :=
  .ofList (models.map fun m => (m.goType, m.shape))

theorem name_of_checked {m n : Model} (h : checked m = .ok n) : n = m := by
  unfold checked at h
  split at h
  · simp at h
  · split at h
    · simp at h
    · exact (Except.ok.inj h).symm

end Model

end QueryGen
