import QueryGen.Catalog.Basic
import QueryGen.Data.Json.Reader
import QueryGen.Data.Yaml.Reader
import QueryGen.WorkDir

/-!
# Schema files

A schema file lists the tables of a database, as YAML or as JSON.

- `SchemaFormat.ofPath`: the format of a file by its extension.
- `tables?`: the tables of a file, in either notation.
- `Schema.parse`: a schema whose tables have different names.
- `Schema.catalog`: its answers.
-/

namespace QueryGen

inductive SchemaFormat where
  | yaml | json
deriving DecidableEq, Repr, Inhabited

/-- The format of a file by the extension of its name. -/
def SchemaFormat.ofPath (path : String) : Except CatalogError SchemaFormat :=
  match Path.extension? path with
  | some "yaml" => .ok .yaml
  | some "yml" => .ok .yaml
  | some "json" => .ok .json
  | extension => .error (.unknownExtension extension)

/-! ## The tables of a file -/

namespace SchemaFile

variable {σ : Type} [Scalar σ]

/-- A column. Its type is written in SQL. -/
def column? (t : Tree σ) : Option Column := do
  let f ← t.fields? ["name", "type", "nullable", "default", "comment", "primary_key",
    "auto_increment"]
  return {
    name := ← f.required "name" Tree.text?
    type := DataType.ofSql (← f.required "type" Tree.text?)
    nullable := ← f.flag "nullable"
    default := ← f.textOrNull "default"
    comment := ← f.textOrNull "comment"
    isPrimaryKey := ← f.flag "primary_key"
    autoIncrement := ← f.flag "auto_increment" }

def table? (t : Tree σ) : Option Table := do
  let f ← t.fields? ["name", "schema", "comment", "view", "columns"]
  let isView ← f.flag "view"
  return {
    name := ← f.required "name" Tree.text?
    schema := ← f.withDefault "schema" "" Tree.text?
    comment := ← f.textOrNull "comment"
    columns := ← f.withDefault "columns" [] (Tree.listOf column?)
    kind := if isView then .view else .table }

/-- The tables of a file. -/
def tables? (t : Tree σ) : Option (List Table) := do
  let f ← t.fields? ["tables"]
  f.withDefault "tables" [] (Tree.listOf table?)

end SchemaFile

/-! ## Schemas -/

/-- Whether two tables have one schema and name. -/
def Table.clashes (t u : Table) : Bool := t.name == u.name && t.schema == u.schema

/-- The first table that clashes with one before it. `seen` holds the tables before the list. -/
def firstClash? (seen : List Table) : List Table → Option Table
  | [] => none
  | t :: rest => if seen.any (·.clashes t) then some t else firstClash? (seen ++ [t]) rest

theorem firstClash?_eq_none_iff {seen tables : List Table} :
    firstClash? seen tables = none ↔
      tables.Pairwise (fun t u => t.clashes u = false) ∧
        ∀ t ∈ seen, ∀ u ∈ tables, t.clashes u = false := by
  induction tables generalizing seen with
  | nil => simp [firstClash?]
  | cons t rest ih =>
    by_cases h : seen.any (·.clashes t) = true
    · simp only [firstClash?, h, if_true, reduceCtorEq, false_iff, not_and]
      obtain ⟨u, hu, hc⟩ := List.any_eq_true.1 h
      intro _ hall
      simp [hall u hu t (by simp)] at hc
    · have hfree : ∀ u ∈ seen, u.clashes t = false := by simpa using h
      rw [firstClash?, if_neg h, ih, List.pairwise_cons]
      constructor
      · rintro ⟨hrest, hall⟩
        refine ⟨⟨fun u hu => hall t (by simp) u hu, hrest⟩, fun u hu v hv => ?_⟩
        rcases List.mem_cons.1 hv with rfl | hv
        · exact hfree u hu
        · exact hall u (by simp [hu]) v hv
      · rintro ⟨⟨hhead, hrest⟩, hall⟩
        refine ⟨hrest, fun u hu v hv => ?_⟩
        rcases List.mem_append.1 hu with hu | hu
        · exact hall u hu v (by simp [hv])
        · exact (List.mem_singleton.1 hu) ▸ hhead v hv

/-- The tables of a database, in the order of their file. -/
structure Schema where
  tables : List Table
deriving DecidableEq, Repr, Inhabited

namespace Schema

/-- A schema of tables that do not clash. -/
def checked (tables : List Table) : Except CatalogError Schema :=
  match firstClash? [] tables with
  | some t => .error (.duplicateTable t.name)
  | none => .ok ⟨tables⟩

/-- The schema of a text. -/
def parse (format : SchemaFormat) (contents : String) : Except CatalogError Schema :=
  let tables := match format with
    | .yaml => (Yaml.parse contents).bind SchemaFile.tables?
    | .json => (Json.parseLoose contents).bind SchemaFile.tables?
  match tables with
  | some tables => checked tables
  | none => .error .malformed

/-- The schema of a file. -/
def load (read : FileReader) (path : String) : Except CatalogError Schema := do
  let format ← SchemaFormat.ofPath path
  match read path with
  | .ok contents => parse format contents
  | .error reason => .error (.unreadable path reason)

/-- The first table that goes by a name. -/
def find? (s : Schema) (query : String) : Option Table := s.tables.find? (·.isNamed query)

/-- The answers of a schema. -/
def catalog (s : Schema) : Catalog where
  tables := .ok s.tables
  columns query := match s.find? query with
    | some t => .ok t.columns
    | none => .error (.notFound query)

theorem tables_of_checked {tables : List Table} {s : Schema} (h : checked tables = .ok s) :
    s.tables = tables ∧ tables.Pairwise (fun t u => t.clashes u = false) := by
  unfold checked at h
  split at h
  · simp at h
  · rename_i hfree
    obtain rfl := Except.ok.inj h
    exact ⟨rfl, (firstClash?_eq_none_iff.1 hfree).1⟩

end Schema

end QueryGen
