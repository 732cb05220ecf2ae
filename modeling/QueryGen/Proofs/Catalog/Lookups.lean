import QueryGen.Catalog.SchemaFile
import QueryGen.Proofs.Model.TagPairs

/-!
# Lookups in a schema

A table is asked for by its name alone, or with its schema and a dot in front. The schema gives the
whole table or only its columns, and both answers come from one search.

- `Table.isNamed_qualified_iff`, `Table.isNamed_iff_of_notMem`: which tables a query names.
- `Schema.table_catalog`: the table that a schema gives is the first one that the query names.
- `Schema.Answers`: what a schema answers. `answers_of_parse`: so does every schema that is read.
-/

namespace QueryGen

/-! ## Names of tables -/

section Names

variable {query schema name : String} {t u : Table}

theorem splitQualified_of_notMem (h : '.' ∉ query.toList) :
    splitQualified query = (none, query) := by
  rw [splitQualified, Text.cutFirst?_eq_none h]

/-- The first dot ends the schema, so the name may hold dots. -/
theorem splitQualified_append (h : '.' ∉ schema.toList) (name : String) :
    splitQualified (schema ++ "." ++ name) = (some schema, name) := by
  have htext : (schema ++ "." ++ name).toList = schema.toList ++ '.' :: name.toList := by simp
  rw [splitQualified, htext, Text.cutFirst?_quote h]
  simp

namespace Table

theorem isNamed_iff_of_notMem (h : '.' ∉ query.toList) :
    t.isNamed query = true ↔ t.name = query := by
  simp [isNamed, splitQualified_of_notMem h]

theorem isNamed_qualified_iff (h : '.' ∉ schema.toList) :
    t.isNamed (schema ++ "." ++ name) = true ↔ t.name = name ∧ t.schema = schema := by
  simp [isNamed, splitQualified_append h]

theorem clashes_eq_false_iff :
    t.clashes u = false ↔ ¬(t.schema = u.schema ∧ t.name = u.name) := by
  rw [Bool.eq_false_iff, clashes]
  simp [and_comm]

end Table

end Names

/-! ## Searches -/

namespace Schema

variable {s : Schema} {query : String} {t : Table}

/-- The answer for the whole table, where columns that the list of tables leaves out are asked for
once more, is the first table that the query names. -/
theorem table_catalog (s : Schema) (query : String) :
    s.catalog.table query = match s.find? query with
      | some t => .ok t
      | none => .error (.notFound query) := by
  cases hfind : s.find? query with
  | none =>
    have hnone : s.tables.find? (·.isNamed query) = none := hfind
    simp [Catalog.table, catalog, hnone, throw, throwThe, MonadExceptOf.throw, bind, Except.bind]
  | some t =>
    have hsome : s.tables.find? (·.isNamed query) = some t := hfind
    by_cases hempty : t.columns = []
    · have hsame : { t with columns := [] } = t := by rw [← hempty]
      simp [Catalog.table, catalog, hfind, hsome, hempty, hsame, bind, Except.bind, pure,
        Except.pure]
    · simp [Catalog.table, catalog, hsome, hempty, bind, Except.bind, pure, Except.pure]

/-- A table that is found is given in both ways. -/
theorem answers_of_find? (h : s.find? query = some t) :
    s.catalog.table query = .ok t ∧ s.catalog.columns query = .ok t.columns := by
  rw [table_catalog, h]
  simp [catalog, h]

/-- Tables that do not clash are told apart by schema and name. -/
theorem find?_qualified
    (hapart : s.tables.Pairwise fun t u => ¬(t.schema = u.schema ∧ t.name = u.name))
    (ht : t ∈ s.tables) (hschema : '.' ∉ t.schema.toList) :
    s.find? (t.schema ++ "." ++ t.name) = some t := by
  obtain ⟨front, back, htables⟩ := List.append_of_mem ht
  rw [htables, List.pairwise_append] at hapart
  rw [find?, List.find?_eq_some_iff_append]
  refine ⟨(Table.isNamed_qualified_iff hschema).2 ⟨rfl, rfl⟩, front, back, htables, fun u hu => ?_⟩
  have hother : ¬(u.schema = t.schema ∧ u.name = t.name) := hapart.2.2 u hu t List.mem_cons_self
  rw [Bool.not_eq_true', Bool.eq_false_iff, Ne, Table.isNamed_qualified_iff hschema]
  exact fun h => hother ⟨h.2, h.1⟩

theorem find?_unqualified {front back : List Table} (htables : s.tables = front ++ t :: back)
    (hfirst : ∀ u ∈ front, u.name ≠ t.name) (hname : '.' ∉ t.name.toList) :
    s.find? t.name = some t := by
  rw [find?, List.find?_eq_some_iff_append]
  refine ⟨(Table.isNamed_iff_of_notMem hname).2 rfl, front, back, htables, fun u hu => ?_⟩
  rw [Bool.not_eq_true', Bool.eq_false_iff, Ne, Table.isNamed_iff_of_notMem hname]
  exact hfirst u hu

/-! ## Answers -/

/-- What a schema answers. -/
structure Answers (s : Schema) : Prop where
  /-- No two tables have one schema and name. -/
  apart : s.tables.Pairwise fun t u => ¬(t.schema = u.schema ∧ t.name = u.name)
  /-- Behind a schema without a dot, a table is found by its name. -/
  qualified : ∀ t ∈ s.tables, '.' ∉ t.schema.toList →
    s.catalog.table (t.schema ++ "." ++ t.name) = .ok t ∧
      s.catalog.columns (t.schema ++ "." ++ t.name) = .ok t.columns
  /-- By a name alone, the first table of that name is found. -/
  unqualified : ∀ front t back, s.tables = front ++ t :: back → (∀ u ∈ front, u.name ≠ t.name) →
    '.' ∉ t.name.toList →
      s.catalog.table t.name = .ok t ∧ s.catalog.columns t.name = .ok t.columns
  /-- Both answers are about one table, or the same table is missing. -/
  agree : ∀ query,
    (∃ t ∈ s.tables, s.catalog.table query = .ok t ∧ s.catalog.columns query = .ok t.columns) ∨
      ∃ name schema, s.catalog.table query = .error (.tableNotFound name schema) ∧
        s.catalog.columns query = .error (.tableNotFound name schema)

/-- The tables that a text lists, in its order. -/
def listed? (format : SchemaFormat) (contents : String) : Option (List Table) :=
  match format with
  | .yaml => (Yaml.parse contents).bind SchemaFile.tables?
  | .json => (Json.parseLoose contents).bind SchemaFile.tables?

theorem parse_eq (format : SchemaFormat) (contents : String) :
    parse format contents = (listed? format contents).elim (.error .malformed) checked := by
  cases format with
  | yaml =>
    unfold parse listed?
    cases (Yaml.parse contents).bind SchemaFile.tables? <;> rfl
  | json =>
    unfold parse listed?
    cases (Json.parseLoose contents).bind SchemaFile.tables? <;> rfl

theorem listed?_of_parse {format : SchemaFormat} {contents : String}
    (h : parse format contents = .ok s) :
    listed? format contents = some s.tables ∧
      s.tables.Pairwise fun t u => t.clashes u = false := by
  rw [parse_eq] at h
  cases hlisted : listed? format contents with
  | none =>
    rw [hlisted] at h
    cases h
  | some tables =>
    rw [hlisted] at h
    obtain ⟨htables, hapart⟩ := tables_of_checked h
    rw [htables]
    exact ⟨rfl, hapart⟩

/-- Every schema that is read holds the tables of its text in their order, and answers for them. -/
theorem answers_of_parse {format : SchemaFormat} {contents : String}
    (h : parse format contents = .ok s) : listed? format contents = some s.tables ∧ s.Answers := by
  obtain ⟨hlisted, hclash⟩ := listed?_of_parse h
  have hapart := hclash.imp Table.clashes_eq_false_iff.1
  refine ⟨hlisted, hapart, fun t ht hschema => ?_, fun front t back htables hfirst hname => ?_,
    fun query => ?_⟩
  · exact answers_of_find? (find?_qualified hapart ht hschema)
  · exact answers_of_find? (find?_unqualified htables hfirst hname)
  · cases hfind : s.find? query with
    | some t => exact .inl ⟨t, List.mem_of_find?_eq_some hfind, answers_of_find? hfind⟩
    | none =>
      refine .inr ⟨(splitQualified query).2, (splitQualified query).1.getD "", ?_, ?_⟩
      · rw [table_catalog, hfind]
        rfl
      · simp [catalog, hfind, CatalogError.notFound]

end Schema

namespace Ledger

/-- Two tables of one name, of which the first has no columns, and one with a dot in its name. -/
def text : String :=
  "\x7b\"tables\": [\x7b\"name\": \"users\", \"schema\": \"app\"\x7d, \x7b\"name\": \"users\", " ++
  "\"columns\": [\x7b\"name\": \"id\", \"type\": \"bigint\"\x7d]\x7d, \x7b\"name\": \"a.b\"\x7d]\x7d"

def schema : Schema where
  tables :=
    [{ name := "users", schema := "app", columns := [] },
     { name := "users", columns := [{ name := "id", type := .bigInt }] },
     { name := "a.b", columns := [] }]

theorem parse_text : Schema.parse .json text = .ok schema := by
  rw [Schema.parse_eq, Schema.listed?, Json.parseLoose]
  delta text
  simp only [String.toList_append, -String.reduceToList]
  rw [String.toList_ofList, String.toList_ofList]
  decide +kernel

/-- All three tables are found behind their schema, and the first of two by its name. -/
theorem answers_schema :
    Schema.parse .json text = .ok schema ∧ Schema.listed? .json text = some schema.tables ∧
      schema.Answers ∧
      (schema.catalog.columns ".users" = .ok [{ name := "id", type := .bigInt }] ∧
        schema.catalog.columns "users" = .ok [] ∧ schema.catalog.columns ".a.b" = .ok [] ∧
        schema.catalog.columns "a.b" = .error (.tableNotFound "b" "a")) :=
  ⟨parse_text, (Schema.answers_of_parse parse_text).1, (Schema.answers_of_parse parse_text).2,
    by decide +kernel, by decide +kernel, by decide +kernel, by decide +kernel⟩

end Ledger

end QueryGen
