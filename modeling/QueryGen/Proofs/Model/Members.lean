import QueryGen.Model.Basic
import QueryGen.Proofs.Naming.GoNames

/-!
# Members of generated types

The columns of a table become fields of two Go types, next to members that both types or one of them
have anyway.

- `Model.MembersApart`: the fields have names of their own.
- `Table.ColumnsApart`: no two columns are spelled alike, and none like a member that is there.
- `Model.members_of_ofTable`: the fields of a model that is made from a table have identifiers for
  names. These are their own exactly if the columns are spelled apart.
-/

namespace QueryGen

/-- The fields of a model have names of their own. -/
structure Model.MembersApart (m : Model) : Prop where
  distinct : (m.fields.map (·.name)).Nodup
  /-- The model and the query type have a method of this name. -/
  tableName : "TableName" ∉ m.fields.map (·.name)
  /-- The query type has a field of this name. -/
  all : "ALL" ∉ m.fields.map (·.name)

/-- No two columns of a table are spelled alike, and none like a member of generated types. -/
structure Table.ColumnsApart (t : Table) : Prop where
  distinct : (t.columns.map fun c => Naming.spelling c.name).Nodup
  tableName : ∀ c ∈ t.columns, Naming.spelling c.name ≠ Naming.spelling "table_name"
  all : ∀ c ∈ t.columns, Naming.spelling c.name ≠ Naming.spelling "a_l_l"

namespace Model

variable {t : Table} {package : String} {m n : Model}

theorem checked_eq_ok (hname : Go.isGoIdentifier m.name = true) (hfields : m.fields ≠ []) :
    checked m = .ok m := by
  rw [checked, hname, List.isEmpty_eq_false_iff.2 hfields]
  rfl

/-- A model that is made has a name that Go can declare, and fields. -/
theorem of_checked (h : checked m = .ok n) :
    Go.isGoIdentifier m.name = true ∧ m.fields ≠ [] := by
  unfold checked at h
  split at h
  · cases h
  · next hname =>
    split at h
    · cases h
    · next hfields => exact ⟨by simpa using hname, by simpa using hfields⟩

theorem ofTable_eq_ok (hname : Go.isGoIdentifier (Naming.structName t.name) = true)
    (hcolumns : t.columns ≠ []) (package : String) :
    ofTable t package = .ok {
      name := Naming.structName t.name, table := t.name, package, comment := t.comment
      fields := t.columns.map ModelField.ofColumn } :=
  checked_eq_ok hname (by simpa using hcolumns)

theorem fields_of_ofTable (h : ofTable t package = .ok m) :
    m.fields.map (·.name) = t.columns.map fun c => Naming.goName c.name := by
  rw [name_of_checked h, List.map_map]
  rfl

theorem goName_tableName : Naming.goName "table_name" = "TableName" := by decide +kernel

theorem goName_all : Naming.goName "a_l_l" = "ALL" := by decide +kernel

/-- A member has the name of a column that is spelled like it. -/
theorem notMem_fields_iff (h : ofTable t package = .ok m)
    (hc : ∀ c ∈ t.columns, Naming.IsColumnName c.name) {member column : String}
    (hcolumn : Naming.IsColumnName column) (hmember : Naming.goName column = member) :
    member ∉ m.fields.map (·.name) ↔
      ∀ c ∈ t.columns, Naming.spelling c.name ≠ Naming.spelling column := by
  rw [fields_of_ofTable h, ← hmember]
  simp only [List.mem_map, not_exists, not_and]
  exact forall₂_congr fun c hmem => not_congr (Naming.goName_inj (hc c hmem) hcolumn)

/-- The fields of a model of a table have identifiers for names. They are the names of no other
members exactly if the columns are spelled apart. -/
theorem members_of_ofTable (h : ofTable t package = .ok m)
    (hc : ∀ c ∈ t.columns, Naming.IsColumnName c.name) :
    (∀ f ∈ m.fields, Go.isGoIdentifier f.name = true) ∧ (m.MembersApart ↔ t.ColumnsApart) := by
  have hnames := fields_of_ofTable h
  have hdistinct : (m.fields.map (·.name)).Nodup ↔
      (t.columns.map fun c => Naming.spelling c.name).Nodup := by
    rw [hnames, List.Nodup, List.Nodup, List.pairwise_map, List.pairwise_map]
    exact List.Pairwise.iff_of_mem fun ha hb =>
      not_congr (Naming.goName_inj (hc _ ha) (hc _ hb))
  have htable := notMem_fields_iff h hc (by simp [Naming.IsColumnName]) goName_tableName
  have hall := notMem_fields_iff h hc (by simp [Naming.IsColumnName]) goName_all
  constructor
  · intro f hf
    have hmem := List.mem_map_of_mem (f := fun f : ModelField => f.name) hf
    rw [hnames] at hmem
    obtain ⟨c, hcolumn, he⟩ := List.mem_map.1 hmem
    rw [← he]
    exact Naming.isGoIdentifier_goName (hc c hcolumn)
  · exact ⟨fun hm => ⟨hdistinct.1 hm.distinct, htable.1 hm.tableName, hall.1 hm.all⟩,
      fun ht => ⟨hdistinct.2 ht.distinct, htable.2 ht.tableName, hall.2 ht.all⟩⟩

end Model

namespace Users

/-- A table with columns of the given names. -/
def table (columns : List String) : Table where
  name := "users"
  columns := columns.map fun name => { name, type := .text }

/-- The model of such a table. -/
def model (columns : List String) : Model where
  name := "User"
  table := "users"
  package := "model"
  fields := (table columns).columns.map ModelField.ofColumn

theorem members_users :
    Model.ofTable (table ["id", "user_name"]) "model" = .ok (model ["id", "user_name"]) ∧
    (∀ c ∈ (table ["id", "user_name"]).columns, Naming.IsColumnName c.name) ∧
    (∀ f ∈ (model ["id", "user_name"]).fields, Go.isGoIdentifier f.name = true) ∧
    ((model ["id", "user_name"]).MembersApart ↔ (table ["id", "user_name"]).ColumnsApart) ∧
    (table ["id", "user_name"]).ColumnsApart := by
  have hmodel : Model.ofTable (table ["id", "user_name"]) "model" =
      .ok (model ["id", "user_name"]) := by decide +kernel
  have hcolumns : ∀ c ∈ (table ["id", "user_name"]).columns, Naming.IsColumnName c.name := by
    simp [table, Naming.IsColumnName]
  have hmembers := Model.members_of_ofTable hmodel hcolumns
  exact ⟨hmodel, hcolumns, hmembers.1, hmembers.2, by decide +kernel, by decide +kernel,
    by decide +kernel⟩

/-- Columns with names of their own whose fields have one name, and columns whose fields have the
names of other members. -/
theorem members_clash :
    (Model.ofTable (table ["user_name", "userName"]) "model" =
        .ok (model ["user_name", "userName"]) ∧
      ¬(model ["user_name", "userName"]).MembersApart) ∧
    (Model.ofTable (table ["table_name"]) "model" = .ok (model ["table_name"]) ∧
      ¬(model ["table_name"]).MembersApart) ∧
    Model.ofTable (table ["a_l_l"]) "model" = .ok (model ["a_l_l"]) ∧
      ¬(model ["a_l_l"]).MembersApart := by
  refine ⟨⟨by decide +kernel, fun h => ?_⟩, ⟨by decide +kernel, fun h => ?_⟩, by decide +kernel,
    fun h => ?_⟩
  · exact absurd h.distinct (by decide +kernel)
  · exact absurd h.tableName (by decide +kernel)
  · exact absurd h.all (by decide +kernel)

end Users

end QueryGen
