import QueryGen.Catalog.Memory
import QueryGen.Plan.Basic
import QueryGen.Proofs.Model.Members
import QueryGen.Proofs.Model.TagPairs
import QueryGen.Proofs.Naming.Qualified

/-!
# Names of models

The model of a table is found in a model source by a name, or it is made from the columns of the
table under a name. A table may be configured with its schema in front.

- `Model.triedName`: the name for which a model is tried.
- `Config.Seeks`: the struct that is looked for in every model source.
- `Config.NamesAlike`: both ways to a model use one name, and one name of the table.
- `Config.ModelNames`: the names on both ways. `modelNames`: so it is for all tables that the
  catalog has.
-/

namespace QueryGen

/-! ## Names without a schema -/

/-- The name of a table without its schema. -/
def unqualified (query : String) : String := (splitQualified query).2

section Unqualified

variable {query : String}

theorem unqualified_eq_self (h : '.' ∉ query.toList) : unqualified query = query := by
  rw [unqualified, splitQualified, Text.cutFirst?_eq_none h]

theorem unqualified_ne_self (h : '.' ∈ query.toList) : unqualified query ≠ query := by
  obtain ⟨schema, table, hquery, hschema⟩ := List.eq_append_cons_of_mem h
  have htable : unqualified query = .ofList table := by
    rw [unqualified, splitQualified, hquery, Text.cutFirst?_quote hschema]
  intro he
  rw [he, ← String.toList_inj, String.toList_ofList, hquery] at htable
  have hlength := congrArg List.length htable
  simp at hlength
  omega

end Unqualified

/-! ## Names that are tried -/

namespace Model

variable {m n : Model}

/-- The name for which a model was tried, whether there is one or not. -/
def triedName : Except ModelError Model → String
  | .ok m => m.name
  | .error (.invalidName name) => name
  | .error (.noFields name) => name

theorem triedName_ofTable (t : Table) (package : String) :
    triedName (ofTable t package) = Naming.structName t.name := by
  unfold ofTable checked
  split
  · rfl
  · split <;> rfl

end Model

namespace Config

variable {c : Config} {catalog : Catalog} {query name : String} {found : Table} {m : Model}

/-- In every model source the table goes by a struct of this name: it has none if there is no struct
of the name. -/
def Seeks (c : Config) (catalog : Catalog) (query name : String) : Prop :=
  ∀ file : GoFile,
    (∃ cause, c.modelOf catalog (some file) query = .error (.modelSource query cause)) ↔
      ∀ d ∈ file.structs, d.name ≠ name

/-- The struct that is looked for has the name of the model that is made from the columns, and both
models have one table. -/
structure NamesAlike (c : Config) (catalog : Catalog) (query : String) (found : Table) : Prop where
  name : c.Seeks catalog query (Model.triedName (Model.ofTable found c.modelPackage))
  table : ∀ file m m', c.modelOf catalog (some file) query = .ok m →
    c.modelOf catalog none query = .ok m' → m.table = m'.table

/-- The names on both ways to the model of a table. -/
structure ModelNames (c : Config) (catalog : Catalog) (query : String) (found : Table) : Prop where
  /-- A struct is looked for by the whole name of the table. -/
  sought : c.Seeks catalog query (Naming.structName query)
  /-- A model is made under the name without the schema. -/
  tried : Model.triedName (Model.ofTable found c.modelPackage) =
    Naming.structName (unqualified query)
  /-- The struct is the model of the table as it is configured. -/
  sourceTable : ∀ file m, c.modelOf catalog (some file) query = .ok m → m.table = query
  columnTable : ∀ m, c.modelOf catalog none query = .ok m → m.table = unqualified query
  /-- A name without a schema is used alike. -/
  alike : '.' ∉ query.toList → c.NamesAlike catalog query found
  /-- One with a schema is not, where there is a model. -/
  apart : ∀ m, c.modelOf catalog none query = .ok m → c.NamesAlike catalog query found →
    '.' ∉ query.toList
  /-- The schema is a part of the name that is looked for. -/
  schema : ∀ schema table, query = schema ++ "." ++ table → Naming.IsColumnName schema →
    Naming.IsColumnName table → 3 < table.toList.length →
      c.Seeks catalog query (Naming.goName schema ++ Naming.structName table)

/-! ## Tables -/

/-- A table that is found goes by its name. -/
theorem name_of_table (h : catalog.table query = .ok found) : found.name = unqualified query := by
  obtain ⟨tables, -, h⟩ := bind_eq_ok_iff.1 h
  split at h
  · cases h
  · next t ht =>
    have hnamed := List.find?_some ht
    have hname : t.name = unqualified query := by
      simp only [Table.isNamed, Bool.and_eq_true, beq_iff_eq] at hnamed
      exact hnamed.1
    split at h
    · obtain ⟨columns, -, h⟩ := bind_eq_ok_iff.1 h
      cases h
      exact hname
    · cases h
      exact hname

/-! ## Structs -/

theorem findStruct_eq_error_iff {file : GoFile} :
    (∃ cause, file.findStruct name = .error cause) ↔ ∀ d ∈ file.structs, d.name ≠ name := by
  rw [GoFile.findStruct]
  constructor
  · rintro ⟨cause, h⟩
    split at h
    · cases h
    · next hnone => simpa using hnone
  · intro h
    have hnone : file.structs.find? (·.name == name) = none := by simpa using h
    exact ⟨_, by rw [hnone]⟩

/-- The model of a table that the catalog has. -/
theorem modelOf_eq_ok_iff (h : catalog.table query = .ok found) :
    (∀ file, c.modelOf catalog (some file) query = .ok m ↔
      ∃ d, file.findStruct (Naming.structName query) = .ok d ∧
        Model.ofStruct d query c.modelPackage = .ok m) ∧
    (c.modelOf catalog none query = .ok m ↔ Model.ofTable found c.modelPackage = .ok m) := by
  constructor
  · intro file
    rw [modelOf, bind_eq_ok_iff, h]
    simp only [mapError_eq_ok_iff, bind_eq_ok_iff, Except.ok.injEq, exists_eq_left']
  · rw [modelOf, bind_eq_ok_iff, h]
    simp only [mapError_eq_ok_iff, Except.ok.injEq, exists_eq_left']

/-- A struct is looked for by the whole name of the table. -/
theorem seeks_structName (h : catalog.table query = .ok found) :
    c.Seeks catalog query (Naming.structName query) := by
  intro file
  rw [← findStruct_eq_error_iff]
  refine exists_congr fun cause => ?_
  rw [modelOf, bind_eq_error_iff, h]
  simp only [mapError_eq_error_iff, mapError_eq_ok_iff, bind_eq_error_iff, Except.ok.injEq,
    exists_eq_left', reduceCtorEq, and_false, exists_false, or_false, false_or,
    Failure.modelSource.injEq, true_and, exists_eq_right]

/-- Only one name is looked for. -/
theorem Seeks.eq {other : String} (h : c.Seeks catalog query name)
    (ho : c.Seeks catalog query other) : name = other := by
  by_contra hne
  have hfound : ∀ d ∈ [(⟨name, []⟩ : StructDecl)], d.name ≠ other := by simpa using hne
  have hlost := (h { structs := [⟨name, []⟩] }).1 ((ho _).2 hfound)
  simp at hlost

/-- A struct of one field. -/
def structOf (name : String) : StructDecl := ⟨name, [⟨"Key", .simple "string", none, false⟩]⟩

/-- The struct is the model of a table if it has the name that is looked for. -/
theorem exists_modelOf_structOf (h : catalog.table query = .ok found)
    (hname : Go.isGoIdentifier (Naming.structName query) = true) :
    ∃ m, c.modelOf catalog (some { structs := [structOf (Naming.structName query)] }) query =
      .ok m ∧ m.name = Naming.structName query := by
  have hfields : (structOf (Naming.structName query)).fields.filterMap ModelField.ofStructField? =
      [{ name := "Key", column := "key", type := .simple "string", kind := "String" }] := by
    have hfield : ModelField.ofStructField? ⟨"Key", .simple "string", none, false⟩ =
        some { name := "Key", column := "key", type := .simple "string", kind := "String" } := by
      decide +kernel
    simp [structOf, hfield]
  have hfind : GoFile.findStruct { structs := [structOf (Naming.structName query)] }
      (Naming.structName query) = .ok (structOf (Naming.structName query)) := by
    simp [structOf, GoFile.findStruct]
  have hmodel := Model.checked_eq_ok (m := {
    name := (structOf (Naming.structName query)).name, table := query, package := c.modelPackage
    fields := (structOf (Naming.structName query)).fields.filterMap ModelField.ofStructField? })
    hname (by simp [hfields])
  exact ⟨_, ((modelOf_eq_ok_iff h).1 _).2 ⟨_, hfind, hmodel⟩, rfl⟩

/-- The names on both ways to the model of a table that the catalog has. They are the same if the
name is given without a schema, and otherwise only where there is no model. -/
theorem modelNames (h : catalog.table query = .ok found) : c.ModelNames catalog query found := by
  have hsought := seeks_structName (c := c) h
  have htried : Model.triedName (Model.ofTable found c.modelPackage) =
      Naming.structName (unqualified query) := by
    rw [Model.triedName_ofTable, name_of_table h]
  have hsource : ∀ file m, c.modelOf catalog (some file) query = .ok m → m.table = query := by
    intro file m hm
    obtain ⟨d, -, hd⟩ := ((modelOf_eq_ok_iff h).1 file).1 hm
    rw [Model.name_of_checked hd]
  have hcolumns : ∀ m, c.modelOf catalog none query = .ok m → m.table = unqualified query := by
    intro m hm
    rw [Model.name_of_checked ((modelOf_eq_ok_iff h).2.1 hm), name_of_table h]
  refine ⟨hsought, htried, hsource, hcolumns, fun hdot => ⟨?_, ?_⟩, fun m hm halike hdot => ?_, ?_⟩
  · rwa [htried, unqualified_eq_self hdot]
  · intro file m m' hm hm'
    rw [hsource file m hm, hcolumns m' hm', unqualified_eq_self hdot]
  · have hname := halike.name.eq hsought
    have hidentifier := (Model.of_checked ((modelOf_eq_ok_iff h).2.1 hm)).1
    rw [← Model.triedName_ofTable, hname] at hidentifier
    obtain ⟨n, hn, -⟩ := exists_modelOf_structOf h hidentifier
    exact unqualified_ne_self hdot
      ((hcolumns m hm).symm.trans ((halike.table _ n m hn hm).symm.trans (hsource _ n hn)))
  · rintro schema table rfl hschema htable hlength
    rwa [← Naming.structName_qualified hschema htable hlength]

end Config

namespace Qualified

open Config

/-- The tables of a schema `app`. -/
def config : Config where
  modelImport := "example.com/app/model"
  tables := ["app.users"]

def catalog : Catalog := MemoryCatalog.sample.catalog

def user : StructDecl := ⟨"User", [⟨"Name", .simple "string", none, false⟩]⟩

theorem table_users : catalog.table "app.users" = .ok MemoryCatalog.users := by
  decide +kernel

theorem structName_users : Naming.structName "app.users" = "AppUser" := by
  decide +kernel

theorem triedName_users :
    Model.triedName (Model.ofTable MemoryCatalog.users config.modelPackage) = "User" := by
  have hname : Naming.structName MemoryCatalog.users.name = "User" := by decide +kernel
  rw [Model.triedName_ofTable, hname]

/-- The schema is a part of the name that is looked for. -/
theorem modelNames_users :
    catalog.table "app.users" = .ok MemoryCatalog.users ∧
    config.ModelNames catalog "app.users" MemoryCatalog.users ∧
    config.Seeks catalog "app.users" "AppUser" := by
  have hnames : config.ModelNames catalog "app.users" MemoryCatalog.users := modelNames table_users
  exact ⟨table_users, hnames, structName_users ▸ hnames.sought⟩

/-- The struct of the table is not found, and the two models have neither one name nor one table. -/
theorem not_namesAlike :
    (∃ cause, config.modelOf catalog (some { structs := [user] }) "app.users" =
      .error (.modelSource "app.users" cause)) ∧
    (∃ m, config.modelOf catalog none "app.users" = .ok m ∧ m.name = "User" ∧ m.table = "users") ∧
    (∃ m, config.modelOf catalog (some { structs := [structOf "AppUser"] }) "app.users" = .ok m ∧
      m.name = "AppUser") ∧
    ¬ config.NamesAlike catalog "app.users" MemoryCatalog.users := by
  have hname : Naming.structName MemoryCatalog.users.name = "User" := by decide +kernel
  have hmodel := Model.ofTable_eq_ok (t := MemoryCatalog.users) (by rw [hname]; decide +kernel)
    (List.cons_ne_nil _ _) config.modelPackage
  have hstruct := exists_modelOf_structOf (c := config) table_users
    (by rw [structName_users]; decide +kernel)
  rw [structName_users] at hstruct
  have hlost := (seeks_structName (c := config) table_users { structs := [user] }).2
    (by rw [structName_users]; simp [user])
  refine ⟨hlost, ⟨_, ((modelOf_eq_ok_iff table_users).2).2 hmodel, hname, rfl⟩, hstruct,
    fun halike => ?_⟩
  have hnames := halike.name.eq (seeks_structName table_users)
  rw [triedName_users, structName_users] at hnames
  exact absurd hnames (by decide)

end Qualified

end QueryGen
