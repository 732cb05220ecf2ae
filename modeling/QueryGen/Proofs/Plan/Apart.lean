import QueryGen.Config.Check
import QueryGen.Proofs.Method.Names
import QueryGen.Proofs.Plan.Account
import QueryGen.Proofs.Plan.Places

/-!
# What a run emits twice

Nothing keeps the tables of a configuration apart: a table may be listed again, and tables of
different names may give their models the same name.

- `Config.EmitsOnce`: the files, the names that they declare and the methods are all different.
- `NamesClash`: model names whose query files declare the same name.
- `Config.emitsOnce_iff`: what has to hold of the tables and the interfaces for that.
-/

namespace QueryGen

/-- The types and functions that a query file declares, apart from the methods of its types. -/
def QueryFile.declared (f : QueryFile) : List String := [f.queryType, f.doType, f.constructor]

/-- A query file for the model `n` declares a name that one for the model `m` declares, too: the
query type of `m`, or the type of its methods. -/
def NamesClash (n m : String) : Prop :=
  Naming.lowerFirst n = Naming.lowerFirst m ∨ Naming.lowerFirst n = Naming.lowerFirst m ++ "Do" ∨
    "new" ++ n = Naming.lowerFirst m ∨ "new" ++ n = Naming.lowerFirst m ++ "Do"

theorem disjoint_declared_iff {f g : QueryFile} :
    f.declared.Disjoint g.declared ↔
      ¬ NamesClash f.model.name g.model.name ∧ ¬ NamesClash g.model.name f.model.name := by
  -- equal types of methods and equal constructors come with equal query types
  have hdo : f.doType = g.doType ↔ f.queryType = g.queryType := String.append_left_inj _
  have hnew : f.constructor = g.constructor → f.queryType = g.queryType := fun h =>
    congrArg Naming.lowerFirst ((String.append_right_inj _).1 h)
  rw [List.disjoint_iff_ne]
  simp only [QueryFile.declared, List.forall_mem_cons, NamesClash]
  change _ ↔ ¬ (f.queryType = g.queryType ∨ f.queryType = g.doType ∨
      f.constructor = g.queryType ∨ f.constructor = g.doType) ∧
    ¬ (g.queryType = f.queryType ∨ g.queryType = f.doType ∨
      g.constructor = f.queryType ∨ g.constructor = f.doType)
  grind

namespace Config

/-- A run emits nothing twice. -/
structure EmitsOnce (c : Config) (p : Plan) : Prop where
  /-- Every file has a place of its own. -/
  files : ((c.files p).map (Path.place ·.path)).Nodup
  /-- The query files of different tables declare different names. -/
  names : p.tables.Pairwise fun t u => (t.queryFile c).declared.Disjoint (u.queryFile c).declared
  /-- The methods of a query file have different names. -/
  methods : ∀ t ∈ p.tables, (t.methods.map (·.method.name)).Nodup

/-- The name of the model of a table. Without a model source it comes from the name that the
catalog gives the table. -/
def modelName (catalog : Catalog) (source : Option GoFile) (table : String) : String :=
  match source with
  | some _ => Naming.structName table
  | none => match catalog.table table with
    | .ok found => Naming.structName found.name
    | .error _ => Naming.structName table

/-- What keeps the parts of a run apart. -/
structure Apart (c : Config) (catalog : Catalog) (read : FileReader) (source : Option GoFile)
    (p : Plan) : Prop where
  /-- The query files go to different places. -/
  queries : (p.tables.map (·.placeIn c.outDir)).Nodup
  /-- So do the models, and none goes where a query file goes. -/
  models : ∀ dir, c.modelFilesDir? = some dir → (p.tables.map (·.placeIn dir)).Nodup ∧
    ∀ t ∈ p.tables, ∀ u ∈ p.tables, t.placeIn dir ≠ u.placeIn c.outDir
  /-- The names of the tables make different model names, also with `new` in front and `Do`
  behind. -/
  names : p.tables.Pairwise fun t u =>
    ¬ NamesClash (modelName catalog source t.table) (modelName catalog source u.table) ∧
      ¬ NamesClash (modelName catalog source u.table) (modelName catalog source t.table)
  /-- The interfaces give a table no two methods of one name that can be generated. -/
  methods : ∀ t ∈ p.tables, (((c.units read t.table).filter fun u =>
    (c.outcome (c.structsOf source p) t u).isOk).map (·.2.name)).Nodup

variable {c : Config} {catalog : Catalog} {read : FileReader} {source : Option GoFile} {p : Plan}

theorem name_of_findStruct {file : GoFile} {name : String} {d : StructDecl}
    (h : file.findStruct name = .ok d) : d.name = name := by
  unfold GoFile.findStruct at h
  split at h
  · next found hfound =>
    have hname := List.find?_some hfound
    cases h
    simpa using hname
  · cases h

theorem name_of_tableOutcome {table : String} {t : TablePlan}
    (h : c.tableOutcome catalog source table = .ok t) :
    t.model.name = modelName catalog source t.table := by
  obtain ⟨model, hm, rfl⟩ := map_eq_ok_iff.1 h
  obtain ⟨found, hfound, hm⟩ := bind_eq_ok_iff.1 hm
  rw [mapError_eq_ok_iff] at hfound
  cases source with
  | none =>
    rw [mapError_eq_ok_iff] at hm
    simp only [modelName, hfound, Model.name_of_checked hm]
  | some file =>
    obtain ⟨d, hd, hm⟩ := bind_eq_ok_iff.1 hm
    rw [mapError_eq_ok_iff] at hd hm
    simp only [modelName, Model.name_of_checked hm, name_of_findStruct hd]

theorem name_of_mem (account : c.Account catalog read source p) {t : TablePlan}
    (ht : t ∈ p.tables) : t.model.name = modelName catalog source t.table := by
  have hbare : t.bare ∈ successes (c.tables.map (c.tableOutcome catalog source)) :=
    account.tables ▸ List.mem_map_of_mem ht
  obtain ⟨table, -, htable⟩ := List.mem_map.1 (mem_successes.1 hbare)
  exact name_of_tableOutcome (t := t.bare) htable

theorem name_of_outcome {structs : StructRegistry} {t : TablePlan} {u : FoundInterface × Method}
    {g : GeneratedMethod} (h : c.outcome structs t u = .ok g) : g.method.name = u.2.name := by
  obtain ⟨m, k, hm, -, rfl⟩ := outcome_eq_ok.1 h
  exact (QueryMethod.parts_of_build hm).1

theorem emitsOnce_iff_apart (account : c.Account catalog read source p) :
    c.EmitsOnce p ↔ c.Apart catalog read source p := by
  have hnames : (p.tables.Pairwise fun t u =>
        (t.queryFile c).declared.Disjoint (u.queryFile c).declared) ↔
      p.tables.Pairwise fun t u =>
        ¬ NamesClash (modelName catalog source t.table) (modelName catalog source u.table) ∧
          ¬ NamesClash (modelName catalog source u.table) (modelName catalog source t.table) :=
    List.Pairwise.iff_of_mem fun ht hu => by
      rw [disjoint_declared_iff, ← name_of_mem account ht, ← name_of_mem account hu]
      rfl
  have hmethods : ∀ t ∈ p.tables, t.methods.map (·.method.name) =
      ((c.units read t.table).filter fun u =>
        (c.outcome (c.structsOf source p) t u).isOk).map (·.2.name) := fun t ht => by
    rw [account.methods t ht]
    exact map_successes (fun _ _ => name_of_outcome) _
  constructor
  · intro e
    obtain ⟨queries, models⟩ := nodup_places_iff.1 e.files
    exact ⟨queries, models, hnames.1 e.names, fun t ht => hmethods t ht ▸ e.methods t ht⟩
  · intro a
    exact ⟨nodup_places_iff.2 ⟨a.queries, a.models⟩, hnames.2 a.names,
      fun t ht => (hmethods t ht).symm ▸ a.methods t ht⟩

/-- A run emits nothing twice exactly if its tables and interfaces are kept apart. Where no table
name has a slash, files are kept apart if no table is planned twice and the models do not go where
the queries go. -/
theorem emitsOnce_iff (h : c.plan catalog read = .ok p) :
    ∃ source, c.modelSource.mapM (GoFile.load read) = .ok source ∧
      (c.EmitsOnce p ↔ c.Apart catalog read source p) ∧
      ((∀ t ∈ p.tables, '/' ∉ t.table.toList) →
        (((c.files p).map (Path.place ·.path)).Nodup ↔
          (p.tables.map (·.table)).Nodup ∧
            ∀ dir, c.modelFilesDir? = some dir → p.tables ≠ [] →
              Path.place dir ≠ Path.place c.outDir)) := by
  obtain ⟨source, hsource, rfl⟩ := plan_eq_ok.1 h
  exact ⟨source, hsource, emitsOnce_iff_apart (account_planFrom hsource),
    nodup_places_of_plain_iff⟩

/-- The paths of the files of a run, the names that its query files declare, and those of their
methods. -/
def emitted (c : Config) (p : Plan) : List String × List (List String) × List (List String) :=
  ((c.files p).map (·.path), p.tables.map fun t => (t.queryFile c).declared,
    p.tables.map fun t => t.methods.map (·.method.name))

theorem emitsOnce_iff_emitted : c.EmitsOnce p ↔
    ((c.emitted p).1.map Path.place).Nodup ∧
      (c.emitted p).2.1.Pairwise (fun a b => ∀ x ∈ a, ∀ y ∈ b, x ≠ y) ∧
      ∀ names ∈ (c.emitted p).2.2, names.Nodup := by
  simp only [emitted, List.map_map, List.pairwise_map, List.forall_mem_map]
  constructor
  · intro e
    exact ⟨e.files, e.names.imp List.disjoint_iff_ne.1, e.methods⟩
  · rintro ⟨files, names, methods⟩
    exact ⟨files, names.imp List.disjoint_iff_ne.2, methods⟩

end Config

namespace Twins

def source : String :=
  "package dao\n\ntype Query interface \x7b\n\t// select 1\n\tOne() error\n\x7d\n"

def read : FileReader := fun path =>
  if path = "query.go" then .ok source else .error "no such file"

def catalog : Catalog where
  tables := .ok (["user", "users", "orders"].map fun name =>
    { name, columns := [{ name := "id", type := .bigInt }] })
  columns _ := .ok []

/-- A run that applies an interface so many times. -/
def config (tables : List String) (times : Nat) : Config where
  modelImport := "example.com/app/model"
  catalog := { schemaFile := some "schema.yaml" }
  tables := tables
  interfaces := List.replicate times ⟨"query.go", "Query", []⟩

/-- Tables of different names are kept apart. -/
theorem emitsOnce_orders :
    ∃ p, (config ["users", "orders"] 1).plan catalog read = .ok p ∧
      (config ["users", "orders"] 1).EmitsOnce p ∧
      (config ["users", "orders"] 1).Apart catalog read none p := by
  have hemitted : ((config ["users", "orders"] 1).plan catalog read).map
      (config ["users", "orders"] 1).emitted =
        .ok (["./query/users.gen.go", "./query/orders.gen.go", "./query/gen_helper.go"],
          [["user", "userDo", "newUser"], ["order", "orderDo", "newOrder"]],
          [["One"], ["One"]]) := by
    decide +kernel
  obtain ⟨p, hp, hemitted⟩ := map_eq_ok_iff.1 hemitted
  obtain ⟨file?, hfile, hiff, -⟩ := Config.emitsOnce_iff hp
  obtain rfl : none = file? := Except.ok.inj hfile
  have honce : (config ["users", "orders"] 1).EmitsOnce p := by
    rw [Config.emitsOnce_iff_emitted, hemitted]
    decide +kernel
  exact ⟨p, hp, honce, hiff.1 honce⟩

/-- A table that is listed again is written to the same file. Two tables of one singular declare the
same names. An interface that is applied again gives each table its methods again. -/
theorem emits_twice :
    ((config ["users", "users"] 0).check = .ok () ∧
      ∃ p, (config ["users", "users"] 0).plan catalog read = .ok p ∧
        (config ["users", "users"] 0).emitted p =
          (["./query/users.gen.go", "./query/users.gen.go", "./query/gen_helper.go"],
            [["user", "userDo", "newUser"], ["user", "userDo", "newUser"]], [[], []]) ∧
        ¬ (config ["users", "users"] 0).EmitsOnce p) ∧
    ((config ["user", "users"] 0).check = .ok () ∧
      ∃ p, (config ["user", "users"] 0).plan catalog read = .ok p ∧
        (config ["user", "users"] 0).emitted p =
          (["./query/user.gen.go", "./query/users.gen.go", "./query/gen_helper.go"],
            [["user", "userDo", "newUser"], ["user", "userDo", "newUser"]], [[], []]) ∧
        ¬ (config ["user", "users"] 0).EmitsOnce p) ∧
    ((config ["users"] 2).check = .ok () ∧
      ∃ p, (config ["users"] 2).plan catalog read = .ok p ∧
        (config ["users"] 2).emitted p =
          (["./query/users.gen.go", "./query/gen_helper.go"],
            [["user", "userDo", "newUser"]], [["One", "One"]]) ∧
        ¬ (config ["users"] 2).EmitsOnce p) := by
  have hrun (c : Config) (e) (h : (c.plan catalog read).map c.emitted = .ok e)
      (he : ¬ ((e.1.map Path.place).Nodup ∧
        e.2.1.Pairwise (fun a b => ∀ x ∈ a, ∀ y ∈ b, x ≠ y) ∧ ∀ names ∈ e.2.2, names.Nodup)) :
      ∃ p, c.plan catalog read = .ok p ∧ c.emitted p = e ∧ ¬ c.EmitsOnce p := by
    obtain ⟨p, hp, rfl⟩ := map_eq_ok_iff.1 h
    exact ⟨p, hp, rfl, mt Config.emitsOnce_iff_emitted.1 he⟩
  refine ⟨⟨by decide +kernel, hrun _ _ ?_ ?_⟩, ⟨by decide +kernel, hrun _ _ ?_ ?_⟩,
    by decide +kernel, hrun _ _ ?_ ?_⟩
  all_goals decide +kernel

end Twins

end QueryGen
