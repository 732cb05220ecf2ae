import QueryGen.Proofs.Plan.Steps

/-!
# What a run accounts for

A run is made of units: a table, an interface that cannot be found, or a method of an interface for
a table. Each unit comes out as it would on its own.

- `Config.Account`: what a plan says about the units of its run.
- `Config.LosesMethods`: an interface whose declaration has lost some of its methods.
- `Config.plan_accounts`: every plan has an account.
-/

namespace QueryGen

/-- The failure says why a table has no model. -/
inductive Failure.OfTable (table : String) : Failure → Prop where
  | table (cause : CatalogError) : OfTable table (.table table cause)
  | modelSource (cause : SourceError) : OfTable table (.modelSource table cause)
  | model (cause : ModelError) : OfTable table (.model table cause)

/-- A table before it gets methods. -/
def TablePlan.bare (t : TablePlan) : TablePlan := { t with methods := [] }

namespace Config

/-- The methods that a table gets, interface by interface. -/
def units (c : Config) (read : FileReader) (table : String) : List (FoundInterface × Method) :=
  c.interfaces.flatMap fun i => unitsOf table (findInterface read i)

/-- The methods that a table gets when those that `drop` picks are deleted. -/
def unitsWithout (c : Config) (read : FileReader) (drop : InterfaceSource → Method → Bool)
    (table : String) : List (FoundInterface × Method) :=
  (c.units read table).filter fun u => !drop u.1.source u.2

/-- The structs that the methods of a plan may refer to. -/
def structsOf (c : Config) (source : Option GoFile) (p : Plan) : StructRegistry :=
  c.knownStructs (p.tables.map (·.model)) source

/-- A table with the methods that come out of units. -/
def filled (c : Config) (structs : StructRegistry) (units : String → List (FoundInterface × Method))
    (t : TablePlan) : TablePlan :=
  { t with methods := successes ((units t.table).map (c.outcome structs t)) }

/-- An interface whose declaration has lost the methods that `drop` picks. -/
inductive LosesMethods (drop : Method → Bool) :
    Except Failure FoundInterface → Except Failure FoundInterface → Prop where
  | failed (f : Failure) : LosesMethods drop (.error f) (.error f)
  | found {i j : FoundInterface} (source : j.source = i.source)
      (imports : j.file.imports = i.file.imports) (name : j.decl.name = i.decl.name)
      (methods : j.decl.methods = i.decl.methods.filter (!drop ·)) :
      LosesMethods drop (.ok i) (.ok j)

/-- What a plan says about the units of its run. -/
structure Account (c : Config) (catalog : Catalog) (read : FileReader) (source : Option GoFile)
    (p : Plan) : Prop where
  /-- The tables that have a model, in the order of the configuration. -/
  tables : p.tables.map (·.bare) = successes (c.tables.map (c.tableOutcome catalog source))
  /-- A table without a model has a failure of its own. -/
  tableFailure : ∀ table f, c.tableOutcome catalog source table = .error f → f.OfTable table
  /-- An interface that cannot be found has a failure of its own. -/
  interfaceFailure : ∀ i f, findInterface read i = .error f →
    ∃ cause, f = .interface i.name i.path cause
  /-- A table has the methods that come out for it, in the order of the interfaces and of their
  declarations. -/
  methods : ∀ t ∈ p.tables,
    t.methods = successes ((c.units read t.table).map (c.outcome (c.structsOf source p) t))
  /-- A method is generated if it is built and compiled. -/
  generated : ∀ t u g, c.outcome (c.structsOf source p) t u = .ok g ↔
    ∃ m k, QueryMethod.build u.1.decl.name u.2
        (c.methodContext (c.structsOf source p) t.model) = .ok m ∧
      m.compile t.table (c.structsOf source p) c.options = .ok k ∧
      ⟨m, k, u.2.doc, c.methodImports u.1.file m⟩ = g
  /-- A method fails as soon as it cannot be built or compiled. -/
  methodFailure : ∀ t u f, c.outcome (c.structsOf source p) t u = .error f ↔
    ∃ cause, (QueryMethod.build u.1.decl.name u.2
          (c.methodContext (c.structsOf source p) t.model) = .error cause ∨
        ∃ m, QueryMethod.build u.1.decl.name u.2
            (c.methodContext (c.structsOf source p) t.model) = .ok m ∧
          m.compile t.table (c.structsOf source p) c.options = .error cause) ∧
      .method u.1.decl.name u.2.name cause = f
  /-- The failures of the tables, and then those of each interface, table by table and method by
  method. -/
  failures : p.report.failures =
    QueryGen.failures (c.tables.map (c.tableOutcome catalog source)) ++
      c.interfaces.flatMap fun i => match findInterface read i with
        | .error f => [f]
        | .ok found => p.tables.flatMap fun t =>
            QueryGen.failures ((found.units t.table).map (c.outcome (c.structsOf source p) t))
  tableCount : p.report.tables = p.tables.length
  methodCount : p.report.methods = (p.tables.flatMap (·.methods)).length
  /-- Every unit is either counted or recorded as a failure, and nothing else is. -/
  total : p.report.tables + p.report.methods + p.report.failures.length =
    c.tables.length + (c.interfaces.map fun i => unitCount p.tables (findInterface read i)).sum
  /-- Without an interface that cannot be found, the run is the same but for its failure. -/
  withoutInterface : ∀ before i after f, c.interfaces = before ++ i :: after →
    findInterface read i = .error f →
    ∃ a b, p.report.failures = a ++ f :: b ∧
      { c with interfaces := before ++ after }.plan catalog read =
        .ok { p with report := { p.report with failures := a ++ b } }
  /-- Without some methods, a table keeps all its others. It keeps all if those were failures. -/
  withoutMethods : ∀ read' (drop : InterfaceSource → Method → Bool),
    c.modelSource.mapM (GoFile.load read') = .ok source →
    (∀ i ∈ c.interfaces,
      LosesMethods (drop i) (findInterface read i) (findInterface read' i)) →
    ∃ p', c.plan catalog read' = .ok p' ∧
      p'.tables = p.tables.map (c.filled (c.structsOf source p) (c.unitsWithout read drop)) ∧
      ∀ t ∈ p.tables,
        (∀ u ∈ c.units read t.table, drop u.1.source u.2 = true →
          ∃ f, c.outcome (c.structsOf source p) t u = .error f) →
        c.filled (c.structsOf source p) (c.unitsWithout read drop) t = t

/-! ## Plans in closed form -/

variable {c : Config} {catalog : Catalog} {read : FileReader} {source : Option GoFile}

theorem plan_eq_ok {p : Plan} : c.plan catalog read = .ok p ↔
    ∃ source, c.modelSource.mapM (GoFile.load read) = .ok source ∧
      p = c.planFrom catalog read source := by
  unfold plan
  cases c.modelSource.mapM (GoFile.load read) <;> simp [eq_comm]

theorem methods_of_tableOutcome {table : String} {t : TablePlan}
    (h : c.tableOutcome catalog source table = .ok t) : t.methods = [] := by
  unfold tableOutcome at h
  cases hm : c.modelOf catalog source table with
  | error f => simp [hm, Except.map] at h
  | ok model =>
    rw [hm] at h
    exact Except.ok.inj h ▸ rfl

theorem tables_planFrom :
    (c.planFrom catalog read source).tables =
      (successes (c.tables.map (c.tableOutcome catalog source))).map
        (c.filled (c.structsOf source (c.planTables catalog source)) (c.units read)) := by
  rw [planFrom, tables_addInterfaces, planTables_eq]
  refine List.map_congr_left fun t ht => ?_
  obtain ⟨table, -, htable⟩ := List.mem_map.1 (mem_successes.1 ht)
  simp [TablePlan.extend, filled, methods_of_tableOutcome htable, outcomes, units,
    List.map_flatMap, structsOf]

theorem structsOf_planFrom :
    c.structsOf source (c.planFrom catalog read source) =
      c.structsOf source (c.planTables catalog source) := by
  rw [structsOf, tables_planFrom, List.map_map, structsOf, planTables_eq]
  rfl

theorem methods_of_mem {t : TablePlan} (h : t ∈ (c.planFrom catalog read source).tables) :
    t.methods = successes ((c.units read t.table).map
      (c.outcome (c.structsOf source (c.planFrom catalog read source)) t)) := by
  rw [structsOf_planFrom]
  rw [tables_planFrom] at h
  obtain ⟨t, -, rfl⟩ := List.mem_map.1 h
  rfl

theorem failuresOf_filled (structs structs' : StructRegistry)
    (units : String → List (FoundInterface × Method)) (ts : List TablePlan)
    (found : Except Failure FoundInterface) :
    c.failuresOf structs (ts.map (c.filled structs' units)) found =
      c.failuresOf structs ts found := by
  cases found with
  | error f => rfl
  | ok i =>
    rw [failuresOf, List.flatMap_map]
    rfl

/-- What a run leaves out on account of an interface. -/
def leftOut (c : Config) (catalog : Catalog) (read : FileReader) (source : Option GoFile)
    (i : InterfaceSource) : List Failure :=
  c.failuresOf (c.structsOf source (c.planFrom catalog read source))
    (c.planFrom catalog read source).tables (findInterface read i)

theorem leftOut_of_error {i : InterfaceSource} {f : Failure} (h : findInterface read i = .error f) :
    c.leftOut catalog read source i = [f] := by
  rw [leftOut, h, failuresOf]

theorem failures_planFrom :
    (c.planFrom catalog read source).report.failures =
      failures (c.tables.map (c.tableOutcome catalog source)) ++
        c.interfaces.flatMap (c.leftOut catalog read source) := by
  have hleft (i : InterfaceSource) : c.leftOut catalog read source i =
      c.failuresOf (c.structsOf source (c.planTables catalog source))
        (c.planTables catalog source).tables (findInterface read i) := by
    rw [leftOut, structsOf_planFrom, tables_planFrom, failuresOf_filled, planTables_eq]
  simp only [funext hleft]
  rw [planFrom, failures_addInterfaces, planTables_eq]
  rfl

theorem unitCount_filled (structs : StructRegistry)
    (units : String → List (FoundInterface × Method)) (ts : List TablePlan)
    (found : Except Failure FoundInterface) :
    unitCount (ts.map (c.filled structs units)) found = unitCount ts found := by
  cases found with
  | error f => rfl
  | ok i =>
    rw [unitCount, List.flatMap_map]
    rfl

theorem total_planFrom :
    (c.planFrom catalog read source).report.tables +
        (c.planFrom catalog read source).report.answers =
      c.tables.length + (c.interfaces.map fun i =>
        unitCount (c.planFrom catalog read source).tables (findInterface read i)).sum := by
  have hall := length_successes_add_length_failures
    (c.tables.map (c.tableOutcome catalog source))
  simp only [tables_planFrom, unitCount_filled]
  rw [planFrom, answers_addInterfaces, tableCount_addInterfaces, planTables_eq]
  simp only [Report.answers, List.length_map] at hall ⊢
  omega

/-! ## Single outcomes -/

theorem tableOutcome_eq_error {table : String} {f : Failure}
    (h : c.tableOutcome catalog source table = .error f) : f.OfTable table := by
  rw [tableOutcome, map_eq_error_iff, modelOf, bind_eq_error_iff] at h
  rcases h with h | ⟨found, -, h⟩
  · obtain ⟨cause, -, rfl⟩ := mapError_eq_error_iff.1 h
    exact .table cause
  cases source with
  | none =>
    obtain ⟨cause, -, rfl⟩ := mapError_eq_error_iff.1 h
    exact .model cause
  | some file =>
    rcases bind_eq_error_iff.1 h with h | ⟨decl, -, h⟩
    · obtain ⟨cause, -, rfl⟩ := mapError_eq_error_iff.1 h
      exact .modelSource cause
    · obtain ⟨cause, -, rfl⟩ := mapError_eq_error_iff.1 h
      exact .model cause

theorem findInterface_eq_error {i : InterfaceSource} {f : Failure}
    (h : findInterface read i = .error f) : ∃ cause, f = .interface i.name i.path cause := by
  rcases bind_eq_error_iff.1 h with h | ⟨file, -, h⟩
  · obtain ⟨cause, -, rfl⟩ := mapError_eq_error_iff.1 h
    exact ⟨cause, rfl⟩
  rcases bind_eq_error_iff.1 h with h | ⟨decl, -, h⟩
  · obtain ⟨cause, -, rfl⟩ := mapError_eq_error_iff.1 h
    exact ⟨cause, rfl⟩
  · cases h

theorem source_of_findInterface {i : InterfaceSource} {found : FoundInterface}
    (h : findInterface read i = .ok found) : found.source = i := by
  obtain ⟨file, -, h⟩ := bind_eq_ok_iff.1 h
  obtain ⟨decl, -, h⟩ := bind_eq_ok_iff.1 h
  exact Except.ok.inj h ▸ rfl

theorem outcome_eq_ok {structs : StructRegistry} {t : TablePlan} {u : FoundInterface × Method}
    {g : GeneratedMethod} : c.outcome structs t u = .ok g ↔
      ∃ m k, QueryMethod.build u.1.decl.name u.2 (c.methodContext structs t.model) = .ok m ∧
        m.compile t.table structs c.options = .ok k ∧
        ⟨m, k, u.2.doc, c.methodImports u.1.file m⟩ = g := by
  simp only [outcome, methodOf, mapError_eq_ok_iff, bind_eq_ok_iff, pure, Except.pure,
    Except.ok.injEq, exists_and_left]

theorem outcome_eq_error {structs : StructRegistry} {t : TablePlan}
    {u : FoundInterface × Method} {f : Failure} : c.outcome structs t u = .error f ↔
      ∃ cause, (QueryMethod.build u.1.decl.name u.2 (c.methodContext structs t.model) =
            .error cause ∨
          ∃ m, QueryMethod.build u.1.decl.name u.2 (c.methodContext structs t.model) = .ok m ∧
            m.compile t.table structs c.options = .error cause) ∧
        .method u.1.decl.name u.2.name cause = f := by
  simp only [outcome, methodOf, mapError_eq_error_iff, bind_eq_error_iff, pure, Except.pure,
    reduceCtorEq, and_false, exists_false, or_false]

/-! ## Other runs -/

theorem counted_planFrom : (c.planFrom catalog read source).Counted := by
  refine counted_addInterfaces _ ?_
  have hbare : ∀ t ∈ successes (c.tables.map (c.tableOutcome catalog source)), t.methods = [] := by
    intro t ht
    obtain ⟨table, -, htable⟩ := List.mem_map.1 (mem_successes.1 ht)
    exact methods_of_tableOutcome htable
  rw [Plan.Counted, planTables_eq, List.flatMap_eq_nil_iff.2 hbare]
  rfl

/-- An interface that cannot be found adds a failure and nothing else. -/
theorem planFrom_withoutInterface {before after : List InterfaceSource} {i : InterfaceSource}
    {f : Failure} (hc : c.interfaces = before ++ i :: after)
    (hf : findInterface read i = .error f) :
    ∃ a b, (c.planFrom catalog read source).report.failures = a ++ f :: b ∧
      { c with interfaces := before ++ after }.planFrom catalog read source =
        { c.planFrom catalog read source with
          report := { (c.planFrom catalog read source).report with failures := a ++ b } } := by
  set c' : Config := { c with interfaces := before ++ after } with hc'
  have hunits : c'.units read = c.units read := by
    funext table
    simp [units, hc, hc', hf, unitsOf]
  have htables : (c'.planFrom catalog read source).tables =
      (c.planFrom catalog read source).tables := by
    rw [tables_planFrom, tables_planFrom, hunits]
    rfl
  have hcount : (c'.planFrom catalog read source).report.tables =
      (c.planFrom catalog read source).report.tables := by
    rw [planFrom, planFrom, tableCount_addInterfaces, tableCount_addInterfaces]
    rfl
  have hmethods : (c'.planFrom catalog read source).report.methods =
      (c.planFrom catalog read source).report.methods := by
    rw [counted_planFrom, counted_planFrom, htables]
  have hleft : c'.leftOut catalog read source = c.leftOut catalog read source := by
    funext i
    rw [leftOut, leftOut, structsOf, structsOf, htables]
    rfl
  refine ⟨failures (c.tables.map (c.tableOutcome catalog source)) ++
    before.flatMap (c.leftOut catalog read source), after.flatMap (c.leftOut catalog read source),
    ?_, ?_⟩
  · rw [failures_planFrom, hc, List.flatMap_append, List.flatMap_cons, leftOut_of_error hf]
    simp
  · have hfailures : (c'.planFrom catalog read source).report.failures =
        (failures (c.tables.map (c.tableOutcome catalog source)) ++
          before.flatMap (c.leftOut catalog read source)) ++
          after.flatMap (c.leftOut catalog read source) := by
      rw [failures_planFrom, hleft, List.append_assoc, ← List.flatMap_append]
      rfl
    exact Plan.ext htables (Report.ext hcount hmethods hfailures)

/-- A method is read against the imports and the name of its interface, and nothing else of it. -/
theorem methodOf_congr {structs : StructRegistry} {i j : FoundInterface} {t : TablePlan}
    {m : Method} (himports : j.file.imports = i.file.imports) (hname : j.decl.name = i.decl.name) :
    c.methodOf structs j t m = c.methodOf structs i t m := by
  have hmethodImports : c.methodImports j.file = c.methodImports i.file := by
    funext q
    rw [methodImports, methodImports, himports]
  rw [methodOf, methodOf, hname, hmethodImports]

theorem LosesMethods.map_outcome {structs : StructRegistry} {drop : Method → Bool}
    {found found' : Except Failure FoundInterface} (h : LosesMethods drop found found')
    (t : TablePlan) :
    (unitsOf t.table found').map (c.outcome structs t) =
      ((unitsOf t.table found).filter fun u => !drop u.2).map (c.outcome structs t) := by
  cases h with
  | failed f => rfl
  | @found i j source imports name methods =>
    simp only [unitsOf, FoundInterface.units, source]
    split
    · have hsame : c.outcome structs t ∘ (j, ·) = c.outcome structs t ∘ (i, ·) := by
        funext m
        simp only [Function.comp_apply, outcome]
        exact methodOf_congr imports name
      rw [methods, List.map_map, List.filter_map, List.map_map, hsame]
      rfl
    · rfl

theorem source_of_mem_unitsOf {i : InterfaceSource} {table : String}
    {u : FoundInterface × Method} (h : u ∈ unitsOf table (findInterface read i)) :
    u.1.source = i := by
  cases hi : findInterface read i with
  | error f => simp [hi, unitsOf] at h
  | ok found =>
    rw [hi, unitsOf, FoundInterface.units] at h
    split at h
    · obtain ⟨m, -, rfl⟩ := List.mem_map.1 h
      exact source_of_findInterface hi
    · cases h

theorem map_outcome_unitsWithout {structs : StructRegistry} {read' : FileReader}
    {drop : InterfaceSource → Method → Bool}
    (h : ∀ i ∈ c.interfaces,
      LosesMethods (drop i) (findInterface read i) (findInterface read' i)) (t : TablePlan) :
    (c.units read' t.table).map (c.outcome structs t) =
      (c.unitsWithout read drop t.table).map (c.outcome structs t) := by
  rw [unitsWithout, units, units, List.filter_flatMap, List.map_flatMap, List.map_flatMap]
  refine List.flatMap_congr fun i hi => ?_
  rw [(h i hi).map_outcome]
  congr 1
  refine List.filter_congr fun u hu => ?_
  rw [source_of_mem_unitsOf hu]

/-! ## All together -/

/-- Every plan accounts for the units of its run. -/
theorem account_planFrom (hsource : c.modelSource.mapM (GoFile.load read) = .ok source) :
    c.Account catalog read source (c.planFrom catalog read source) where
  tables := by
    rw [tables_planFrom, List.map_map]
    refine (List.map_congr_left fun t ht => ?_).trans (List.map_id _)
    obtain ⟨table, -, htable⟩ := List.mem_map.1 (mem_successes.1 ht)
    simp [filled, TablePlan.bare, ← methods_of_tableOutcome htable]
  tableFailure _ _ := tableOutcome_eq_error
  interfaceFailure _ _ := findInterface_eq_error
  methods _ := methods_of_mem
  generated _ _ _ := outcome_eq_ok
  methodFailure _ _ _ := outcome_eq_error
  failures := by
    rw [failures_planFrom]
    rfl
  tableCount := by
    rw [planFrom, tableCount_addInterfaces, tables_addInterfaces, List.length_map, planTables_eq]
  methodCount := counted_planFrom
  total := by
    rw [Nat.add_assoc]
    exact total_planFrom
  withoutInterface before i after f hc hf := by
    obtain ⟨a, b, hfailures, hplan⟩ := planFrom_withoutInterface hc hf
    exact ⟨a, b, hfailures, plan_eq_ok.2 ⟨source, hsource, hplan.symm⟩⟩
  withoutMethods read' drop hsource' hlost := by
    refine ⟨c.planFrom catalog read' source, plan_eq_ok.2 ⟨source, hsource', rfl⟩, ?_, ?_⟩
    · rw [structsOf_planFrom, tables_planFrom, tables_planFrom, List.map_map]
      refine List.map_congr_left fun t _ => ?_
      rw [filled, map_outcome_unitsWithout hlost]
      rfl
    · intro t ht hfails
      have hkept : ∀ u ∈ c.units read t.table, (!drop u.1.source u.2) = false →
          ∃ f, c.outcome (c.structsOf source (c.planFrom catalog read source)) t u = .error f :=
        fun u hu hdrop => hfails u hu (by simpa using hdrop)
      rw [filled, unitsWithout, successes_map_filter hkept, ← methods_of_mem ht]

/-- Every plan accounts for each unit of its run once. What a unit comes to does not depend on the
other units. -/
theorem plan_accounts {p : Plan} (h : c.plan catalog read = .ok p) :
    ∃ source, c.modelSource.mapM (GoFile.load read) = .ok source ∧
      c.Account catalog read source p := by
  obtain ⟨source, hsource, rfl⟩ := plan_eq_ok.1 h
  exact ⟨source, hsource, account_planFrom hsource⟩

end Config

namespace Patchy

open Config

/-- An interface with a method that has no template. -/
def source : String :=
  "package dao\n\ntype Query interface \x7b\n\t// select 1\n\tOne() error\n\tLost() error\n\x7d\n"

/-- The interface without that method. -/
def shortSource : String :=
  "package dao\n\ntype Query interface \x7b\n\t// select 1\n\tOne() error\n\x7d\n"

def query : InterfaceSource := ⟨"query.go", "Query", []⟩

/-- Its file is missing. -/
def lostQuery : InterfaceSource := ⟨"lost.go", "Query", []⟩

def config : Config where
  modelImport := "example.com/app/model"
  tables := ["users", "ghosts"]
  interfaces := [query, lostQuery]

/-- Only one of the tables exists. -/
def catalog : Catalog where
  tables := .ok [{ name := "users", columns := [{ name := "id", type := .bigInt }] }]
  columns _ := .ok []

/-- A directory with one Go file. -/
def reading (source : String) : FileReader := fun path =>
  if path = "query.go" then .ok source else .error "no such file"

def one : Method := ⟨"One", "select 1", [], [{ name := "", type := .simple "error" }]⟩

def lost : Method := ⟨"Lost", "", [], [{ name := "", type := .simple "error" }]⟩

def found (methods : List Method) : FoundInterface where
  source := query
  file := { package := "dao", interfaces := [⟨"Query", methods⟩] }
  decl := ⟨"Query", methods⟩

theorem findInterface_query {source : String} {methods : List Method}
    (h : GoFile.parse? source = some (found methods).file) :
    findInterface (reading source) query = .ok (found methods) := by
  have hload : GoFile.load (reading source) query.path = .ok (found methods).file := by
    have hpath : query.path = "query.go" := rfl
    rw [GoFile.load, reading, if_pos hpath]
    simp only [GoFile.parse, h]
  rw [findInterface, hload]
  rfl

theorem findInterface_lostQuery (source : String) : findInterface (reading source) lostQuery =
    .error (.interface "Query" "lost.go" (.unreadable "lost.go" "no such file")) := by
  have hload : GoFile.load (reading source) lostQuery.path =
      .error (.unreadable "lost.go" "no such file") := by
    have hpath : lostQuery.path ≠ "query.go" := by decide
    rw [GoFile.load, reading, if_neg hpath]
    rfl
  rw [findInterface, hload]
  rfl

theorem outcome_lost (structs : StructRegistry) (t : TablePlan) :
    config.outcome structs t (found [one, lost], lost) =
      .error (.method "Query" "Lost" (.doc .missingSql)) := by
  have hdoc : SqlDoc.parse lost.name lost.doc = .error .missingSql := by decide
  refine outcome_eq_error.2 ⟨.doc .missingSql, .inl ?_, rfl⟩
  rw [QueryMethod.build, hdoc]
  rfl

/-- One table of two, one method of two and one interface of two fail. Without the interface or the
method, the tables are the same. -/
theorem plan_accounts_patchy :
    ∃ p, config.plan catalog (reading source) = .ok p ∧
      (p.report.tables, p.report.methods, p.report.failures.map (·.subject)) =
        (1, 1, ["table ghosts", "Query.Lost", "interface Query (lost.go)"]) ∧
      config.Account catalog (reading source) none p ∧
      (∃ p', { config with interfaces := [query] }.plan catalog (reading source) = .ok p' ∧
        p'.tables = p.tables) ∧
      ∃ p', config.plan catalog (reading shortSource) = .ok p' ∧ p'.tables = p.tables := by
  have hquery : findInterface (reading source) query = .ok (found [one, lost]) := by
    refine findInterface_query ?_
    rw [GoFile.parse?, source, String.toList_ofList]
    decide +kernel
  have hshort : findInterface (reading shortSource) query = .ok (found [one]) := by
    refine findInterface_query ?_
    rw [GoFile.parse?, shortSource, String.toList_ofList]
    decide +kernel
  have hnone (read : FileReader) : config.modelSource.mapM (GoFile.load read) = .ok none := rfl
  have hsummary : (config.plan catalog (reading source)).map (fun p =>
      (p.report.tables, p.report.methods, p.report.failures.map (·.subject))) =
        .ok (1, 1, ["table ghosts", "Query.Lost", "interface Query (lost.go)"]) := by
    have hinterfaces : config.interfaces = [query, lostQuery] := rfl
    have hplan : config.plan catalog (reading source) =
        .ok (config.planFrom catalog (reading source) none) := rfl
    rw [hplan, planFrom, hinterfaces]
    rw [List.foldl_cons, List.foldl_cons, List.foldl_nil, addInterface, findInterface_lostQuery,
      addInterface, hquery]
    decide +kernel
  obtain ⟨p, hplan, hsummary⟩ := map_eq_ok_iff.1 hsummary
  obtain ⟨read?, hread, account⟩ := plan_accounts hplan
  obtain rfl : none = read? := Except.ok.inj ((hnone _).symm.trans hread)
  refine ⟨p, hplan, hsummary, account, ?_, ?_⟩
  · obtain ⟨a, b, -, h⟩ := account.withoutInterface [query] lostQuery [] _ rfl
      (findInterface_lostQuery source)
    exact ⟨_, h, rfl⟩
  · have hlost : ∀ i ∈ config.interfaces, LosesMethods (·.name == "Lost")
        (findInterface (reading source) i) (findInterface (reading shortSource) i) := by
      intro i hi
      simp only [config, List.mem_cons, List.not_mem_nil, or_false] at hi
      rcases hi with rfl | rfl
      · rw [hquery, hshort]
        exact .found rfl rfl rfl (by decide)
      · rw [findInterface_lostQuery, findInterface_lostQuery]
        exact .failed _
    obtain ⟨p', hp', htables, hsame⟩ :=
      account.withoutMethods (reading shortSource) (fun _ m => m.name == "Lost") (hnone _) hlost
    refine ⟨p', hp', ?_⟩
    rw [htables]
    refine (List.map_congr_left fun t ht => hsame t ht fun u hu hdrop => ?_).trans (List.map_id _)
    have hunits : config.units (reading source) t.table =
        [(found [one, lost], one), (found [one, lost], lost)] := by
      simp only [units, config, List.flatMap_cons, List.flatMap_nil, hquery, unitsOf,
        findInterface_lostQuery]
      rfl
    rw [hunits] at hu
    simp only [List.mem_cons, List.not_mem_nil, or_false] at hu
    rcases hu with rfl | rfl
    · simp [one] at hdrop
    · exact ⟨_, outcome_lost _ _⟩

end Patchy

end QueryGen
