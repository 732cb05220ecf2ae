import Mathlib
import QueryGen.Plan.Basic

/-!
# Steps of a run

A run takes in tables and interfaces one after the other. What becomes of a unit does not depend on
the units before it: each step adds its own outcomes to what is there.

- `FoundInterface.units`: the methods that a table gets from an interface, and
  `Config.outcome`: what becomes of one of them.
- `Config.addToTables_eq`: the step of an interface that was found.
- `Config.planTables_eq`, `Config.tables_addInterfaces`, `Config.failures_addInterfaces`: the loops
  as lists of outcomes.
- `Plan.Counted`: the counter of methods is right after every step.
- `Config.answers_addInterfaces`: every unit of an interface is answered for once.
-/

namespace QueryGen

/-! ## Units -/

/-- The methods that a table gets from an interface. -/
def FoundInterface.units (i : FoundInterface) (table : String) : List (FoundInterface × Method) :=
  if i.source.appliesTo table then i.decl.methods.map (i, ·) else []

/-- The methods that a table gets from an interface, if that can be found. -/
def unitsOf (table : String) : Except Failure FoundInterface → List (FoundInterface × Method)
  | .ok i => i.units table
  | .error _ => []

/-- A table with more methods. -/
def TablePlan.extend (t : TablePlan) (more : List GeneratedMethod) : TablePlan :=
  { t with methods := t.methods ++ more }

@[simp] theorem TablePlan.extend_nil (t : TablePlan) : t.extend [] = t := by simp [extend]

@[simp] theorem TablePlan.extend_extend (t : TablePlan) (a b : List GeneratedMethod) :
    (t.extend a).extend b = t.extend (a ++ b) := by
  simp [extend]

@[simp] theorem TablePlan.table_extend (t : TablePlan) (more : List GeneratedMethod) :
    (t.extend more).table = t.table := rfl

@[simp] theorem TablePlan.model_extend (t : TablePlan) (more : List GeneratedMethod) :
    (t.extend more).model = t.model := rfl

namespace Config

variable {c : Config} {structs : StructRegistry} {read : FileReader}

/-- What becomes of a method for a table. -/
def outcome (c : Config) (structs : StructRegistry) (t : TablePlan) (u : FoundInterface × Method) :
    Except Failure GeneratedMethod :=
  c.methodOf structs u.1 t u.2

/-- What becomes of the methods that a table gets from an interface. -/
def outcomes (c : Config) (structs : StructRegistry) (found : Except Failure FoundInterface)
    (t : TablePlan) : List (Except Failure GeneratedMethod) :=
  (unitsOf t.table found).map (c.outcome structs t)

/-- What is left out on account of an interface. -/
def failuresOf (c : Config) (structs : StructRegistry) (ts : List TablePlan) :
    Except Failure FoundInterface → List Failure
  | .error f => [f]
  | .ok i => ts.flatMap fun t => failures (c.outcomes structs (.ok i) t)

/-- How many units an interface has: its methods once for each table that it applies to, or else
the interface itself. -/
def unitCount (ts : List TablePlan) : Except Failure FoundInterface → Nat
  | .error _ => 1
  | .ok i => (ts.flatMap fun t => i.units t.table).length

/-- The methods that a table has already make no difference. -/
@[simp] theorem outcomes_extend (found : Except Failure FoundInterface) (t : TablePlan)
    (more : List GeneratedMethod) :
    c.outcomes structs found (t.extend more) = c.outcomes structs found t := rfl

theorem failuresOf_map_extend (found : Except Failure FoundInterface) (ts : List TablePlan)
    (more : TablePlan → List GeneratedMethod) :
    c.failuresOf structs (ts.map fun t => t.extend (more t)) found =
      c.failuresOf structs ts found := by
  cases found <;> simp [failuresOf, List.flatMap_map]

theorem unitCount_map_extend (found : Except Failure FoundInterface) (ts : List TablePlan)
    (more : TablePlan → List GeneratedMethod) :
    unitCount (ts.map fun t => t.extend (more t)) found = unitCount ts found := by
  cases found <;> simp [unitCount, List.flatMap_map]

/-! ## One interface -/

theorem addMethods_eq (i : FoundInterface) (ms : List Method) (t : TablePlan) (r : Report) :
    c.addMethods structs i ms t r =
      (t.extend (successes (ms.map (c.methodOf structs i t))),
        { r with
          methods := r.methods + (successes (ms.map (c.methodOf structs i t))).length
          failures := r.failures ++ failures (ms.map (c.methodOf structs i t)) }) := by
  induction ms generalizing t r with
  | nil => simp [addMethods, successes, failures]
  | cons m rest ih =>
    -- the rest sees the table with one more method, which makes no difference to it
    have hsame : ∀ more, c.methodOf structs i (t.extend more) = c.methodOf structs i t :=
      fun _ => rfl
    cases hm : c.methodOf structs i t m with
    | ok g =>
      have hstep : t.addMethod r (.ok g) =
          (t.extend [g], { r with methods := r.methods + 1 }) := rfl
      simp [addMethods, hm, hstep, ih, hsame, successes, failures, Nat.add_assoc, Nat.add_comm]
    | error f =>
      simp [addMethods, hm, TablePlan.addMethod, ih, Report.fail, successes, failures]

/-- The step of an interface: each table gets the methods that come out for it. -/
theorem addToTables_eq (i : FoundInterface) (ts : List TablePlan) (r : Report) :
    c.addToTables structs i ts r =
      (ts.map fun t => t.extend (successes (c.outcomes structs (.ok i) t)),
        { r with
          methods := r.methods +
            (ts.flatMap fun t => successes (c.outcomes structs (.ok i) t)).length
          failures := r.failures ++ c.failuresOf structs ts (.ok i) }) := by
  induction ts generalizing r with
  | nil => simp [addToTables, failuresOf]
  | cons t rest ih =>
    by_cases h : i.source.appliesTo t.table
    · have houtcomes : c.outcomes structs (.ok i) t =
          i.decl.methods.map (c.methodOf structs i t) := by
        simp [outcomes, unitsOf, FoundInterface.units, h, outcome]
      simp [addToTables, h, addMethods_eq, ih, failuresOf, houtcomes, Nat.add_assoc]
    · have houtcomes : c.outcomes structs (.ok i) t = [] := by
        simp [outcomes, unitsOf, FoundInterface.units, h]
      simp [addToTables, h, ih, failuresOf, houtcomes, successes, failures]

theorem tables_addInterface (p : Plan) (i : InterfaceSource) :
    (c.addInterface structs read p i).tables =
      p.tables.map fun t => t.extend (successes (c.outcomes structs (findInterface read i) t)) := by
  unfold addInterface
  cases findInterface read i with
  | ok found => simp [addToTables_eq]
  | error f => simp [outcomes, unitsOf, successes]

theorem report_addInterface (p : Plan) (i : InterfaceSource) :
    (c.addInterface structs read p i).report =
      { p.report with
        methods := p.report.methods + (p.tables.flatMap fun t =>
          successes (c.outcomes structs (findInterface read i) t)).length
        failures :=
          p.report.failures ++ c.failuresOf structs p.tables (findInterface read i) } := by
  unfold addInterface
  cases findInterface read i with
  | ok found => simp [addToTables_eq]
  | error f => simp [Report.fail, failuresOf, outcomes, unitsOf, successes]

/-! ## The loop over the interfaces -/

/-- Each table gets the methods of all interfaces, in order. -/
theorem tables_addInterfaces (is : List InterfaceSource) (p : Plan) :
    (is.foldl (c.addInterface structs read) p).tables =
      p.tables.map fun t => t.extend
        (successes (is.flatMap fun i => c.outcomes structs (findInterface read i) t)) := by
  induction is generalizing p with
  | nil => simp [successes]
  | cons i rest ih =>
    rw [List.foldl_cons, ih, tables_addInterface, List.map_map]
    simp [Function.comp_def]

/-- Failures are recorded in the order of the interfaces. -/
theorem failures_addInterfaces (is : List InterfaceSource) (p : Plan) :
    (is.foldl (c.addInterface structs read) p).report.failures =
      p.report.failures ++
        is.flatMap fun i => c.failuresOf structs p.tables (findInterface read i) := by
  induction is generalizing p with
  | nil => simp
  | cons i rest ih =>
    rw [List.foldl_cons, ih, report_addInterface, tables_addInterface]
    simp [failuresOf_map_extend]

theorem tableCount_addInterfaces (is : List InterfaceSource) (p : Plan) :
    (is.foldl (c.addInterface structs read) p).report.tables = p.report.tables := by
  induction is generalizing p with
  | nil => rfl
  | cons i rest ih => rw [List.foldl_cons, ih, report_addInterface]

end Config

/-- How many methods and failures a run has recorded. -/
def Report.answers (r : Report) : Nat := r.methods + r.failures.length

/-- The counter of methods is right. -/
def Plan.Counted (p : Plan) : Prop := p.report.methods = (p.tables.flatMap (·.methods)).length

namespace Config

variable {c : Config} {structs : StructRegistry} {read : FileReader}

theorem counted_addInterface {p : Plan} (h : p.Counted) (i : InterfaceSource) :
    (c.addInterface structs read p i).Counted := by
  rw [Plan.Counted, report_addInterface, tables_addInterface]
  rw [Plan.Counted] at h
  simp [h, List.flatMap_map, List.length_flatMap, TablePlan.extend, List.sum_map_add]

theorem counted_addInterfaces (is : List InterfaceSource) {p : Plan} (h : p.Counted) :
    (is.foldl (c.addInterface structs read) p).Counted := by
  induction is generalizing p with
  | nil => exact h
  | cons i rest ih => exact ih (counted_addInterface h i)

/-! ## Every unit is counted once -/

theorem answers_addInterface (p : Plan) (i : InterfaceSource) :
    (c.addInterface structs read p i).report.answers =
      p.report.answers + unitCount p.tables (findInterface read i) := by
  rw [report_addInterface]
  cases findInterface read i with
  | error f =>
    simp [Report.answers, failuresOf, outcomes, unitsOf, unitCount, successes, Nat.add_assoc]
  | ok found =>
    have hunits (t : TablePlan) : (successes (c.outcomes structs (.ok found) t)).length +
        (failures (c.outcomes structs (.ok found) t)).length = (found.units t.table).length := by
      rw [length_successes_add_length_failures, outcomes, List.length_map, unitsOf]
    simp only [Report.answers, failuresOf, unitCount, List.length_flatMap, List.length_append,
      ← hunits, List.sum_map_add]
    omega

theorem answers_addInterfaces (is : List InterfaceSource) (p : Plan) :
    (is.foldl (c.addInterface structs read) p).report.answers =
      p.report.answers + (is.map fun i => unitCount p.tables (findInterface read i)).sum := by
  induction is generalizing p with
  | nil => simp
  | cons i rest ih =>
    rw [List.foldl_cons, ih, answers_addInterface, tables_addInterface]
    simp [unitCount_map_extend, Nat.add_assoc]

/-! ## The loop over the tables -/

/-- What becomes of a table. -/
def tableOutcome (c : Config) (catalog : Catalog) (source : Option GoFile) (table : String) :
    Except Failure TablePlan :=
  (c.modelOf catalog source table).map fun model => ⟨table, model, []⟩

theorem addTables_eq (catalog : Catalog) (source : Option GoFile) (tables : List String)
    (p : Plan) :
    tables.foldl (fun p table => p.addTable table (c.modelOf catalog source table)) p =
      { tables := p.tables ++ successes (tables.map (c.tableOutcome catalog source))
        report := { p.report with
          failures :=
            p.report.failures ++ failures (tables.map (c.tableOutcome catalog source)) } } := by
  induction tables generalizing p with
  | nil => simp [successes, failures]
  | cons table rest ih =>
    rw [List.foldl_cons, ih, List.map_cons]
    cases h : c.modelOf catalog source table <;>
      simp [Plan.addTable, Report.fail, tableOutcome, h, Except.map, successes, failures]

theorem planTables_eq (catalog : Catalog) (source : Option GoFile) :
    c.planTables catalog source =
      { tables := successes (c.tables.map (c.tableOutcome catalog source))
        report := {
          tables := (successes (c.tables.map (c.tableOutcome catalog source))).length
          failures := failures (c.tables.map (c.tableOutcome catalog source)) } } := by
  simp [planTables, addTables_eq, Plan.countTables]

end Config

end QueryGen
