import QueryGen.Output.QueryFile
import QueryGen.Proofs.Method.Results
import QueryGen.Proofs.Statement.Assignments

/-!
# How generated methods serve their results

Behind the statements of its template, a generated method runs what they have put together and hands
on what came of it.

- `RunStep`: the statements that do this, and `GeneratedMethod.steps` those of a method.
- `GeneratedMethod.lines_eq`: they stand behind the statements of the template.
- `GeneratedMethod.perm_sets`: they set every result once.
- `GeneratedMethod.Serves`: what a body does with the results of its method.
- `QueryMethod.build_serves`: every accepted method has results of the right kinds and a body that
  serves them. A method whose results cannot be served is refused.
-/

namespace QueryGen

open Template (Options)

/-! ## Statements -/

/-- The method that runs a statement. -/
def ExecKind.method : ExecKind → String
  | .raw => "Raw"
  | .exec => "Exec"
  | .filter => "Where"

/-- A statement of a method body behind those of its template. -/
inductive RunStep where
  | declare
  /-- Runs the statement, and may read its rows into a result. -/
  | run (kind : ExecKind) (into : Option (String × ScanKind))
  /-- Sets a result to the number of rows, converted to a type. -/
  | rows (result : String) (type : GoType)
  /-- Sets a result to the error. -/
  | error (result : String)
  | discard
deriving DecidableEq, Repr

namespace RunStep

/-- The line of a statement, with the arguments that the statement is run with. -/
def line (receiver args : String) : RunStep → String
  | declare => "\tvar " ++ Reserved.execution ++ " *gorm.DB"
  | run kind into =>
    let reading := match into with
      | some (result, how) => "." ++ how.method ++ "(&" ++ result ++ ")"
      | none => ""
    "\t" ++ Reserved.execution ++ " = " ++ receiver ++ ".UnderlyingDB()." ++
      (kind.method ++ "(" ++ args ++ ")" ++ reading) ++ " // ignore_security_alert"
  | rows result type =>
    "\t" ++ result ++ " = " ++ type.text ++ "(" ++ Reserved.execution ++ ".RowsAffected)"
  | error result => "\t" ++ result ++ " = " ++ Reserved.execution ++ ".Error"
  | discard => "\t_ = " ++ Reserved.execution

/-- The result that a statement sets, and what it sets it to. -/
def sets? : RunStep → Option (String × ResultRole)
  | run _ (some (result, kind)) => some (result, .data kind)
  | rows result _ => some (result, .rowsAffected)
  | error result => some (result, .error)
  | _ => none

/-- Whether the executed statement is assigned. -/
def assigns : RunStep → Bool
  | run _ _ => true
  | _ => false

/-- Whether the executed statement is read. -/
def reads : RunStep → Bool
  | rows _ _ => true
  | error _ => true
  | discard => true
  | _ => false

end RunStep

/-! ## The body of a method -/

namespace QueryMethod

variable {declared : Method} {ctx : MethodContext} {m : QueryMethod}

/-- The result that rows are read into, and how. -/
def into? (m : QueryMethod) : Option (String × ScanKind) :=
  m.data?.bind fun slot => slot.role.scan?.map (slot.name, ·)

theorem role_of_data? {slot : ResultSlot} (h : m.data? = some slot) :
    slot ∈ m.results ∧ ∃ kind, slot.role = .data kind := by
  have hslot : slot.role.isData = true :=
    List.find?_some (p := fun slot : ResultSlot => slot.role.isData) h
  refine ⟨List.mem_of_find?_eq_some h, ?_⟩
  cases hr : slot.role with
  | data kind => exact ⟨kind, rfl⟩
  | rowsAffected | error =>
    rw [hr] at hslot
    cases hslot

/-- Rows are read into a result unless the statement is run for its effect. -/
theorem Classified.into?_eq_none_iff (h : m.Classified ctx declared) :
    m.into? = none ↔ m.exec = .exec := by
  rw [h.exec, into?]
  cases hd : m.data? with
  | none => simpa using List.find?_eq_none.1 hd
  | some slot =>
    obtain ⟨hmem, kind, hkind⟩ := role_of_data? hd
    have hnot : ¬∀ slot ∈ m.results, slot.role.isData = false := by
      intro hall
      have hslot := hall slot hmem
      rw [hkind] at hslot
      cases hslot
    simp [hkind, ResultRole.scan?, hnot]

/-- There are two results at most, and of two one is an error. -/
theorem Classified.results_cases (h : m.Classified ctx declared) :
    m.results = [] ∨ (∃ slot, m.results = [slot]) ∨
      ∃ a b, m.results = [a, b] ∧ a.role.isError ≠ b.role.isError := by
  have herrors := h.errors
  have hothers := h.others
  have hlength := List.length_eq_countP_add_countP (p := fun slot => slot.role.isError)
    (l := m.results)
  match hresults : m.results with
  | [] => exact .inl rfl
  | [slot] => exact .inr (.inl ⟨slot, rfl⟩)
  | [a, b] =>
    refine .inr (.inr ⟨a, b, rfl, fun hab => ?_⟩)
    cases hb : b.role.isError <;> simp_all
  | a :: b :: c :: rest =>
    simp [hresults] at hlength herrors hothers
    omega

end QueryMethod

namespace GeneratedMethod

/-- The statements of a method behind those of its template. -/
def steps (g : GeneratedMethod) : List RunStep :=
  let rows := g.method.rowsAffected?.toList.map fun slot => RunStep.rows slot.name slot.type
  let error := g.method.error?.toList.map fun slot => RunStep.error slot.name
  [.declare, .run g.method.exec g.method.into?] ++
    if rows ++ error = [] then [.discard] else rows ++ error

variable {declared : Method} {ctx : MethodContext} {g : GeneratedMethod}

theorem call_eq (h : g.method.Classified ctx declared) :
    g.call = g.method.exec.method ++ "(" ++ g.compiled.execArgs ++ ")" ++
      match g.method.into? with
      | some (result, kind) => "." ++ kind.method ++ "(&" ++ result ++ ")"
      | none => "" := by
  have hinto := h.into?_eq_none_iff
  unfold QueryMethod.into? at hinto ⊢
  unfold call QueryMethod.scan?
  cases hd : g.method.data? with
  | none =>
    rw [hd] at hinto
    rw [hinto.1 rfl]
    simp [ExecKind.method]
  | some slot =>
    obtain ⟨-, kind, hkind⟩ := QueryMethod.role_of_data? hd
    have hscan : slot.role.scan? = some kind := by rw [hkind, ResultRole.scan?]
    rw [hd, Option.bind_some, hscan] at hinto
    simp only [Option.bind_some, hscan]
    cases he : g.method.exec with
    | exec => exact absurd (hinto.2 he) (by simp)
    | raw | filter =>
      simp only [ExecKind.method, String.append_assoc, Option.map_some]
      rfl

theorem resultLines_eq (g : GeneratedMethod) (receiver : String) :
    g.resultLines = (g.steps.drop 2).map (RunStep.line receiver g.compiled.execArgs) := by
  unfold resultLines steps
  cases g.method.error? <;> cases g.method.rowsAffected? <;> simp [RunStep.line]

/-- The statements of the template come first, then those that run what they have put together. -/
theorem lines_eq (h : g.method.Classified ctx declared) (receiver doType : String) :
    g.lines receiver doType = Output.commentLines g.comment ++
      ["func (" ++ receiver ++ " " ++ doType ++ ") " ++ g.method.signature ++ " \x7b"] ++
      g.compiled.statements.map ("\t" ++ ·) ++
      "" :: (g.steps.map (RunStep.line receiver g.compiled.execArgs) ++ ["\treturn", "\x7d"]) := by
  have hsteps : g.steps = [.declare, .run g.method.exec g.method.into?] ++ g.steps.drop 2 := rfl
  rw [hsteps, List.map_append, ← resultLines_eq, lines, call_eq h]
  simp [RunStep.line]

/-- The results that are set are those of the method. -/
theorem perm_sets (h : g.method.Classified ctx declared) :
    (g.steps.filterMap RunStep.sets?).Perm
      (g.method.results.map fun slot => (slot.name, slot.role)) := by
  unfold steps QueryMethod.into? QueryMethod.data? QueryMethod.rowsAffected? QueryMethod.error?
  rcases h.results_cases with hr | ⟨slot, hr⟩ | ⟨a, b, hr, hab⟩
  · simp [hr, RunStep.sets?]
  · cases hs : slot.role <;>
      simp [hr, hs, RunStep.sets?, ResultRole.isData, ResultRole.scan?, List.filterMap_cons]
  · cases ha : a.role <;> cases hb : b.role <;>
      simp_all [RunStep.sets?, ResultRole.isData, ResultRole.scan?, ResultRole.isError,
        List.filterMap_cons, List.Perm.swap]

/-- What the body of a method does with its results. -/
structure Serves (g : GeneratedMethod) : Prop where
  /-- The statements of the template come first, then those that run what they put together. -/
  lines : ∀ receiver doType, g.lines receiver doType = Output.commentLines g.comment ++
    ["func (" ++ receiver ++ " " ++ doType ++ ") " ++ g.method.signature ++ " \x7b"] ++
    g.compiled.statements.map ("\t" ++ ·) ++
    "" :: (g.steps.map (RunStep.line receiver g.compiled.execArgs) ++ ["\treturn", "\x7d"])
  /-- The statement is run once, and what comes of it is read behind that. -/
  run : ∃ after, g.steps = .declare :: .run g.method.exec g.method.into? :: after ∧
    (∀ s ∈ after, s.assigns = false) ∧ ∃ s ∈ after, s.reads = true
  /-- A statement that is not run for its effect has a result to read rows into. -/
  into : g.method.into?.isSome = true ↔ g.method.exec ≠ .exec
  /-- Every result is set once, by a statement for its role. -/
  once : (g.steps.filterMap RunStep.sets?).Perm
    (g.method.results.map fun slot => (slot.name, slot.role))
  /-- No two results are one variable. -/
  names : (g.method.results.map (·.name)).Nodup
  /-- The statements of the template set no result. -/
  template : ∀ slot ∈ g.method.results, slot.name ∉ Statement.assignedAll g.compiled.block

/-- Behind the run, what came of it is read and not assigned. -/
theorem reads_steps (g : GeneratedMethod) :
    (∀ s ∈ g.steps.drop 2, s.assigns = false) ∧ ∃ s ∈ g.steps.drop 2, s.reads = true := by
  unfold steps
  cases g.method.error? <;> cases g.method.rowsAffected? <;>
    simp [RunStep.assigns, RunStep.reads]

end GeneratedMethod

namespace QueryMethod

variable {interface : String} {declared : Method} {ctx : MethodContext} {m : QueryMethod}

theorem isReserved_of_mem_results (h : build interface declared ctx = .ok m) {slot : ResultSlot}
    (hs : slot ∈ m.results) : Reserved.isReserved slot.name = false := by
  obtain ⟨n, hn, -⟩ := freshName_eq slot.role.baseName (m.params.map (·.name))
  rw [name_of_mem_results h hs, hn]
  exact (slot.role.isReserved_underscored_baseName n).1

/-- The body of a checked method whose template compiles serves all results. -/
theorem serves_of_compile (h : build interface declared ctx = .ok m) {table : String}
    {structs : StructRegistry} {opts : Options} {compiled : Compiled}
    (hc : m.compile table structs opts = .ok compiled) (comment : String)
    (imports : List Import) : (GeneratedMethod.mk m compiled comment imports).Serves := by
  have hclassified := classified_of_build h
  have hassigned := assigned_of_compile (mapError_eq_ok_iff.1 hc)
  let g := GeneratedMethod.mk m compiled comment imports
  refine {
    lines := GeneratedMethod.lines_eq (g := g) hclassified
    run := ⟨g.steps.drop 2, rfl, g.reads_steps⟩
    into := ?into
    once := GeneratedMethod.perm_sets (g := g) hclassified
    names := (List.nodup_append.1 (nodup_names_of_build h)).2.1
    template := fun slot hs hmem => ?template }
  case into =>
    rw [Option.isSome_iff_ne_none]
    exact not_congr hclassified.into?_eq_none_iff
  case template =>
    have hfree := isReserved_of_mem_results h hs
    rw [hassigned slot.name hmem] at hfree
    cases hfree

/-- An accepted method has its results sorted, and a body that serves all of them. A method whose
results cannot be served is refused. -/
theorem build_serves (interface : String) (declared : Method) (ctx : MethodContext) :
    (∀ m, build interface declared ctx = .ok m → m.Classified ctx declared ∧
      ∀ table structs opts compiled, m.compile table structs opts = .ok compiled →
        ∀ comment imports, (GeneratedMethod.mk m compiled comment imports).Serves) ∧
    (ctx.Unservable declared → ∃ e, build interface declared ctx = .error e) :=
  ⟨fun _ h => ⟨classified_of_build h, fun _ _ _ _ hc => serves_of_compile h hc⟩,
    error_of_unservable⟩

end QueryMethod

namespace FindUser

def context : MethodContext where
  model := .qualified "model" "User"
  structs := .empty

/-- A method that finds a row by a condition. -/
def declared (results : List GoType) : Method where
  name := "Find"
  doc := "where(id = @id)"
  params := [⟨"id", .simple "int", false⟩]
  results := results.map fun type => ⟨"", type, false⟩

def method : QueryMethod where
  interface := "Querier"
  name := "Find"
  doc := ⟨.filter, "id = @id"⟩
  exec := .filter
  params := [⟨"id", .simple "int", false⟩]
  results := [⟨"result", .pointer (.qualified "model" "User"), .data .take⟩,
    ⟨"err", .simple "error", .error⟩]

def compiled : Compiled :=
  render ⟨.named, "u"⟩ [.sql "generateSQL" [.text "id = ", .bind ⟨"id", ⟨"id", none⟩⟩]]

theorem compile_eq : method.compile "users" .empty ⟨.named, "u"⟩ = .ok compiled := by
  refine mapError_eq_ok_iff.2 (compile_ofList [.literal "id = ",
    .data ⟨"id", .method, .simple "int"⟩] rfl ?tokens ?tree)
  case tokens => decide +kernel
  case tree => rfl

/-- A user and an error are served. Two errors are refused. -/
theorem serves_find :
    QueryMethod.build "Querier" (declared [.pointer (.qualified "gen" "T"), .simple "error"])
      context = .ok method ∧
    method.compile "users" .empty ⟨.named, "u"⟩ = .ok compiled ∧
    (GeneratedMethod.mk method compiled "" []).Serves ∧
    (GeneratedMethod.mk method compiled "" []).steps =
      [.declare, .run .filter (some ("result", .take)), .error "err"] ∧
    context.Unservable (declared [.simple "error", .simple "error"]) ∧
    ∃ e, QueryMethod.build "Querier" (declared [.simple "error", .simple "error"]) context =
      .error e := by
  have hb : QueryMethod.build "Querier"
      (declared [.pointer (.qualified "gen" "T"), .simple "error"]) context = .ok method := by
    decide +kernel
  have hun : context.Unservable (declared [.simple "error", .simple "error"]) :=
    .errors (by decide)
  exact ⟨hb, compile_eq, ((QueryMethod.build_serves _ _ _).1 method hb).2 _ _ _ _ compile_eq _ _,
    by decide, hun, (QueryMethod.build_serves _ _ _).2 hun⟩

end FindUser

end QueryGen
