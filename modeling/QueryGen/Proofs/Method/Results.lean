import Mathlib.Data.List.Forall2
import QueryGen.Proofs.Method.Names
import QueryGen.Proofs.Method.Placeholders
import QueryGen.Proofs.Method.Wrappers

/-!
# Results of query methods

The results of a method are sorted into data, a number of rows and an error.

- `MethodContext.Serves`: the type and the role that a declared result gets.
- `MethodContext.serves_of_classify`: every result gets one, in order.
- `QueryMethod.Classified`: what holds of the results of a checked method, and of how its statement
  is run.
- `MethodContext.Unservable`: methods whose results cannot be served. None of them is accepted
  (`not_unservable_of_build`).
-/

namespace QueryGen

namespace MethodContext

variable {ctx : MethodContext}

/-- The type and the role that a result of a declared type gets. -/
inductive Serves (ctx : MethodContext) : GoType → GoType → ResultRole → Prop where
  | error : Serves ctx (.simple "error") (.simple "error") .error
  | rowsAffected : Serves ctx (.qualified ctx.placeholders "RowsAffected")
      (.qualified ctx.placeholders "RowsAffected") .rowsAffected
  | data {t r : GoType} (herror : t.isError = false) (hrows : ctx.isRowsAffected t = false)
      (hr : ctx.Replaced t r) (hnames : ¬r.Names ctx.placeholders)
      (hinterface : r.deref.isInterface = false) : Serves ctx t r (.data (ctx.scanKind r))

/-- The role of an error is that of errors alone. -/
theorem Serves.isError_eq {t r : GoType} {role : ResultRole} (h : ctx.Serves t r role) :
    role.isError = t.isError := by
  cases h with
  | error => rfl
  | rowsAffected => rfl
  | data herror => exact herror.symm

/-- Rows are read into a result that is neither an error nor a number of rows. -/
theorem Serves.isData_eq {t r : GoType} {role : ResultRole} (h : ctx.Serves t r role) :
    role.isData = !(t.isError || ctx.isRowsAffected t) := by
  cases h with
  | error => rfl
  | rowsAffected => simp [isRowsAffected, GoType.isQualified, ResultRole.isData, ResultRole.scan?]
  | data herror hrows => simp [herror, hrows, ResultRole.isData, ResultRole.scan?]

/-- An interface stays one, also behind pointers. -/
theorem Replaced.isInterface {t r : GoType} (h : ctx.Replaced t r)
    (ht : t.deref.isInterface = true) : r.deref.isInterface = true := by
  induction h with
  | placeholder h =>
    cases h <;> cases ht
  | pointer _ ih => exact ih ht
  | named | slice | array | map | interface | verbatim | unknown => exact ht

/-- No result is an interface. -/
theorem Serves.isInterface_eq {t r : GoType} {role : ResultRole} (h : ctx.Serves t r role) :
    t.deref.isInterface = false := by
  cases h with
  | error => rfl
  | rowsAffected => rfl
  | data _ _ hr _ hinterface =>
    exact Bool.eq_false_iff.2 fun ht => Bool.eq_false_iff.1 hinterface (hr.isInterface ht)

theorem serves_of_dataResult {t r : GoType} {role : ResultRole} (he : t.isError = false)
    (h : ctx.dataResult t = .ok (r, role)) : ctx.Serves t r role := by
  unfold dataResult at h
  split at h
  · next hrows =>
    cases h
    cases eq_of_beq hrows
    exact .rowsAffected
  · next hrows =>
    obtain ⟨resolved, hr, h⟩ := bind_eq_ok_iff.1 h
    split at h
    · cases h
    · next hinterface =>
      cases h
      obtain ⟨hreplaced, hnames⟩ := resolve_eq_ok_iff.1 hr
      exact .data he (Bool.eq_false_iff.2 hrows) hreplaced hnames (Bool.eq_false_iff.2 hinterface)

/-- Every declared result gets a type and a role, in order. -/
theorem serves_of_classify {data : Option String} {hasError : Bool} {declared : List Param}
    {classified : List (GoType × ResultRole)}
    (h : ctx.classify data hasError declared = .ok classified) :
    List.Forall₂ (fun p c => ctx.Serves p.type c.1 c.2) declared classified := by
  induction declared generalizing data hasError classified with
  | nil =>
    cases h
    exact .nil
  | cons p rest ih =>
    rw [classify] at h
    split at h
    · next he =>
      split at h
      · cases h
      · obtain ⟨others, ho, h⟩ := bind_eq_ok_iff.1 h
        cases h
        have hserves : ctx.Serves p.type p.type .error := by
          rw [eq_of_beq he]
          exact .error
        exact .cons hserves (ih ho)
    · next he =>
      obtain ⟨⟨type, role⟩, hd, h⟩ := bind_eq_ok_iff.1 h
      cases data with
      | some first => cases h
      | none =>
        obtain ⟨others, ho, h⟩ := bind_eq_ok_iff.1 h
        cases h
        exact .cons (serves_of_dataResult (Bool.eq_false_iff.2 he) hd) (ih ho)

end MethodContext

/-- Of values that pairwise differ in a Boolean there are two at most, and one for each Boolean. -/
theorem countP_le_one_of_pairwise {α : Type} {f : α → Bool} {xs : List α}
    (h : xs.Pairwise fun a b => f a ≠ f b) : xs.countP f ≤ 1 := by
  rw [List.countP_eq_length_filter]
  have hfilter := h.filter f
  match hxs : xs.filter f with
  | [] => exact Nat.zero_le 1
  | [_] => exact Nat.le_refl 1
  | a :: b :: rest =>
    rw [hxs] at hfilter
    have hall : ∀ c ∈ a :: b :: rest, f c = true := fun c hc =>
      (List.mem_filter.1 (hxs ▸ hc)).2
    have hne := (List.pairwise_cons.1 hfilter).1 b (by simp)
    exact absurd ((hall a (by simp)).trans (hall b (by simp)).symm) hne

namespace QueryMethod

variable {interface : String} {declared : Method} {ctx : MethodContext} {m : QueryMethod}

/-- The comment of a method is a call of `where`. -/
def IsFilter (declared : Method) : Prop :=
  ∃ inner after, Wraps "where" inner after (docBody declared.name.toList declared.doc.toList)

/-- What holds of the results of a checked method, and of how its statement is run. -/
structure Classified (ctx : MethodContext) (declared : Method) (m : QueryMethod) : Prop where
  /-- There is one slot for each declared result, in order. -/
  slots : List.Forall₂ (fun p slot => ctx.Serves p.type slot.type slot.role) declared.results
    m.results
  /-- One is an error at most. -/
  errors : m.results.countP (·.role.isError) ≤ 1
  /-- One is none at most. -/
  others : m.results.countP (!·.role.isError) ≤ 1
  /-- A statement is run for its effect if there is no result to read rows into. -/
  exec : m.exec = .exec ↔ ∀ slot ∈ m.results, slot.role.isData = false
  /-- It is run as a condition if its comment says so. -/
  filter : m.exec = .filter ↔ IsFilter declared

theorem exec_of_build (h : build interface declared ctx = .ok m) :
    ∃ doc, SqlDoc.parse declared.name declared.doc = .ok doc ∧
      execKind doc.kind (m.results.any (·.role.isData)) = .ok m.exec := by
  unfold build at h
  obtain ⟨doc, hd, h⟩ := bind_eq_ok_iff.1 h
  obtain ⟨params, -, h⟩ := bind_eq_ok_iff.1 h
  obtain ⟨results, -, h⟩ := bind_eq_ok_iff.1 h
  obtain ⟨kind, hk, h⟩ := bind_eq_ok_iff.1 h
  cases h
  exact ⟨doc, mapError_eq_ok_iff.1 hd, hk⟩

/-- How a statement is run, by the wrapper of its template and whether rows are read. -/
theorem execKind_eq_ok_iff {kind : DocKind} {hasData : Bool} {run : ExecKind} :
    execKind kind hasData = .ok run ↔
      (run = .exec ↔ hasData = false) ∧ (run = .filter ↔ kind = .filter) := by
  cases kind <;> cases hasData <;> cases run <;> simp [execKind]

/-- The results of a checked method are sorted, and all is there that the way needs in which its
statement is run. -/
theorem classified_of_build (h : build interface declared ctx = .ok m) :
    m.Classified ctx declared := by
  obtain ⟨-, -, classified, hc, hresults⟩ := parts_of_build h
  obtain ⟨doc, hd, hexec⟩ := exec_of_build h
  obtain ⟨hnone, hfilter⟩ := execKind_eq_ok_iff.1 hexec
  have hapart : m.results.Pairwise fun a b => a.role.isError ≠ b.role.isError := by
    rw [hresults, List.pairwise_map]
    exact (MethodContext.apart_of_classify hc).1
  refine ⟨?slots, countP_le_one_of_pairwise hapart, ?others, ?exec, ?filter⟩
  case slots =>
    rw [hresults, List.forall₂_map_right_iff]
    exact MethodContext.serves_of_classify hc
  case others =>
    exact countP_le_one_of_pairwise (hapart.imp fun hne => by simpa using hne)
  case exec =>
    rw [hnone, List.any_eq_false]
    simp only [Bool.not_eq_true]
  case filter => rw [hfilter, SqlDoc.kind_eq_filter_iff hd, IsFilter]

/-- What a served type says about its role holds of all results. -/
theorem Classified.map_eq {α : Type} {f : GoType → α} {g : ResultRole → α}
    (h : m.Classified ctx declared)
    (hfg : ∀ {t r : GoType} {role : ResultRole}, ctx.Serves t r role → f t = g role) :
    (declared.results.map fun p => f p.type) = m.results.map fun slot => g slot.role := by
  rw [← List.forall₂_eq_eq_eq, List.forall₂_map_left_iff, List.forall₂_map_right_iff]
  exact h.slots.imp fun _ _ hs => hfg hs

end QueryMethod

/-- A method whose results cannot be served. -/
inductive MethodContext.Unservable (ctx : MethodContext) (declared : Method) : Prop where
  /-- Two results are errors. -/
  | errors (h : 2 ≤ declared.results.countP (·.type.isError))
  /-- Two results are none. -/
  | others (h : 2 ≤ declared.results.countP (!·.type.isError))
  /-- A result is an interface or a pointer to one. -/
  | interface {p : Param} (hp : p ∈ declared.results) (h : p.type.deref.isInterface = true)
  /-- A condition has no result to read rows into. -/
  | filter (hf : QueryMethod.IsFilter declared)
      (h : ∀ p ∈ declared.results, p.type.isError = true ∨ ctx.isRowsAffected p.type = true)

namespace QueryMethod

variable {interface : String} {declared : Method} {ctx : MethodContext} {m : QueryMethod}

/-- The results of a checked method can be served. -/
theorem Classified.not_unservable (h : m.Classified ctx declared) : ¬ctx.Unservable declared := by
  have herrors := h.map_eq fun hs => hs.isError_eq.symm
  intro hun
  cases hun with
  | errors htwo =>
    have hcount := congrArg (List.countP id) herrors
    rw [List.countP_map, List.countP_map] at hcount
    exact absurd ((htwo.trans_eq hcount).trans h.errors) (by decide)
  | others htwo =>
    have hcount := congrArg (List.countP not) herrors
    rw [List.countP_map, List.countP_map] at hcount
    exact absurd ((htwo.trans_eq hcount).trans h.others) (by decide)
  | @interface p hp hi =>
    have hnone := h.map_eq (g := fun _ => false) fun hs => hs.isInterface_eq
    have hmem := List.mem_map_of_mem (f := fun p : Param => p.type.deref.isInterface) hp
    rw [hnone] at hmem
    obtain ⟨slot, -, hfalse⟩ := List.mem_map.1 hmem
    rw [hi] at hfalse
    cases hfalse
  | filter hf hall =>
    have hdata := h.map_eq fun hs => hs.isData_eq.symm
    have hnone : m.exec = .exec := h.exec.2 fun slot hs => by
      have hmem := List.mem_map_of_mem (f := fun slot : ResultSlot => slot.role.isData) hs
      rw [← hdata] at hmem
      obtain ⟨p, hp, he⟩ := List.mem_map.1 hmem
      rw [← he, Bool.not_eq_false', Bool.or_eq_true]
      exact hall p hp
    rw [h.filter.2 hf] at hnone
    cases hnone

/-- No method is accepted whose results cannot be served. -/
theorem error_of_unservable (h : ctx.Unservable declared) :
    ∃ e, build interface declared ctx = .error e := by
  cases hb : build interface declared ctx with
  | error e => exact ⟨e, rfl⟩
  | ok m => exact absurd h (classified_of_build hb).not_unservable

end QueryMethod

end QueryGen
