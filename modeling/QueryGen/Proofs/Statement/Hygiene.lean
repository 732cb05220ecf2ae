import QueryGen.Proofs.Statement.Closed
import QueryGen.Proofs.Template.CodeWords

/-!
# Generated names do not clash

- `NameFamily`, `Numbering.Issued`: the names that numbering hands out between two states. Those
  handed out one after the other differ (`Issues.append`).
- `Clause.issues_number`: the reserved names that the statements of a tree declare were handed out
  for it, each once, by induction on the tree.
- `codesAll_statementsAll`: the conditions and ranges of the statements are those of the sections.
- `anyUsesFormat_statementsAll`: keys are formatted for values bound inside loops, in the named
  style.
- `Hygienic`, `compile_hygienic`: what holds of the names in a compiled template.
-/

namespace QueryGen

open Template (BindStyle Options Scope)

/-! ## Names that are handed out -/

/-- The numbered families of generated names. -/
inductive NameFamily where
  /-- The builder of a block of this kind. -/
  | builder (kind : JoinKind)
  | loopIndex
deriving DecidableEq

namespace NameFamily

/-- The name of a number. -/
def name : NameFamily → Nat → String
  | builder .filter => Reserved.whereBuilder
  | builder .assign => Reserved.setBuilder
  | loopIndex => Reserved.loopIndex

/-- What all names of the family begin with. -/
def stem : NameFamily → String
  | builder .filter => Reserved.wherePrefix
  | builder .assign => Reserved.setPrefix
  | loopIndex => Reserved.loopPrefix

theorem name_eq (f : NameFamily) (k : Nat) : f.name k = f.stem ++ k.repr := by
  rcases f with (_ | _) | _ <;> rfl

theorem head_name (f : NameFamily) (k : Nat) : (f.name k).toList.head? = f.stem.toList.head? := by
  rw [name_eq, String.toList_append]
  refine List.head?_append_of_ne_nil _ ?_
  rcases f with (_ | _) | _ <;> decide

/-- A generated name tells its family and its number. -/
theorem name_inj {f g : NameFamily} {j k : Nat} (h : f.name j = g.name k) : f = g ∧ j = k := by
  have hhead : ∀ f g : NameFamily, f.stem.toList.head? = g.stem.toList.head? → f = g := by
    rintro (⟨_ | _⟩ | _) (⟨_ | _⟩ | _) <;> decide
  have hc := congrArg (·.toList.head?) h
  simp only [head_name] at hc
  obtain rfl := hhead f g hc
  rw [name_eq, name_eq, String.append_right_inj] at h
  exact ⟨rfl, Nat.repr_inj.1 h⟩

end NameFamily

namespace Numbering

/-- How many names of a family are in use. -/
def used (n : Numbering) : NameFamily → Nat
  | .builder .filter => n.wheres
  | .builder .assign => n.sets
  | .loopIndex => n.indices

/-- A name that numbering hands out on the way from one state to another. -/
def Issued (n n' : Numbering) (name : String) : Prop :=
  ∃ f k, name = NameFamily.name f k ∧ n.used f ≤ k ∧ k < n'.used f

/-- Names that are handed out on the way from one state to another, none of them twice. -/
structure Issues (n n' : Numbering) (names : List String) : Prop where
  used : ∀ f, n.used f ≤ n'.used f
  issued : ∀ name ∈ names, n.Issued n' name
  nodup : names.Nodup

namespace Issues

variable {n n' n'' : Numbering} {name : String} {names names' : List String}

/-- Open loops and their numbers do not count. -/
theorem congr {m m' : Numbering} (h : n.Issues n' names) (hm : ∀ f, m.used f = n.used f)
    (hm' : ∀ f, m'.used f = n'.used f) : m.Issues m' names where
  used f := by
    rw [hm, hm']
    exact h.used f
  issued name hn := by
    obtain ⟨f, k, he, hl, hr⟩ := h.issued name hn
    exact ⟨f, k, he, by rwa [hm], by rwa [hm']⟩
  nodup := h.nodup

theorem refl (n : Numbering) : n.Issues n [] := ⟨fun _ => le_rfl, by simp, .nil⟩

theorem append (h : n.Issues n' names) (h' : n'.Issues n'' names') :
    n.Issues n'' (names ++ names') where
  used f := (h.used f).trans (h'.used f)
  issued := by
    refine List.forall_mem_append.2 ⟨fun name hn => ?_, fun name hn => ?_⟩
    · obtain ⟨f, k, rfl, hl, hr⟩ := h.issued name hn
      exact ⟨f, k, rfl, hl, hr.trans_le (h'.used f)⟩
    · obtain ⟨f, k, rfl, hl, hr⟩ := h'.issued name hn
      exact ⟨f, k, rfl, (h.used f).trans hl, hr⟩
  nodup := by
    refine List.nodup_append.2 ⟨h.nodup, h'.nodup, ?_⟩
    rintro name hn _ hn' rfl
    obtain ⟨f, j, rfl, -, hj⟩ := h.issued name hn
    obtain ⟨g, k, he, hk, -⟩ := h'.issued _ hn'
    obtain ⟨rfl, rfl⟩ := NameFamily.name_inj he
    exact absurd (hj.trans_le hk) (lt_irrefl _)

/-- The next name of a family. -/
theorem next {f : NameFamily} (h : ∀ g, n'.used g = n.used g + if g = f then 1 else 0) :
    n.Issues n' [f.name (n.used f)] where
  used g := by
    rw [h g]
    exact Nat.le_add_right _ _
  issued := List.forall_mem_singleton.2 ⟨f, _, rfl, le_rfl, by simp [h f]⟩
  nodup := List.nodup_singleton _

/-- A name that is handed out need not be declared. -/
theorem sublist (h : n.Issues n' names) (hs : names'.Sublist names) : n.Issues n' names' :=
  ⟨h.used, fun name hn => h.issued name (hs.subset hn), h.nodup.sublist hs⟩

theorem nextJoin (n : Numbering) (kind : JoinKind) :
    n.Issues (n.nextJoin kind).2 [(n.nextJoin kind).1] := by
  have hf : (n.nextJoin kind).1 = (NameFamily.builder kind).name (n.used (.builder kind)) := by
    cases kind <;> rfl
  rw [hf]
  refine next fun g => ?_
  rcases g with (_ | _) | _ <;> cases kind <;> rfl

/-- The variable that is generated for a loop, if one is. -/
theorem loopIndex {range : ForRange} {index : LoopIndex}
    (hi : n.loopIndex range = (index, n')) :
    n.Issues n' (if index = .declared range.index then [] else [index.name]) := by
  have hnext : n.Issues { n with indices := n.indices + 1 } [Reserved.loopIndex n.indices] := by
    refine next (f := .loopIndex) fun g => ?_
    rcases g with (_ | _) | _ <;> rfl
  rcases Numbering.of_loopIndex hi with ⟨-, rfl, rfl⟩ | ⟨-, -, rfl, rfl⟩ | ⟨-, -, rfl, rfl⟩
  · simpa [LoopIndex.name] using hnext
  · simpa [LoopIndex.name] using hnext
  · simpa using refl _

end Issues

end Numbering

/-! ## Declarations of a tree -/

/-- The reserved names that are declared in statements. -/
def Statement.reservedAll (ss : List Statement) : List String :=
  (Statement.declaredAll ss).filter Reserved.isReserved

theorem declaredAll_sqlStatements (opts : Options) (builder : String) (fragments : List Fragment) :
    Statement.declaredAll (sqlStatements opts builder fragments) = [] := by
  have hb : ∀ bs : List Binding,
      Statement.declaredAll (bs.map (Binding.statement opts.bindStyle)) = [] := by
    intro bs
    induction bs with
    | nil => rfl
    | cons b rest ih =>
      rw [List.map_cons, Statement.declaredAll, ih]
      unfold Binding.statement
      cases opts.bindStyle <;> rfl
  unfold sqlStatements
  split
  · rfl
  · rw [Statement.declaredAll_append, hb]
    rfl

theorem filter_loopDeclares {index value : String} (hi : Reserved.isReserved index = false)
    (hv : Reserved.isReserved value = false) :
    (loopDeclares index value).filter Reserved.isReserved = [] := by
  rw [List.filter_eq_nil_iff]
  intro name hname
  rcases (mem_loopDeclares.1 hname).1 with rfl | rfl <;> simp [hi, hv]

/-- A loop declares the variable that was generated for it, at most. -/
theorem sublist_reservedAll_loopStatements {n n' : Numbering} {range : ForRange}
    {index : LoopIndex} (hi : n.loopIndex range = (index, n')) (hr : range.Unreserved)
    (numbered : Bool) (body : List Statement) :
    (Statement.reservedAll (loopStatements numbered range index body)).Sublist
      ((if index = .declared range.index then [] else [index.name]) ++
        Statement.reservedAll body) := by
  have hplain := filter_loopDeclares hr.1 hr.2
  have hname := Reserved.isReserved_loopIndex n.indices
  rcases Numbering.of_loopIndex hi with ⟨-, rfl, rfl⟩ | ⟨-, -, rfl, rfl⟩ | ⟨-, -, rfl, rfl⟩
  · cases numbered with
    | false => simp [Statement.reservedAll, loopStatements, Statement.declaredAll,
        Statement.declared, hplain]
    | true => simp [Statement.reservedAll, loopStatements, Statement.declaredAll,
        Statement.declared, Statement.declares, Statement.declaredAll_append, hplain, hname,
        LoopIndex.name]
  · cases numbered with
    | false => simp [Statement.reservedAll, loopStatements, Statement.declaredAll,
        Statement.declared, hplain]
    | true =>
      have hhead : (loopDeclares (Reserved.loopIndex n.indices) range.value).filter
          Reserved.isReserved = [Reserved.loopIndex n.indices] := by
        by_cases hv : range.value = "_" <;>
          simp [loopDeclares, Reserved.loopIndex_ne_discard, hname, hv, hr.2]
      simp [Statement.reservedAll, loopStatements, Statement.declaredAll,
        Statement.declared, hhead, LoopIndex.name]
  · cases numbered <;> simp [Statement.reservedAll, loopStatements, Statement.declaredAll,
        Statement.declared, hplain]

mutual

theorem Clause.issues_number (opts : Options) (n : Numbering) (builder : String) {c : Clause}
    (hc : c.Clean) : n.Issues (c.number n builder).2
      (Statement.reservedAll ((c.number n builder).1.statements opts)) := by
  match c with
  | .sql _ fragments =>
    rw [Clause.number, Clause.statements, Statement.reservedAll, declaredAll_sqlStatements]
    exact .refl n
  | .branch _ cond body otherwise =>
    have h := (Clause.issues_numberAll opts n builder hc.1).append
      (Branch.issues_numberAll opts _ builder hc.2)
    rw [Statement.reservedAll, ← List.filter_append] at h
    simpa [Clause.number, Clause.statements, Statement.reservedAll, Statement.declaredAll,
      Statement.declared] using h
  | .join kind _ _ body =>
    refine ((Numbering.Issues.nextJoin n kind).append
      (Clause.issues_numberAll opts (n.nextJoin kind).2 (n.nextJoin kind).1 hc)).sublist ?_
    simp only [Clause.number, Clause.statements, Statement.reservedAll, Statement.declaredAll,
      Statement.declared, Statement.declares, Statement.declaredAll_append, List.filter_append,
      List.append_nil]
    exact (List.filter_sublist).append (List.Sublist.refl _)
  | .loop _ _ range _ body =>
    rcases hi : n.nextLoop.2.loopIndex range with ⟨index, next⟩
    have hbody := Clause.issues_numberAll opts (next.pushLoop n.nextLoop.1 index.name) builder hc.2
    have h := (Numbering.Issues.loopIndex hi).append
      (hbody.congr (m := next) (fun _ => rfl) fun _ => rfl)
    simp only [Clause.number, Clause.statements, hi]
    refine (h.congr ?_ ?_).sublist (sublist_reservedAll_loopStatements hi hc.1 _ _)
    · rintro ((_ | _) | _) <;> rfl
    · rintro ((_ | _) | _) <;> rfl

/-- The reserved names that the statements of clauses declare are handed out by their numbering. -/
theorem Clause.issues_numberAll (opts : Options) (n : Numbering) (builder : String)
    {cs : List Clause} (hc : Clause.AllClean cs) :
    n.Issues (Clause.numberAll n builder cs).2
      (Statement.reservedAll (Clause.statementsAll opts (Clause.numberAll n builder cs).1)) := by
  match cs with
  | [] => exact .refl n
  | c :: rest =>
    have h := (Clause.issues_number opts n builder hc.1).append
      (Clause.issues_numberAll opts _ builder hc.2)
    simpa only [Clause.numberAll, Clause.statementsAll, Statement.reservedAll,
      Statement.declaredAll_append, List.filter_append] using h

theorem Branch.issues_numberAll (opts : Options) (n : Numbering) (builder : String)
    {bs : List Branch} (hc : Branch.AllClean bs) :
    n.Issues (Branch.numberAll n builder bs).2
      ((Alternative.declaredAll (Branch.alternatives opts (Branch.numberAll n builder bs).1)).filter
        Reserved.isReserved) := by
  match bs with
  | [] => exact .refl n
  | .mk cond body :: rest =>
    have h := (Clause.issues_numberAll opts n builder hc.1).append
      (Branch.issues_numberAll opts _ builder hc.2)
    simpa only [Branch.numberAll, Branch.alternatives, Branch.alternative, Alternative.declaredAll,
      Statement.reservedAll, List.filter_append] using h

end

/-! ## Conditions and ranges of a tree -/

theorem codesAll_sqlStatements (opts : Options) (builder : String) (fragments : List Fragment) :
    Statement.codesAll (sqlStatements opts builder fragments) = [] := by
  have hb : ∀ bs : List Binding,
      Statement.codesAll (bs.map (Binding.statement opts.bindStyle)) = [] := by
    intro bs
    induction bs with
    | nil => rfl
    | cons b rest ih =>
      rw [List.map_cons, Statement.codesAll, ih]
      unfold Binding.statement
      cases opts.bindStyle <;> rfl
  unfold sqlStatements
  split
  · rfl
  · rw [Statement.codesAll_append, hb]
    rfl

theorem codesAll_loopStatements (numbered : Bool) (range : ForRange) (index : LoopIndex)
    (body : List Statement) :
    Statement.codesAll (loopStatements numbered range index body) =
      range.range :: Statement.codesAll body := by
  unfold loopStatements
  split <;> simp [Statement.codesAll, Statement.codes, Statement.codesAll_append]

theorem filterMap_code_fragments (fragments : List Fragment) :
    (fragments.map Fragment.section).filterMap Section.code? = [] := by
  rw [List.filterMap_map, List.filterMap_eq_nil_iff]
  intro f _
  cases f <;> rfl

mutual

theorem Clause.codes_statements (opts : Options) (c : Clause) :
    Statement.codesAll (c.statements opts) = c.flatten.filterMap Section.code? := by
  match c with
  | .sql builder fragments =>
    rw [Clause.statements, codesAll_sqlStatements, Clause.flatten, filterMap_code_fragments]
  | .branch _ cond body otherwise =>
    simp [Clause.statements, Clause.flatten, Statement.codesAll, Statement.codes, Section.code?,
      Clause.codes_statementsAll opts body, Branch.codes_alternatives opts otherwise]
  | .join _ _ _ body =>
    rw [Clause.flatten, List.filterMap_cons_none rfl, List.filterMap_append,
      ← Clause.codes_statementsAll opts body]
    simp [Clause.statements, Statement.codesAll, Statement.codes, Section.code?,
      Statement.codesAll_append]
  | .loop _ _ range index body =>
    simp [Clause.statements, Clause.flatten, codesAll_loopStatements, Section.code?,
      Clause.codes_statementsAll opts body]

/-- The conditions and ranges of statements are those of the sections of their clauses. -/
theorem Clause.codes_statementsAll (opts : Options) (cs : List Clause) :
    Statement.codesAll (Clause.statementsAll opts cs) =
      (Clause.flattenAll cs).filterMap Section.code? := by
  match cs with
  | [] => rfl
  | c :: rest =>
    simp [Clause.statementsAll, Clause.flattenAll, Statement.codesAll_append,
      Clause.codes_statements opts c, Clause.codes_statementsAll opts rest]

theorem Branch.codes_alternatives (opts : Options) (bs : List Branch) :
    Alternative.codesAll (Branch.alternatives opts bs) =
      (Branch.flattenAll bs).filterMap Section.code? := by
  match bs with
  | [] => rfl
  | .mk cond body :: rest =>
    have hhead : (Section.otherwise cond :: Clause.flattenAll body).filterMap Section.code? =
        cond.toList ++ (Clause.flattenAll body).filterMap Section.code? := by
      cases cond <;> rfl
    rw [Branch.flattenAll, Branch.flatten, List.filterMap_append, hhead, List.append_assoc,
      ← Clause.codes_statementsAll opts body, ← Branch.codes_alternatives opts rest]
    rfl

end

/-! ## Formatted keys of a tree -/

theorem BindKey.isFormatted_key (k : BindKey) : k.key.isFormatted = k.scope.isSome := by
  unfold BindKey.key
  split <;> simp [*, Key.isFormatted]

theorem Statement.anyUsesFormat_eq_any (ss : List Statement) :
    Statement.anyUsesFormat ss = ss.any Statement.usesFormat := by
  induction ss with
  | nil => rfl
  | cons s rest ih => simp [Statement.anyUsesFormat, ih]

/-- Some value is bound inside a loop, and keys are written. -/
def FormatsKeys (opts : Options) (bindings : List Binding) : Prop :=
  opts.bindStyle = .named ∧ ∃ b ∈ bindings, b.key.scope.isSome = true

theorem formatsKeys_append (opts : Options) (a b : List Binding) :
    FormatsKeys opts (a ++ b) ↔ FormatsKeys opts a ∨ FormatsKeys opts b := by
  simp only [FormatsKeys, List.mem_append, or_and_right, exists_or, and_or_left]

theorem usesFormat_inserts {opts : Options} {f : Fragment} :
    (∃ o ∈ f.inserts opts, o.usesFormat = true) ↔
      opts.bindStyle = .named ∧ ∃ b, f.binding? = some b ∧ b.key.scope.isSome = true := by
  cases f with
  | text t => simp [Fragment.inserts, Fragment.binding?]
  | quote expr => simp [Fragment.inserts, Fragment.binding?, Operand.usesFormat]
  | bind b =>
    have hk := BindKey.isFormatted_key b.key
    cases hs : opts.bindStyle <;> cases hkey : b.key.key <;>
      simp_all [Fragment.inserts, Fragment.binding?, Operand.usesFormat, Key.isFormatted]

theorem usesFormat_operandsOf {opts : Options} {fragments : List Fragment} :
    (operandsOf opts fragments).any Operand.usesFormat = true ↔
      FormatsKeys opts (bindingsOf fragments) := by
  have hfilter : (operandsOf opts fragments).any Operand.usesFormat =
      ((operandsOf opts fragments).filter (!·.isText)).any Operand.usesFormat := by
    rw [List.any_filter]
    refine congrArg (List.any _) (funext fun o => ?_)
    cases o <;> simp [Operand.isText, Operand.usesFormat]
  rw [hfilter, filter_operandsOf, List.any_flatMap]
  simp only [List.any_eq_true, usesFormat_inserts, FormatsKeys, bindingsOf, List.mem_filterMap]
  constructor
  · rintro ⟨f, hf, hs, b, hb, hscope⟩
    exact ⟨hs, b, ⟨f, hf, hb⟩, hscope⟩
  · rintro ⟨hs, b, ⟨f, hf, hb⟩, hscope⟩
    exact ⟨f, hf, hs, b, hb, hscope⟩

theorem usesFormat_sqlStatements (opts : Options) (builder : String) (fragments : List Fragment) :
    Statement.anyUsesFormat (sqlStatements opts builder fragments) = true ↔
      FormatsKeys opts (bindingsOf fragments) := by
  have hbindings : ∀ b : Binding, (b.statement opts.bindStyle).usesFormat = true ↔
      opts.bindStyle = .named ∧ b.key.scope.isSome = true := by
    intro b
    unfold Binding.statement
    cases opts.bindStyle <;> simp [Statement.usesFormat, BindKey.isFormatted_key]
  rw [← usesFormat_operandsOf]
  unfold sqlStatements
  split
  · next hn => simp [hn, Statement.anyUsesFormat]
  · rw [Statement.anyUsesFormat_eq_any, List.any_append, Bool.or_eq_true, List.any_map,
      List.any_eq_true]
    simp only [List.any_cons, List.any_nil, Bool.or_false, Statement.usesFormat]
    refine ⟨fun h => h.elim (fun ⟨b, hb, hf⟩ => ?_) id, .inr⟩
    obtain ⟨hs, hscope⟩ := (hbindings b).1 hf
    exact usesFormat_operandsOf.2 ⟨hs, b, hb, hscope⟩

theorem usesFormat_loopStatements (numbered : Bool) (range : ForRange) (index : LoopIndex)
    (body : List Statement) :
    Statement.anyUsesFormat (loopStatements numbered range index body) =
      Statement.anyUsesFormat body := by
  unfold loopStatements
  split <;>
    simp [Statement.anyUsesFormat, Statement.usesFormat, Statement.anyUsesFormat_append]

mutual

theorem Clause.usesFormat_statements (opts : Options) (c : Clause) :
    Statement.anyUsesFormat (c.statements opts) = true ↔ FormatsKeys opts c.bindings := by
  match c with
  | .sql builder fragments => exact usesFormat_sqlStatements opts builder fragments
  | .branch _ cond body otherwise =>
    rw [Clause.bindings, formatsKeys_append, ← Clause.usesFormat_statementsAll opts body,
      ← Branch.usesFormat_alternatives opts otherwise]
    simp [Clause.statements, Statement.anyUsesFormat, Statement.usesFormat]
  | .join _ _ _ body =>
    rw [Clause.bindings, ← Clause.usesFormat_statementsAll opts body]
    simp [Clause.statements, Statement.anyUsesFormat, Statement.usesFormat,
      Statement.anyUsesFormat_append]
  | .loop _ _ range index body =>
    rw [Clause.bindings, ← Clause.usesFormat_statementsAll opts body, Clause.statements,
      usesFormat_loopStatements]

/-- Keys are formatted for values that are bound inside loops. -/
theorem Clause.usesFormat_statementsAll (opts : Options) (cs : List Clause) :
    Statement.anyUsesFormat (Clause.statementsAll opts cs) = true ↔
      FormatsKeys opts (Clause.bindingsAll cs) := by
  match cs with
  | [] => simp [Clause.statementsAll, Statement.anyUsesFormat, Clause.bindingsAll, FormatsKeys]
  | c :: rest =>
    rw [Clause.bindingsAll, formatsKeys_append, ← Clause.usesFormat_statements opts c,
      ← Clause.usesFormat_statementsAll opts rest, Clause.statementsAll,
      Statement.anyUsesFormat_append, Bool.or_eq_true]

theorem Branch.usesFormat_alternatives (opts : Options) (bs : List Branch) :
    Alternative.anyUsesFormat (Branch.alternatives opts bs) = true ↔
      FormatsKeys opts (Branch.bindingsAll bs) := by
  match bs with
  | [] =>
    simp [Branch.alternatives, Alternative.anyUsesFormat, Branch.bindingsAll, FormatsKeys]
  | .mk cond body :: rest =>
    rw [Branch.bindingsAll, Branch.bindings, formatsKeys_append,
      ← Clause.usesFormat_statementsAll opts body, ← Branch.usesFormat_alternatives opts rest,
      Branch.alternatives, Branch.alternative, Alternative.anyUsesFormat, Alternative.usesFormat,
      Bool.or_eq_true]

end

/-! ## Compiled templates -/

/-- The variables of the method itself are not handed out. -/
theorem Numbering.Issued.ne {n n' : Numbering} {name : String} (h : n.Issued n' name) :
    name ≠ Reserved.sqlBuilder ∧ name ≠ Reserved.bindings := by
  obtain ⟨f, k, rfl, -⟩ := h
  constructor
  all_goals
    intro he
    have hc := congrArg (·.toList.head?) he
    simp only [NameFamily.head_name] at hc
    rcases f with (_ | _) | _ <;> exact absurd hc (by decide)

section Method

variable {tree : List Clause}

/-- What the statements of a method declare at any depth. -/
theorem declaredAll_methodStatements (opts : Options) (tree : List Clause) :
    Statement.declaredAll (methodStatements opts tree) =
      (if tree.any Clause.hasBindings then [Reserved.bindings] else []) ++
        Reserved.sqlBuilder :: Statement.declaredAll (Clause.statementsAll opts tree) := by
  unfold methodStatements declareBindings
  split
  · cases opts.bindStyle <;> rfl
  · rfl

/-- The statements of a numbered tree declare names that were handed out for it, each once. -/
theorem issues_statementsAll (opts : Options)
    (hn : (Clause.numberAll {} Reserved.sqlBuilder tree).1 = tree) (hc : Clause.AllClean tree) :
    ∃ n, Numbering.Issues {} n (Statement.reservedAll (Clause.statementsAll opts tree)) := by
  have h := Clause.issues_numberAll opts {} Reserved.sqlBuilder hc
  rw [hn] at h
  exact ⟨_, h⟩

/-- No reserved name is declared twice. -/
theorem nodup_reservedAll_methodStatements (opts : Options)
    (hn : (Clause.numberAll {} Reserved.sqlBuilder tree).1 = tree) (hc : Clause.AllClean tree) :
    (Statement.reservedAll (methodStatements opts tree)).Nodup := by
  obtain ⟨n, h⟩ := issues_statementsAll opts hn hc
  have hbuilder : (Reserved.sqlBuilder ::
      Statement.reservedAll (Clause.statementsAll opts tree)).Nodup :=
    List.nodup_cons.2 ⟨fun hm => (h.issued _ hm).ne.1 rfl, h.nodup⟩
  have hbindings : Reserved.bindings ∉ Reserved.sqlBuilder ::
      Statement.reservedAll (Clause.statementsAll opts tree) := by
    rw [List.mem_cons, not_or]
    exact ⟨by decide, fun hm => (h.issued _ hm).ne.2 rfl⟩
  rw [Statement.reservedAll, declaredAll_methodStatements, List.filter_append,
    List.filter_cons_of_pos Reserved.isReserved_sqlBuilder]
  split
  · rw [List.filter_cons_of_pos Reserved.isReserved_bindings]
    exact List.nodup_cons.2 ⟨hbindings, hbuilder⟩
  · exact hbuilder

/-- The container of bound values is declared where some value is bound. -/
theorem bindings_mem_declaredAll_iff (opts : Options)
    (hn : (Clause.numberAll {} Reserved.sqlBuilder tree).1 = tree) (hc : Clause.AllClean tree) :
    Reserved.bindings ∈ Statement.declaredAll (methodStatements opts tree) ↔
      Clause.bindingsAll tree ≠ [] := by
  rw [declaredAll_methodStatements, ← Clause.any_hasBindings_iff]
  constructor
  · intro hm
    obtain ⟨n, h⟩ := issues_statementsAll opts hn hc
    by_contra hb
    rw [if_neg hb, List.nil_append, List.mem_cons] at hm
    rcases hm with hm | hm
    · exact absurd hm (by decide)
    · exact (h.issued _ (List.mem_filter.2 ⟨hm, Reserved.isReserved_bindings⟩)).ne.2 rfl
  · intro hb
    rw [if_pos hb]
    exact List.mem_append_left _ List.mem_cons_self

theorem anyUsesFormat_methodStatements (opts : Options) (tree : List Clause) :
    Statement.anyUsesFormat (methodStatements opts tree) =
      Statement.anyUsesFormat (Clause.statementsAll opts tree) := by
  unfold methodStatements declareBindings
  split
  · cases opts.bindStyle <;> rfl
  · rfl

/-- The packages depend on what is bound alone. -/
theorem needsFormat_render (opts : Options) (tree : List Clause) :
    (render opts tree).needsFormat = true ↔ FormatsKeys opts (Clause.bindingsAll tree) := by
  rw [← Clause.usesFormat_statementsAll, ← anyUsesFormat_methodStatements]
  rfl

theorem codesAll_methodStatements (opts : Options) (tree : List Clause) :
    Statement.codesAll (methodStatements opts tree) =
      Statement.codesAll (Clause.statementsAll opts tree) := by
  unfold methodStatements declareBindings
  split
  · cases opts.bindStyle <;> rfl
  · rfl

theorem hasParams_render (opts : Options) (tree : List Clause) :
    (render opts tree).hasParams = true ↔ Clause.bindingsAll tree ≠ [] := by
  simp [Compiled.hasParams, Compiled.bindCount, render, List.length_pos_iff]

/-- The container of bound values is passed on where some value is bound. -/
theorem execArgs_render (opts : Options) (tree : List Clause) :
    (render opts tree).execArgs = Reserved.sqlBuilder ++ ".String()" ++
      if Clause.bindingsAll tree ≠ [] then
        ", " ++ Reserved.bindings ++ if opts.bindStyle = .named then "" else "..."
      else "" := by
  have hparams := hasParams_render opts tree
  unfold Compiled.execArgs
  by_cases hb : Clause.bindingsAll tree = []
  · rw [Bool.eq_false_iff.2 fun hp => hparams.1 hp hb]
    simp [hb]
  · rw [hparams.2 hb, if_pos hb]
    cases hs : opts.bindStyle <;>
      simp only [render, hs, String.append_assoc, String.append_empty, reduceCtorEq, if_true,
        if_false]

end Method

/-- The names in a compiled template with these sections are in order. -/
structure Hygienic (scope : Scope) (opts : Options) (sections : List Section) (c : Compiled) :
    Prop where
  /-- Outside conditions and ranges, the statements name the receiver, the parameters, and what
  they declare before in the same block or in one around. -/
  closed : Statement.AllInScope (opts.receiver :: scope.params.map (·.name)) c.block
  /-- No name of generated code is declared twice. -/
  once : ∀ name, Reserved.isReserved name = true → (Statement.declaredAll c.block).count name ≤ 1
  /-- No parameter has such a name. -/
  params : ∀ p ∈ scope.params, Reserved.isReserved p.name = false
  /-- Nor has a variable of a loop. -/
  loops : ∀ range, .loop range ∈ sections → range.Unreserved
  /-- The conditions and ranges of the statements are those of the template. -/
  codes : Statement.codesAll c.block = sections.filterMap Section.code?
  /-- No word in them outside string literals is such a name. -/
  words : ∀ code ∈ Statement.codesAll c.block, ∀ w, Template.IsCodeWord w code.toList →
    Reserved.isReserved (.ofList w) = false
  /-- The container of bound values is passed on where it is declared. -/
  execArgs : c.execArgs = Reserved.sqlBuilder ++ ".String()" ++
    if Reserved.bindings ∈ Statement.declaredAll c.block then
      ", " ++ Reserved.bindings ++ if opts.bindStyle = .named then "" else "..."
    else ""
  /-- The package that formats keys is imported where a line has a formatted key. -/
  imports : "fmt" ∈ c.imports ↔ ∃ l ∈ Statement.codeAll 0 c.block, ∃ k ∈ l.keys,
    "fmt.Sprintf(".toList <+: k.expr.toList
  /-- There is one for every value that is bound inside a loop under a name. -/
  formats : "fmt" ∈ c.imports ↔ FormatsKeys opts (Clause.bindingsAll c.clauses)

/-- Generated names do not clash, neither with one another nor with names of the method or the
template, whatever template is accepted for checked parameters. -/
theorem compile_hygienic {template : String} {scope : Scope} {opts : Options} {c : Compiled}
    {ctx : MethodContext} {declared : List Param}
    (hp : ctx.checkParams 0 [] declared = .ok scope.params)
    (h : compile template scope opts = .ok c) :
    ∃ sections, Template.tokenize template scope (some opts.receiver) = .ok sections ∧
      Hygienic scope opts sections c := by
  obtain ⟨-, sections, ht, tree, hb, rfl⟩ := compile_eq_ok_iff.1 h
  have hparams := MethodContext.unreserved_of_checkParams hp
  have hn := numberAll_of_buildClauses hb
  have hc := allClean_of_buildClauses hparams ht hb
  have hcodes : Statement.codesAll (methodStatements opts tree) =
      sections.filterMap Section.code? := by
    rw [codesAll_methodStatements, Clause.codes_statementsAll, flattenAll_of_buildClauses hb,
      List.filterMap_map]
    exact List.filterMap_congr fun s _ => by cases s <;> rfl
  have himports : "fmt" ∈ (render opts tree).imports ↔
      Statement.anyUsesFormat (methodStatements opts tree) = true := by
    unfold Compiled.imports Compiled.needsFormat render
    split <;> simp [*]
  refine ⟨sections, ht, {
    closed := inScope_methodStatements hn (readsIn_of_buildClauses ht hb)
    once := ?once, params := hparams, loops := ?loops, codes := hcodes, words := ?words
    execArgs := ?args, imports := ?imports, formats := ?formats }⟩
  case once =>
    intro name hname
    rw [← List.count_filter hname]
    exact List.nodup_iff_count_le_one.1 (nodup_reservedAll_methodStatements opts hn hc) name
  case loops =>
    exact fun range hr => Template.clean_of_tokenize hparams ht _ hr
  case words =>
    intro code hcode w hw
    change code ∈ Statement.codesAll (methodStatements opts tree) at hcode
    rw [hcodes, List.mem_filterMap] at hcode
    obtain ⟨s, hs, hcode⟩ := hcode
    exact Template.unreserved_of_tokenize ht s hs code hcode w (Template.mem_codeWords hw)
  case args =>
    rw [execArgs_render]
    exact congrArg _ (if_congr (bindings_mem_declaredAll_iff opts hn hc).symm rfl rfl)
  case imports =>
    rw [himports, Statement.anyUsesFormat_iff 0]
    simp only [Key.isFormatted_iff]
    rfl
  case formats =>
    rw [himports, anyUsesFormat_methodStatements, Clause.usesFormat_statementsAll]
    rfl

namespace NestedLoops

def template : String :=
  "{{where}} {{for k, vs := range m}} k = @k {{for _, v := range vs}} @v " ++
    "{{end}}{{end}}{{end}}"

def params : List Param := [⟨"m", .map (.simple "string") (.slice (.simple "int")), false⟩]

def outer : ForRange := ⟨"k", "vs", "m", .map (.simple "string") (.slice (.simple "int"))⟩

def inner : ForRange := ⟨"_", "v", "vs", .slice (.simple "int")⟩

def tree : List Clause :=
  [.join .filter "whereSQL0" "generateSQL" [.loop 0 "whereSQL0" outer (.counter "forIndex0")
    [.sql "whereSQL0" [.text " k = ", .bind ⟨"k", ⟨"k", some ⟨0, ["forIndex0"]⟩⟩⟩],
      .loop 1 "whereSQL0" inner (.synthetic "forIndex1") [.sql "whereSQL0"
        [.text " ", .bind ⟨"v", ⟨"v", some ⟨1, ["forIndex0", "forIndex1"]⟩⟩⟩]]]]]

theorem checkParams_eq :
    MethodContext.checkParams { model := .simple "User", structs := .empty } 0 [] params =
      .ok params := by
  decide

theorem compile_eq :
    compile template ⟨params, "t", .empty⟩ ⟨.named, "u"⟩ = .ok (render ⟨.named, "u"⟩ tree) := by
  delta template
  rw [← String.ofList_append]
  refine compile_ofList [.join .filter, .loop outer, .literal " k = ",
    .data ⟨"k", .loop, .simple "string"⟩, .loop inner, .literal " ",
    .data ⟨"v", .loop, .simple "int"⟩, .close, .close, .close] rfl ?tokens ?tree
  case tokens => decide +kernel
  case tree => rfl

/-- A counter is generated for a loop over a map, and the index of the loop inside it. -/
theorem hygienic_render :
    MethodContext.checkParams { model := .simple "User", structs := .empty } 0 [] params =
        .ok params ∧
      compile template ⟨params, "t", .empty⟩ ⟨.named, "u"⟩ = .ok (render ⟨.named, "u"⟩ tree) ∧
      (∃ sections, Template.tokenize template ⟨params, "t", .empty⟩ (some "u") = .ok sections ∧
        Hygienic ⟨params, "t", .empty⟩ ⟨.named, "u"⟩ sections (render ⟨.named, "u"⟩ tree)) ∧
      Statement.reservedAll (render ⟨.named, "u"⟩ tree).block =
        ["params", "generateSQL", "whereSQL0", "forIndex0", "forIndex1"] ∧
      (render ⟨.named, "u"⟩ tree).execArgs = "generateSQL.String(), params" :=
  ⟨checkParams_eq, compile_eq, compile_hygienic checkParams_eq compile_eq, by cbv, by cbv⟩

end NestedLoops

end QueryGen
