import QueryGen.Proofs.Execution.Follow
import QueryGen.Proofs.Method.Names
import QueryGen.Proofs.Template.Scoping
import QueryGen.Proofs.Template.Spelling

/-!
# Names of compiled templates

What a template declares and reads stays clear of the names that generated code declares.

- `unreserved_of_classify`, `MethodContext.unreserved_of_checkParams`: no loop variable and no
  checked parameter has a reserved name.
- `Section.Clean`: sections with such names. Reading a template gives no others
  (`clean_of_tokenize`), if no parameter has a reserved name.
- `allClean_of_buildClauses`: neither does the clause tree have others.
-/

namespace QueryGen

namespace Template

/-- A loop declares no reserved name. -/
theorem unreserved_of_classify {body : List Char} {index value range : String}
    (h : classify body = .ok (.loop index value range)) :
    Reserved.isReserved index = false ∧ Reserved.isReserved value = false := by
  obtain ⟨hs, hcode⟩ := classify_eq_ok_iff.1 h
  obtain ⟨_, _, _, _, _, hw⟩ := carries_of_isSpelled hs
  have hindex := hcode rfl index.toList (by simp [hw, Directive.leading])
  have hvalue := hcode rfl value.toList (by simp [hw, Directive.leading])
  rw [String.ofList_toList] at hindex hvalue
  exact ⟨hindex, hvalue⟩

end Template

/-! ## Names of parameters -/

/-- Checked parameters have no names that generated code declares. -/
theorem MethodContext.unreserved_of_checkParams {ctx : MethodContext} {index : Nat}
    {seen : List String} {params checked : List Param}
    (h : ctx.checkParams index seen params = .ok checked) :
    ∀ p ∈ checked, Reserved.isReserved p.name = false := by
  intro p hp
  have hname := ((names_of_checkParams h).2 p hp).2
  simp only [isReserved, Bool.or_eq_false_iff] at hname
  exact hname.2

/-- The parameters of a checked method have no names that generated code declares. -/
theorem QueryMethod.unreserved_of_build {interface : String} {m : Method} {ctx : MethodContext}
    {checked : QueryMethod} (h : build interface m ctx = .ok checked) :
    ∀ p ∈ checked.params, Reserved.isReserved p.name = false :=
  MethodContext.unreserved_of_checkParams (parts_of_build h).2.1

/-! ## Names of sections -/

/-- The names that a section reads or declares are none that generated code declares. -/
def Section.Clean : Section → Prop
  | data ref => Readable ref.root
  | quoted ref => Readable ref.root
  | loop range => range.Unreserved
  | _ => True

theorem Section.clean_bare (s : Section) : s.bare.Clean ↔ s.Clean := by
  cases s <;> rfl

namespace Template

/-- The sections that were read have such names, and so have the variables of open loops. -/
structure Reading.Clean (r : Reading) : Prop where
  sections : ∀ s ∈ r.reversed, s.Clean
  blocks : ∀ v, some v ∈ r.blocks →
    Reserved.isReserved v.index = false ∧ Reserved.isReserved v.value = false

variable {scope : Scope} {source : String} {r : Reading}

theorem Reading.Clean.flush (h : r.Clean) (keepBlank : Bool) : (r.flush keepBlank).Clean := by
  refine ⟨?_, by simpa using h.blocks⟩
  rcases reversed_flush r keepBlank with hr | ⟨text, hr⟩
  · rw [hr]
    exact h.sections
  · rw [hr]
    exact List.forall_mem_cons.2 ⟨trivial, h.sections⟩

/-- A name that is found is not reserved. -/
theorem unreserved_of_rootType? (hp : ∀ p ∈ scope.params, Reserved.isReserved p.name = false)
    (h : r.Clean) {name : String} {found : ParamSource × GoType}
    (hf : rootType? scope r name = some found) : Reserved.isReserved name = false := by
  unfold rootType? at hf
  split at hf
  · next type ht =>
    obtain ⟨b, hb, hv⟩ := List.exists_of_findSome?_eq_some ht
    cases b with
    | none => cases hv
    | some v =>
      obtain ⟨hindex, hvalue⟩ := h.blocks v hb
      simp only [Option.bind_some, LoopVars.type?] at hv
      split at hv
      · next he => rwa [← he]
      · split at hv
        · next he => rwa [← he]
        · cases hv
  · obtain ⟨p, hparam, -⟩ := Option.map_eq_some_iff.1 hf
    have hn : p.name = name := by simpa using List.find?_some hparam
    rw [← hn]
    exact hp p (List.mem_of_find?_eq_some hparam)

/-- What lookup finds begins with a name that may be read. -/
theorem readable_of_resolve (hp : ∀ p ∈ scope.params, Reserved.isReserved p.name = false)
    (h : r.Clean) {path : List Char} {ref : ParamRef}
    (hr : resolve scope source r path = .ok ref) : Readable ref.root := by
  obtain ⟨root, fields, origin, type, last, hs, hroot, ht, -, rfl⟩ := found_of_resolve hr
  rw [(root_eq_of_splitOn hs origin last).1]
  exact ⟨hroot, unreserved_of_rootType? hp h ht⟩

theorem Reading.Clean.isRead (hp : ∀ p ∈ scope.params, Reserved.isReserved p.name = false)
    (h : r.Clean) {p : Piece} {next : Reading} (hn : p.IsRead scope source r next) :
    next.Clean := by
  cases hn with
  | text buffer => exact ⟨h.sections, h.blocks⟩
  | data hname href =>
    have hf := h.flush true
    exact ⟨List.forall_mem_cons.2 ⟨readable_of_resolve hp hf href, hf.sections⟩, hf.blocks⟩
  | quoted hname href hs =>
    have hf := h.flush true
    exact ⟨List.forall_mem_cons.2 ⟨readable_of_resolve hp hf href, hf.sections⟩, hf.blocks⟩
  | branch cond | join kind =>
    have hf := h.flush false
    refine ⟨List.forall_mem_cons.2 ⟨trivial, hf.sections⟩, fun v hv => hf.blocks v ?_⟩
    simpa [Reading.add, Reading.open_] using hv
  | otherwise cond =>
    have hf := h.flush false
    exact ⟨List.forall_mem_cons.2 ⟨trivial, hf.sections⟩, hf.blocks⟩
  | close =>
    have hf := h.flush false
    exact ⟨List.forall_mem_cons.2 ⟨trivial, hf.sections⟩,
      fun v hv => hf.blocks v (List.mem_of_mem_tail hv)⟩
  | @loop body index value range found hc hr =>
    have hf := h.flush false
    have hvars := unreserved_of_classify hc
    refine ⟨List.forall_mem_cons.2 ⟨hvars, hf.sections⟩, fun v hv => ?_⟩
    rcases List.mem_cons.1 hv with he | hv
    · obtain rfl := Option.some.inj he
      exact hvars
    · exact hf.blocks v hv

/-- The sections of a template have such names, if its parameters have. -/
theorem clean_of_tokenize {template : String} {receiver : Option String} {sections : List Section}
    (hp : ∀ p ∈ scope.params, Reserved.isReserved p.name = false)
    (h : tokenize template scope receiver = .ok sections) : ∀ s ∈ sections, s.Clean := by
  obtain ⟨r, hr, rfl⟩ := tokenize_induction (P := Reading.Clean) ⟨by simp, by simp⟩
    (fun r p next _ hr hn => hr.isRead hp hn) h
  intro s hs
  exact (hr.flush false).sections s (List.mem_reverse.1 hs)

end Template

/-! ## Names of clause trees -/

mutual

theorem Clause.clean_of_flatten {c : Clause} (h : ∀ s ∈ c.flatten, s.Clean)
    (hb : ∀ b ∈ c.bindings, b.Named) : c.Clean := by
  match c with
  | .sql _ fragments =>
    intro f hf
    have hs := h f.section (List.mem_map_of_mem hf)
    cases f with
    | text t => trivial
    | bind b => exact ⟨hb b (List.mem_filterMap.2 ⟨_, hf, rfl⟩), hs⟩
    | quote expr => exact hs
  | .branch _ cond body otherwise =>
    rw [Clause.flatten, List.forall_mem_cons, List.forall_mem_append, List.forall_mem_append] at h
    rw [Clause.bindings, List.forall_mem_append] at hb
    exact ⟨Clause.clean_of_flattenAll h.2.1 hb.1, Branch.clean_of_flattenAll h.2.2.1 hb.2⟩
  | .join kind _ _ body =>
    rw [Clause.flatten, List.forall_mem_cons, List.forall_mem_append] at h
    exact Clause.clean_of_flattenAll h.2.1 hb
  | .loop _ _ range _ body =>
    rw [Clause.flatten, List.forall_mem_cons, List.forall_mem_append] at h
    exact ⟨h.1, Clause.clean_of_flattenAll h.2.1 hb⟩

/-- The names of clauses are those of their sections. -/
theorem Clause.clean_of_flattenAll {cs : List Clause} (h : ∀ s ∈ Clause.flattenAll cs, s.Clean)
    (hb : ∀ b ∈ Clause.bindingsAll cs, b.Named) : Clause.AllClean cs := by
  match cs with
  | [] => trivial
  | c :: rest =>
    rw [Clause.flattenAll, List.forall_mem_append] at h
    rw [Clause.bindingsAll, List.forall_mem_append] at hb
    exact ⟨Clause.clean_of_flatten h.1 hb.1, Clause.clean_of_flattenAll h.2 hb.2⟩

theorem Branch.clean_of_flattenAll {bs : List Branch} (h : ∀ s ∈ Branch.flattenAll bs, s.Clean)
    (hb : ∀ b ∈ Branch.bindingsAll bs, b.Named) : Branch.AllClean bs := by
  match bs with
  | [] => trivial
  | .mk cond body :: rest =>
    rw [Branch.flattenAll, Branch.flatten, List.forall_mem_append, List.forall_mem_cons] at h
    rw [Branch.bindingsAll, List.forall_mem_append] at hb
    exact ⟨Clause.clean_of_flattenAll h.1.2 hb.1, Branch.clean_of_flattenAll h.2 hb.2⟩

end

/-- The names in a tree stay clear of generated ones, if the parameters do. -/
theorem allClean_of_buildClauses {template source : String} {scope : Template.Scope}
    {receiver : Option String} {sections : List Section} {tree : List Clause}
    (hp : ∀ p ∈ scope.params, Reserved.isReserved p.name = false)
    (ht : Template.tokenize template scope receiver = .ok sections)
    (hb : buildClauses sections source = .ok tree) : Clause.AllClean tree := by
  refine Clause.clean_of_flattenAll ?_ (named_of_buildClauses ht hb)
  intro s hs
  rw [flattenAll_of_buildClauses hb] at hs
  obtain ⟨t, hmem, rfl⟩ := List.mem_map.1 hs
  exact t.clean_bare.2 (Template.clean_of_tokenize hp ht t hmem)

end QueryGen
