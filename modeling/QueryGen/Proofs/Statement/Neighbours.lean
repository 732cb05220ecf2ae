import Mathlib.Data.List.Chain
import QueryGen.Proofs.Statement.Groups

/-!
# Neighbours among sections

What is asked of sections that stand side by side, in a list of sections and in the tree that is
built from it.

- `Clause.isChain_flattenAll_iff`: a relation of neighbours that matters in SQL text alone holds of
  a tree where it holds of its SQL clauses, by induction on the tree.
- `isChain_sqls_iff`: then it holds of the sections that the tree was built from.
- `Clause.textsAll`: the literal texts of a tree, which are those of its sections
  (`texts_of_buildClauses`).
- `data_mem_of_bindings`: the bindings of a tree come from its sections.
-/

namespace QueryGen

/-! ## Chains of sections -/

section Trees

variable {R : Section → Section → Prop} (hR : ∀ s t, s.isSql = false ∨ t.isSql = false → R s t)

include hR

theorem isChain_cons_of_not_isSql {s : Section} (hs : s.isSql = false) (sections : List Section) :
    (s :: sections).IsChain R ↔ sections.IsChain R := by
  rw [List.isChain_cons]
  exact and_iff_right fun t _ => hR s t (.inl hs)

theorem isChain_append_of_head {front back : List Section}
    (h : ∀ t ∈ back.head?, t.isSql = false) :
    (front ++ back).IsChain R ↔ front.IsChain R ∧ back.IsChain R := by
  rw [List.isChain_append]
  exact and_congr_right fun _ => and_iff_left fun s _ t ht => hR s t (.inr (h t ht))

/-- A block begins and ends with sections that are no SQL text. -/
theorem isChain_block {s : Section} (hs : s.isSql = false) (inner : List Section) :
    (s :: (inner ++ [.close])).IsChain R ↔ inner.IsChain R := by
  rw [isChain_cons_of_not_isSql hR hs, isChain_append_of_head hR (by simp [Section.isSql])]
  exact and_iff_left (.singleton _)

omit hR in
theorem Clause.exists_flatten_eq {c : Clause} (h : c.isSql = false) :
    ∃ s inner, c.flatten = s :: (inner ++ [.close]) ∧ s.isSql = false := by
  cases c with
  | sql builder fragments => cases h
  | branch builder cond body otherwise =>
    exact ⟨_, Clause.flattenAll body ++ Branch.flattenAll otherwise,
      by rw [Clause.flatten, List.append_assoc], rfl⟩
  | join kind builder target body => exact ⟨_, _, rfl, rfl⟩
  | loop id builder range index body => exact ⟨_, _, rfl, rfl⟩

omit hR in
theorem Branch.head_flattenAll (bs : List Branch) :
    ∀ t ∈ (Branch.flattenAll bs).head?, t.isSql = false := by
  cases bs with
  | nil => simp [Branch.flattenAll]
  | cons b rest =>
    obtain ⟨cond, body⟩ := b
    simp [Branch.flattenAll, Branch.flatten, Section.isSql]

/-- Clauses side by side are not both SQL text, so that their sections may stand side by side. -/
theorem isChain_flatten_append {c : Clause} {rest : List Clause}
    (h : (c :: rest).IsChain Clause.Apart) :
    (c.flatten ++ Clause.flattenAll rest).IsChain R ↔
      c.flatten.IsChain R ∧ (Clause.flattenAll rest).IsChain R := by
  cases hc : c.isSql with
  | false =>
    obtain ⟨s, inner, hf, -⟩ := Clause.exists_flatten_eq hc
    rw [List.isChain_append]
    refine and_congr_right fun _ => and_iff_left fun s hs t _ => hR s t (.inl ?_)
    rw [hf, ← List.cons_append, List.getLast?_append] at hs
    obtain rfl : Section.close = s := by simpa using hs
    rfl
  | true =>
    refine isChain_append_of_head hR fun t ht => ?_
    cases rest with
    | nil => cases ht
    | cons d others =>
      have hd : d.isSql = false := by
        cases hd : d.isSql with
        | false => rfl
        | true => exact absurd ⟨hc, hd⟩ ((List.isChain_cons.1 h).1 d rfl)
      obtain ⟨s, inner, hf, hs⟩ := Clause.exists_flatten_eq hd
      rw [Clause.flattenAll, hf] at ht
      obtain rfl : s = t := by simpa using ht
      exact hs

mutual

theorem Clause.isChain_flatten_iff {wide : Bool} {c : Clause} (h : c.Grammatical wide) :
    c.flatten.IsChain R ↔
      ∀ fragments ∈ c.sqls, (fragments.map Fragment.section).IsChain R := by
  match c with
  | .sql _ fragments => simp [Clause.flatten, Clause.sqls]
  | .branch _ cond body otherwise =>
    rw [Clause.flatten, Clause.sqls, ← List.append_assoc, isChain_block hR rfl,
      isChain_append_of_head hR (Branch.head_flattenAll otherwise),
      Clause.isChain_flattenAll_iff ⟨h.1, h.2.1⟩, Branch.isChain_flattenAll_iff h.2.2,
      List.forall_mem_append]
  | .join _ _ _ body =>
    rw [Clause.flatten, Clause.sqls, isChain_block hR rfl, Clause.isChain_flattenAll_iff h.2]
  | .loop _ _ range _ body =>
    rw [Clause.flatten, Clause.sqls, isChain_block hR rfl, Clause.isChain_flattenAll_iff h]

/-- What is asked of neighbouring sections of SQL text is asked of the SQL clauses one by one. -/
theorem Clause.isChain_flattenAll_iff {wide : Bool} {cs : List Clause}
    (h : Clause.IsBody wide cs) :
    (Clause.flattenAll cs).IsChain R ↔
      ∀ fragments ∈ Clause.sqlsAll cs, (fragments.map Fragment.section).IsChain R := by
  match cs with
  | [] => simp [Clause.flattenAll, Clause.sqlsAll]
  | c :: rest =>
    rw [Clause.flattenAll, Clause.sqlsAll, isChain_flatten_append hR h.1,
      Clause.isChain_flatten_iff h.2.1,
      Clause.isChain_flattenAll_iff ⟨(List.isChain_cons.1 h.1).2, h.2.2⟩, List.forall_mem_append]

theorem Branch.isChain_flattenAll_iff {wide : Bool} {bs : List Branch}
    (h : Branch.AllGrammatical wide bs) :
    (Branch.flattenAll bs).IsChain R ↔
      ∀ fragments ∈ Branch.sqlsAll bs, (fragments.map Fragment.section).IsChain R := by
  match bs with
  | [] => simp [Branch.flattenAll, Branch.sqlsAll]
  | .mk cond body :: rest =>
    rw [Branch.flattenAll, Branch.flatten, Branch.sqlsAll, List.cons_append,
      isChain_cons_of_not_isSql hR rfl, isChain_append_of_head hR (Branch.head_flattenAll rest),
      Clause.isChain_flattenAll_iff h.1, Branch.isChain_flattenAll_iff h.2.2,
      List.forall_mem_append]

end

end Trees

/-! ## Sections of a tree -/

/-- The text of a literal section. -/
def Section.literal? : Section → Option String
  | literal text => some text
  | _ => none

def Fragment.text? : Fragment → Option String
  | text t => some t
  | _ => none

/-- The literal texts of a tree, in source order. -/
def Clause.textsAll (tree : List Clause) : List String :=
  (Clause.sqlsAll tree).flatMap fun fragments => fragments.filterMap Fragment.text?

/-- The literal texts of a tree are those of its sections. -/
theorem texts_of_buildClauses {sections : List Section} {source : String} {tree : List Clause}
    (h : buildClauses sections source = .ok tree) :
    sections.filterMap Section.literal? = Clause.textsAll tree := by
  have hsql : ∀ s : Section, s.isSql = false → s.literal? = none := by
    intro s hs
    cases s <;> first | rfl | cases hs
  have hbare : ∀ s : Section, s.bare.literal? = s.literal? := by
    intro s
    cases s <;> rfl
  rw [filterMap_of_buildClauses hsql hbare h]
  refine List.flatMap_congr fun fragments _ => ?_
  rw [List.filterMap_map]
  exact List.filterMap_congr fun f _ => by cases f <;> rfl

theorem literal_mem_of_sqls {sections : List Section} {source : String} {tree : List Clause}
    (h : buildClauses sections source = .ok tree) {fragments : List Fragment}
    (hf : fragments ∈ Clause.sqlsAll tree) {t : String} (ht : .text t ∈ fragments) :
    .literal t ∈ sections := by
  have hmem : t ∈ sections.filterMap Section.literal? := by
    rw [texts_of_buildClauses h]
    exact List.mem_flatMap.2 ⟨fragments, hf, List.mem_filterMap.2 ⟨_, ht, rfl⟩⟩
  obtain ⟨s, hs, he⟩ := List.mem_filterMap.1 hmem
  cases s with
  | literal text =>
    obtain rfl := Option.some.inj he
    exact hs
  | _ => cases he

/-- What is bound in a tree is a reference of its sections. -/
theorem data_mem_of_bindings {sections : List Section} {source : String} {tree : List Clause}
    (h : buildClauses sections source = .ok tree) {b : Binding}
    (hb : b ∈ Clause.bindingsAll tree) : ∃ ref : ParamRef, .data ref ∈ sections ∧ ref.path = b.expr := by
  have hs : b.expr ∈ sections.filterMap Section.bound? := by
    rw [filterMap_bound_of_buildClauses h]
    exact List.mem_map_of_mem hb
  obtain ⟨s, hs, he⟩ := List.mem_filterMap.1 hs
  cases s with
  | data ref => exact ⟨ref, hs, Option.some.inj he⟩
  | _ => cases he

/-- Neighbours of a tree are those of its sections. -/
theorem isChain_sqls_iff {R : Section → Section → Prop}
    (hR : ∀ s t, s.isSql = false ∨ t.isSql = false → R s t) (hbare : ∀ s t, R s.bare t.bare ↔ R s t)
    {sections : List Section} {source : String} {tree : List Clause}
    (h : buildClauses sections source = .ok tree) :
    (∀ fragments ∈ Clause.sqlsAll tree, (fragments.map Fragment.section).IsChain R) ↔
      sections.IsChain R := by
  rw [← Clause.isChain_flattenAll_iff hR (isBody_of_buildClauses h), flattenAll_of_buildClauses h,
    List.isChain_map]
  simp only [hbare]

end QueryGen
