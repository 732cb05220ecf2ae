import QueryGen.Output.QueryFile

/-!
# The import block

The imports of a file are sorted by path, and of several imports of one path the first is kept.

- `Output.importBlock`: the imports that are kept, in the order of the lines (`Output.Spells`).
- `Output.mem_importBlock`: an import is kept if it is the first of its path.
- `Import.binding`, `Output.IsFirst`: the same for the names and paths that are bound to each other.
-/

namespace QueryGen

namespace Output

/-- The imports of the import block, in the order of its lines. -/
def importBlock (imports : List Import) : List Import :=
  sortImports (imports.filter (·.isStandard)) ++ sortImports (imports.filter (!·.isStandard))

/-- The lines spell the imports of a block, each once and in order. -/
def Spells (block : List Import) (lines : List String) : Prop :=
  (block = [] ∧ lines = []) ∨
    (∃ i, block = [i] ∧ lines = ["import " ++ i.line, ""]) ∨
    ∃ a gap b, block = a ++ b ∧ (gap = [] ∨ gap = [""]) ∧
      lines = ["import ("] ++ a.map ("\t" ++ ·.line) ++ gap ++ b.map ("\t" ++ ·.line) ++ [")", ""]

theorem spells_importLines (imports : List Import) :
    Spells (importBlock imports) (importLines imports) := by
  unfold importBlock importLines
  generalize sortImports (imports.filter (·.isStandard)) = standard
  generalize sortImports (imports.filter (!·.isStandard)) = others
  match standard, others with
  | [], [] => exact .inl ⟨rfl, rfl⟩
  | [only], [] => exact .inr (.inl ⟨only, rfl, rfl⟩)
  | [], [only] => exact .inr (.inl ⟨only, rfl, rfl⟩)
  | [], i :: j :: rest => exact .inr (.inr ⟨[], [], i :: j :: rest, rfl, .inl rfl, rfl⟩)
  | i :: j :: rest, [] =>
    exact .inr (.inr ⟨i :: j :: rest, [], [], by simp, .inl rfl, by simp⟩)
  | i :: rest, j :: more =>
    exact .inr (.inr ⟨i :: rest, [""], j :: more, rfl, .inr rfl, by cases rest <;> simp⟩)

/-! ## Sorting -/

/-- The order by which imports are sorted. -/
def pathLe (a b : Import) : Bool := !(b.path < a.path)

theorem pathLe_iff {a b : Import} : pathLe a b = true ↔ a.path ≤ b.path := by
  rw [pathLe, Bool.not_eq_true', decide_eq_false_iff_not, String.not_lt]

theorem pathLe_trans (a b c : Import) (hab : pathLe a b = true) (hbc : pathLe b c = true) :
    pathLe a c = true :=
  pathLe_iff.2 (String.le_trans (pathLe_iff.1 hab) (pathLe_iff.1 hbc))

theorem pathLe_total (a b : Import) : (pathLe a b || pathLe b a) = true := by
  rw [Bool.or_eq_true, pathLe_iff, pathLe_iff]
  exact String.le_total a.path b.path

theorem pairwise_mergeSort (imports : List Import) :
    (imports.mergeSort pathLe).Pairwise fun a b => a.path ≤ b.path := by
  have hsorted := @List.pairwise_mergeSort Import pathLe pathLe_trans pathLe_total imports
  exact hsorted.imp fun h => pathLe_iff.1 h

/-- Sorting keeps the imports of one path in their order. -/
theorem filter_mergeSort (imports : List Import) (path : String) :
    (imports.mergeSort pathLe).filter (·.path == path) = imports.filter (·.path == path) := by
  have hpath : ∀ a ∈ imports.filter (·.path == path), a.path = path := fun a ha => by
    simpa using (List.mem_filter.1 ha).2
  have heq : (imports.filter (·.path == path)).Pairwise fun a b => pathLe a b = true := by
    refine List.pairwise_iff_forall_sublist.2 fun {a b} hab => pathLe_iff.2 ?_
    have hsame : a.path = b.path :=
      (hpath a (hab.subset (by simp))).trans (hpath b (hab.subset (by simp))).symm
    exact hsame ▸ String.le_refl a.path
  have hsub : (imports.filter (·.path == path)).Sublist (imports.mergeSort pathLe) :=
    @List.sublist_mergeSort Import pathLe imports pathLe_trans pathLe_total _ heq
      List.filter_sublist
  have hself := hsub.filter (·.path == path)
  rw [List.filter_filter] at hself
  simp only [Bool.and_self] at hself
  exact (hself.eq_of_length
    ((List.mergeSort_perm imports pathLe).filter (·.path == path)).length_eq.symm).symm

theorem find?_mergeSort (imports : List Import) (path : String) :
    (imports.mergeSort pathLe).find? (·.path == path) = imports.find? (·.path == path) := by
  rw [← List.head?_filter, filter_mergeSort, List.head?_filter]

/-! ## One import for each path -/

/-- In front of imports with other paths of their own, an import replaces the one of its path. -/
theorem dropRepeated_cons {i : Import} {rest : List Import}
    (hlt : (dropRepeated rest).Pairwise fun a b => a.path < b.path)
    (hle : ∀ k ∈ dropRepeated rest, i.path ≤ k.path) :
    dropRepeated (i :: rest) = i :: (dropRepeated rest).filter (·.path ≠ i.path) := by
  rw [dropRepeated]
  generalize dropRepeated rest = kept at hlt hle ⊢
  cases kept with
  | nil => rfl
  | cons j kept =>
    obtain ⟨hj, -⟩ := List.pairwise_cons.1 hlt
    have hall : ∀ k ∈ kept, k.path ≠ i.path := fun k hk he =>
      String.not_le.2 (hj k hk) (he ▸ hle j List.mem_cons_self)
    have hkept : kept.filter (·.path ≠ i.path) = kept :=
      List.filter_eq_self.2 fun k hk => by simpa using hall k hk
    by_cases hij : i.path = j.path
    · simp only [if_pos hij]
      rw [List.filter_cons_of_neg (by simp [hij]), hkept]
    · simp only [if_neg hij]
      rw [List.filter_cons_of_pos (by simpa using Ne.symm hij), hkept]

/-- In a sorted list one import of each path is left. -/
theorem pairwise_dropRepeated {imports : List Import}
    (h : imports.Pairwise fun a b => a.path ≤ b.path) :
    (dropRepeated imports).Pairwise (fun a b => a.path < b.path) ∧
      dropRepeated imports ⊆ imports := by
  induction imports with
  | nil => exact ⟨.nil, fun _ h => h⟩
  | cons i rest ih =>
    obtain ⟨hi, hrest⟩ := List.pairwise_cons.1 h
    obtain ⟨hlt, hsub⟩ := ih hrest
    have hle : ∀ k ∈ dropRepeated rest, i.path ≤ k.path := fun k hk => hi k (hsub hk)
    rw [dropRepeated_cons hlt hle]
    refine ⟨List.pairwise_cons.2 ⟨fun k hk => ?_, hlt.filter _⟩,
      List.cons_subset_cons i fun k hk => hsub (List.mem_filter.1 hk).1⟩
    obtain ⟨hk, hne⟩ := List.mem_filter.1 hk
    refine String.not_le.1 fun hki => ?_
    simp [String.le_antisymm hki (hle k hk)] at hne

theorem mem_dropRepeated {imports : List Import}
    (h : imports.Pairwise fun a b => a.path ≤ b.path) (k : Import) :
    k ∈ dropRepeated imports ↔ imports.find? (·.path == k.path) = some k := by
  induction imports with
  | nil => simp [dropRepeated]
  | cons i rest ih =>
    obtain ⟨hi, hrest⟩ := List.pairwise_cons.1 h
    obtain ⟨hlt, hsub⟩ := pairwise_dropRepeated hrest
    rw [dropRepeated_cons hlt fun k hk => hi k (hsub hk), List.mem_cons, List.mem_filter, ih hrest]
    by_cases hik : i.path = k.path
    · simp [hik, eq_comm]
    · have hne : k ≠ i := fun he => hik (he ▸ rfl)
      rw [List.find?_cons_of_neg (by simpa using hik)]
      simp [hne, Ne.symm hik]

/-! ## The block -/

theorem mem_sortImports {imports : List Import} {i : Import} :
    i ∈ sortImports imports ↔ imports.find? (·.path == i.path) = some i := by
  change i ∈ dropRepeated (imports.mergeSort pathLe) ↔ _
  rw [mem_dropRepeated (pairwise_mergeSort imports), find?_mergeSort]

/-- An import stands in the block if it is the first of its path. -/
theorem mem_importBlock {imports : List Import} {i : Import} :
    i ∈ importBlock imports ↔ imports.find? (·.path == i.path) = some i := by
  -- whether an import belongs to the standard library is told by its path
  have hgroup {group : Import → Bool} (hpath : ∀ a b, a.path = b.path → group a = group b) :
      i ∈ sortImports (imports.filter group) ↔
        group i = true ∧ imports.find? (·.path == i.path) = some i := by
    rw [mem_sortImports, List.find?_filter]
    cases hi : group i with
    | true =>
      have hsame : (fun a : Import => decide (group a = true ∧ (a.path == i.path) = true)) =
          fun a => a.path == i.path := by
        funext a
        by_cases ha : a.path = i.path
        · simp [ha, (hpath a i ha).trans hi]
        · simp [ha]
      rw [hsame, and_iff_right rfl]
    | false =>
      have hnone : imports.find? (fun a => decide (group a = true ∧ (a.path == i.path) = true)) =
          none := by
        refine List.find?_eq_none.2 fun a _ ha => ?_
        simp only [decide_eq_true_eq, beq_iff_eq] at ha
        rw [hpath a i ha.2, hi] at ha
        exact Bool.false_ne_true ha.1
      rw [hnone]
      simp
  have hstandard : ∀ a b : Import, a.path = b.path → a.isStandard = b.isStandard := fun a b h => by
    rw [Import.isStandard, Import.isStandard, h]
  rw [importBlock, List.mem_append, hgroup hstandard,
    hgroup fun a b h => congrArg not (hstandard a b h), ← or_and_right]
  cases i.isStandard <;> simp

/-! ## Bindings -/

end Output

/-- The name and the path that an import binds to each other. -/
def Import.binding (i : Import) : String × String := (i.qualifier, i.path)

@[simp] theorem Import.binding_ofQualifier (qualifier path : String) :
    (Import.ofQualifier qualifier path).binding = (qualifier, path) := by
  rw [binding, qualifier_ofQualifier]
  rfl

namespace Output

/-- Of the bindings of its path the binding comes first. -/
def IsFirst (bindings : List (String × String)) (b : String × String) : Prop :=
  bindings.find? (·.2 == b.2) = some b

instance (bindings : List (String × String)) (b : String × String) :
    Decidable (IsFirst bindings b) :=
  inferInstanceAs (Decidable (_ = _))

theorem IsFirst.mem {bindings : List (String × String)} {b : String × String}
    (h : IsFirst bindings b) : b ∈ bindings := List.mem_of_find?_eq_some h

theorem IsFirst.eq_of_path {bindings : List (String × String)} {a b : String × String}
    (ha : IsFirst bindings a) (hb : IsFirst bindings b) (h : a.2 = b.2) : a = b := by
  rw [IsFirst, h, hb] at ha
  exact (Option.some.inj ha).symm

/-- A path that is bound is bound first to some name. -/
theorem exists_isFirst {bindings : List (String × String)} {b : String × String}
    (h : b ∈ bindings) : ∃ name, IsFirst bindings (name, b.2) := by
  have hsome : (bindings.find? (·.2 == b.2)).isSome := List.find?_isSome.2 ⟨b, h, by simp⟩
  obtain ⟨⟨name, path⟩, hfirst⟩ := Option.isSome_iff_exists.1 hsome
  obtain rfl : path = b.2 := by simpa using List.find?_some hfirst
  exact ⟨name, hfirst⟩

/-- The block binds what is bound first. -/
theorem mem_bindings_importBlock {imports : List Import} {b : String × String} :
    b ∈ (importBlock imports).map (·.binding) ↔ IsFirst (imports.map (·.binding)) b := by
  rw [IsFirst, List.find?_map, Option.map_eq_some_iff, List.mem_map]
  refine exists_congr fun i => and_congr_left fun hi => ?_
  rw [mem_importBlock, ← hi]
  rfl

end Output

end QueryGen
