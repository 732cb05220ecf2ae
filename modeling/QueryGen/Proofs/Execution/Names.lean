import Mathlib
import QueryGen.Clause.Build
import QueryGen.Proofs.Execution.Machine

/-!
# Names that tell things apart

- `isReserved_numbered`: the names of a numbered family are reserved.
- `loopIndex_inj`: generated loop variables differ.
- `builder_ne_sqlBuilder`: the builder of a block is not that of the statement.
- `printNumbers_inj`: a key that is printed with integers can be read back.
-/

namespace QueryGen

theorem isDigit_of_mem_repr {n : Nat} {c : Char} (h : c ∈ n.repr.toList) : c.isDigit = true := by
  rw [Nat.toList_repr] at h
  exact Nat.isDigit_of_mem_toDigits (by decide) (by decide) h

/-! ## Generated names -/

namespace Reserved

theorem isPrefixOf?_append (cs ds : List Char) : cs.isPrefixOf? (cs ++ ds) = some ds := by
  induction cs with
  | nil => rfl
  | cons c rest ih => simp [List.isPrefixOf?, ih]

/-- A name of a numbered family is reserved. -/
theorem isReserved_numbered {family : String} (hf : family ∈ [wherePrefix, setPrefix, loopPrefix])
    (n : Nat) : isReserved (family ++ n.repr) = true := by
  have hn : inFamily family (family ++ n.repr) = true := by
    rw [inFamily, String.toList_append, isPrefixOf?_append]
    exact List.all_eq_true.2 fun _ => isDigit_of_mem_repr
  have hany : [wherePrefix, setPrefix, loopPrefix].any (inFamily · (family ++ n.repr)) = true :=
    List.any_eq_true.2 ⟨family, hf, hn⟩
  rw [isReserved, hany, Bool.or_true]

theorem isReserved_loopIndex (n : Nat) : isReserved (loopIndex n) = true :=
  isReserved_numbered (by simp) n

/-- No generated loop variable is discarded. -/
theorem loopIndex_ne_discard (n : Nat) : loopIndex n ≠ "_" := by
  intro he
  have hr := isReserved_loopIndex n
  rw [he] at hr
  exact absurd hr (by decide)

theorem loopIndex_inj {m n : Nat} (h : loopIndex m = loopIndex n) : m = n := by
  rw [loopIndex, loopIndex, String.append_right_inj] at h
  exact Nat.repr_inj.1 h

end Reserved

theorem builder_ne_sqlBuilder (n : Numbering) (kind : JoinKind) :
    (n.nextJoin kind).1 ≠ Reserved.sqlBuilder := by
  intro h
  have hc := congrArg (fun s : String => s.toList.head?) h
  cases kind <;>
    simp [Numbering.nextJoin, Numbering.nextWhere, Numbering.nextSet, Reserved.whereBuilder,
      Reserved.setBuilder, Reserved.wherePrefix, Reserved.setPrefix, Reserved.sqlBuilder] at hc

/-! ## Reading keys back -/

section Cuts

variable {a a' b b' : List Char} {c : Char}

/-- Two texts that are cut at their first `c`. -/
theorem eq_of_append_cons_left (ha : c ∉ a) (ha' : c ∉ a')
    (h : a ++ c :: b = a' ++ c :: b') : a = a' ∧ b = b' := by
  rcases List.append_eq_append_iff.1 h with ⟨t, rfl, ht⟩ | ⟨t, rfl, ht⟩
  · cases t with
    | nil => exact ⟨by simp, by simpa using ht⟩
    | cons d t =>
      rw [List.cons_append, List.cons.injEq] at ht
      exact absurd (by simp [← ht.1]) ha'
  · cases t with
    | nil => exact ⟨by simp, by simpa using ht.symm⟩
    | cons d t =>
      rw [List.cons_append, List.cons.injEq] at ht
      exact absurd (by simp [← ht.1]) ha

/-- Two texts that are cut at their last `c`. -/
theorem eq_of_append_cons_right (hb : c ∉ b) (hb' : c ∉ b')
    (h : a ++ c :: b = a' ++ c :: b') : a = a' ∧ b = b' := by
  have hr := congrArg List.reverse h
  simp only [List.reverse_append, List.reverse_cons, List.append_assoc, List.singleton_append] at hr
  obtain ⟨h1, h2⟩ := eq_of_append_cons_left (by simpa using hb) (by simpa using hb') hr
  exact ⟨List.reverse_injective h2, List.reverse_injective h1⟩

end Cuts

/-- The characters of an integer: digits and a sign. -/
theorem mem_repr_int {n : Int} {c : Char} (h : c ∈ n.repr.toList) : c.isDigit = true ∨ c = '-' := by
  rw [Int.repr_eq_if] at h
  split at h
  · exact .inl (isDigit_of_mem_repr h)
  · rw [String.toList_append, List.mem_append] at h
    rcases h with h | h
    · exact .inr (by simpa using h)
    · exact .inl (isDigit_of_mem_repr h)

theorem flatMap_underscore_inj {α : Type} {f : α → List Char} (hf : ∀ v, '_' ∉ f v)
    {xs ys : List α} {p p' : List Char} (hp : '_' ∉ p) (hp' : '_' ∉ p')
    (h : (p ++ xs.flatMap fun v => '_' :: f v) = p' ++ ys.flatMap fun v => '_' :: f v) :
    p = p' ∧ xs.map f = ys.map f := by
  induction xs generalizing p p' ys with
  | nil =>
    cases ys with
    | nil => exact ⟨by simpa using h, rfl⟩
    | cons y ys =>
      have : '_' ∈ p := by
        rw [List.flatMap_nil, List.append_nil] at h
        simp [h]
      exact absurd this hp
  | cons x xs ih =>
    cases ys with
    | nil =>
      have : '_' ∈ p' := by
        rw [List.flatMap_nil, List.append_nil] at h
        simp [← h]
      exact absurd this hp'
    | cons y ys =>
      rw [List.flatMap_cons, List.flatMap_cons, List.cons_append, List.cons_append] at h
      obtain ⟨h1, h2⟩ := eq_of_append_cons_left hp hp' h
      obtain ⟨h3, h4⟩ := ih (hf x) (hf y) h2
      exact ⟨h1, by rw [List.map_cons, List.map_cons, h3, h4]⟩

/-- A key with integers for the values of its index variables. -/
def printNumbers (name : String) (loopId : Nat) (numbers : List Int) : List Char :=
  name.toList ++ '.' :: (loopId.repr.toList ++ numbers.flatMap fun n => '_' :: n.repr.toList)

theorem printKey_int {α : Type} (w : World α) (name : String) (loopId : Nat)
    (numbers : List Int) :
    w.printKey name loopId (numbers.map Value.int) = printNumbers name loopId numbers := by
  simp only [World.printKey, List.flatMap_map, World.format, printNumbers]

theorem notMem_repr_int {c : Char} (hd : c.isDigit = false) (hm : c ≠ '-') (n : Int) :
    c ∉ n.repr.toList := by
  intro hc
  rcases mem_repr_int hc with h | h
  · rw [hd] at h
    cases h
  · exact hm h

/-- The last dot of a key stands in front of its numbers. -/
theorem dot_notMem_numbers (loopId : Nat) (numbers : List Int) :
    '.' ∉ loopId.repr.toList ++ numbers.flatMap fun n => '_' :: n.repr.toList := by
  intro hc
  rcases List.mem_append.1 hc with hc | hc
  · exact notMem_repr_int rfl (by decide) loopId hc
  · obtain ⟨n, -, hn⟩ := List.mem_flatMap.1 hc
    rcases List.mem_cons.1 hn with hn | hn
    · cases hn
    · exact notMem_repr_int rfl (by decide) n hn

/-- A key with integers tells its name, its loop and the integers. -/
theorem printNumbers_inj {name name' : String} {id id' : Nat} {numbers numbers' : List Int}
    (h : printNumbers name id numbers = printNumbers name' id' numbers') :
    name = name' ∧ id = id' ∧ numbers = numbers' := by
  obtain ⟨hname, htail⟩ := eq_of_append_cons_right (dot_notMem_numbers id numbers)
    (dot_notMem_numbers id' numbers') h
  have hline : ∀ n : Int, '_' ∉ n.repr.toList := notMem_repr_int rfl (by decide)
  obtain ⟨h1, h2⟩ := flatMap_underscore_inj (f := fun v : Int => v.repr.toList) hline (hline id)
    (hline id') htail
  refine ⟨String.toList_inj.1 hname, Nat.repr_inj.1 (String.toList_inj.1 h1), ?_⟩
  exact List.map_injective_iff.2 (fun a b hab => Int.repr_inj.1 (String.toList_inj.1 hab)) h2

end QueryGen
