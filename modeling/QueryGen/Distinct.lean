/-!
# First occurrences

- `distinct`: the elements of a list in the order of their first occurrences.
-/

namespace QueryGen

variable {α : Type} [DecidableEq α]

/-- Each element once, where it stands first. -/
def distinct : List α → List α
  | [] => []
  | a :: rest => a :: (distinct rest).filter (· ≠ a)

@[simp] theorem mem_distinct {a : α} {l : List α} : a ∈ distinct l ↔ a ∈ l := by
  induction l with
  | nil => simp [distinct]
  | cons b rest ih =>
    by_cases h : a = b
    · simp [distinct, h]
    · simp [distinct, h, ih]

theorem nodup_distinct (l : List α) : (distinct l).Nodup := by
  induction l with
  | nil => simp [distinct]
  | cons b rest ih =>
    refine List.nodup_cons.2 ⟨by simp, ih.filter _⟩

end QueryGen
