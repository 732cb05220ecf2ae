/-!
# Tables of code points

The shapes in which the character tables are written:

- an interval `(first, last)` of a `List (Nat × Nat)`, read by `inIntervals`;
- `CodeRun`: every `step`-th code point of an interval, the shape of alternating letter case;
- `CaseRun`: a run whose members all move by the same offset.
-/

namespace QueryGen.Text

/-- Whether `n` lies in one of the intervals. -/
def inIntervals (table : List (Nat × Nat)) (n : Nat) : Bool :=
  table.any fun (first, last) => first ≤ n && n ≤ last

theorem inIntervals_eq_true_iff {table : List (Nat × Nat)} {n : Nat} :
    inIntervals table n = true ↔ ∃ i ∈ table, i.1 ≤ n ∧ n ≤ i.2 := by
  simp [inIntervals]

/-- Every `step`-th code point from `first` to `last`. -/
structure CodeRun where
  first : Nat
  last : Nat
  step : Nat
deriving DecidableEq

namespace CodeRun

def contains (r : CodeRun) (n : Nat) : Bool :=
  r.first ≤ n && n ≤ r.last && (n - r.first) % r.step == 0

theorem contains_first (r : CodeRun) (h : r.first ≤ r.last) : r.contains r.first = true := by
  simp [contains, h]

end CodeRun

/-- Whether `n` is a member of one of the runs. -/
def inRuns (table : List CodeRun) (n : Nat) : Bool := table.any (·.contains n)

/-- A run of code points that a case mapping moves by one offset: `first` goes to `target`. -/
structure CaseRun where
  run : CodeRun
  target : Nat
deriving DecidableEq

/-- The image of `n` under the first run that has it. -/
def mapRuns? (table : List CaseRun) (n : Nat) : Option Nat :=
  (table.find? (·.run.contains n)).map fun r => r.target + (n - r.run.first)

end QueryGen.Text
