import QueryGen.Proofs.Execution.Machine
import QueryGen.Proofs.Statement.Written

/-!
# Runs of clause trees

What a clause tree does, apart from how values are bound.

- `Pass`, `Bound`: one turn of a loop, and a value that is bound inside turns of loops.
- `Bound.value`, `Bound.key`: the value, and the key that tells it apart.
- `Written`: the units of the text that a run writes, blocks with their own texts inside.
- `Runs`: a run of clauses, with its choices and what it writes. Every condition may hold or not,
  and every range may have any pairs; the indices of a positional one are different integers.
-/

namespace QueryGen

open Template (BindStyle)

variable {α : Type}

/-! ## Turns of loops -/

/-- One turn of a loop. -/
structure Pass (α : Type) where
  id : Nat
  range : ForRange
  index : LoopIndex
  /-- How many turns went before. -/
  turn : Nat
  /-- The index and the value of the turn. -/
  pair : Value α × Value α

/-- The variables of a turn. The value hides the index. -/
def Pass.locals (p : Pass α) : List (String × Value α) :=
  [(p.range.value, p.pair.2), (p.range.index, p.pair.1)]

/-- The value of a variable inside turns of loops, the innermost first. -/
def readIn (args : String → Value α) (around : List (Pass α)) (name : String) : Value α :=
  ((around.flatMap Pass.locals).lookup name).getD (args name)

/-- The value of the variable that numbers the turns of a loop, where the turns `around` are
open. -/
def Pass.number (args : String → Value α) (around : List (Pass α)) (p : Pass α) : Value α :=
  match p.index with
  | .declared name => readIn args around name
  | .synthetic _ => p.pair.1
  | .counter _ => .int p.turn

/-- A value that is bound inside turns of loops, the innermost first. -/
structure Bound (α : Type) where
  binding : Binding
  around : List (Pass α)

namespace Bound

variable (w : World α) (args : String → Value α)

def value (b : Bound α) : Value α := w.eval (readIn args b.around) b.binding.expr

/-- The key of the value: its name, and inside loops the number of the innermost one and the
values of all index variables. -/
def key (b : Bound α) : List Char :=
  match b.around with
  | [] => b.binding.expr.toList
  | p :: _ =>
    w.printKey b.binding.expr p.id (b.around.reverse.map (Pass.number args b.around))

end Bound

/-! ## What is written -/

/-- A unit of the text that a run writes. -/
inductive Written (α : Type) where
  | char (c : Char)
  | bound (b : Bound α)
  | quoted (expr : String) (around : List (Pass α))
  /-- The text of a `where` or a `set` block. -/
  | block (kind : JoinKind) (inner : List (Written α))

namespace Written

/-- The placeholder of a bound value. -/
def placeholder (w : World α) (args : String → Value α) (style : BindStyle) (b : Bound α) :
    List Char :=
  match style with
  | .named => '@' :: b.key w args
  | .positional => ['?']

mutual

/-- The text of a unit. -/
def text (w : World α) (args : String → Value α) (style : BindStyle) : Written α → List Char
  | char c => [c]
  | bound b => placeholder w args style b
  | quoted expr around => w.quote (w.eval (readIn args around) expr)
  | block kind inner => w.join kind (textAll w args style inner)

/-- The text of units. -/
def textAll (w : World α) (args : String → Value α) (style : BindStyle) :
    List (Written α) → List Char
  | [] => []
  | u :: rest => u.text w args style ++ textAll w args style rest

end

mutual

/-- The values whose placeholders stand in a unit, in order. -/
def bounds : Written α → List (Bound α)
  | bound b => [b]
  | block _ inner => boundsAll inner
  | _ => []

/-- The values whose placeholders stand in units, in order. -/
def boundsAll : List (Written α) → List (Bound α)
  | [] => []
  | u :: rest => u.bounds ++ boundsAll rest

end

theorem textAll_append (w : World α) (args : String → Value α) (style : BindStyle)
    (a b : List (Written α)) :
    textAll w args style (a ++ b) = textAll w args style a ++ textAll w args style b := by
  induction a with
  | nil => simp [textAll]
  | cons u rest ih => simp [textAll, ih]

@[simp] theorem boundsAll_append (a b : List (Written α)) :
    boundsAll (a ++ b) = boundsAll a ++ boundsAll b := by
  induction a with
  | nil => simp [boundsAll]
  | cons u rest ih => simp [boundsAll, ih]

end Written

/-- What a mark is written as. -/
def Mark.written (around : List (Pass α)) : Mark → Written α
  | char c => .char c
  | bound b => .bound ⟨b, around⟩
  | quoted expr => .quoted expr around

theorem boundsAll_map_written (around : List (Pass α)) (marks : List Mark) :
    Written.boundsAll (marks.map (Mark.written around)) =
      (marks.filterMap Mark.binding?).map fun b => ⟨b, around⟩ := by
  induction marks with
  | nil => rfl
  | cons m rest ih =>
    rw [List.map_cons, Written.boundsAll, ih]
    cases m <;> rfl

/-! ## Runs -/

/-- The pairs that a range may have: a position is an integer and stands once. -/
def ForRange.Admits (r : ForRange) (pairs : List (Value α × Value α)) : Prop :=
  r.isPositional = true → ∃ positions : List Int, positions.Nodup ∧
    pairs.map Prod.fst = positions.map Value.int

/-- What is left to run. -/
inductive Work (α : Type) where
  | clauses (cs : List Clause)
  /-- The branches of an `if`, the first of which that applies is run. -/
  | branches (bs : List Branch)
  /-- The turns of a loop, from the `turn`-th one. -/
  | passes (id : Nat) (range : ForRange) (index : LoopIndex) (body : List Clause) (turn : Nat)
      (pairs : List (Value α × Value α))

/-- A run inside the given turns of loops, with its choices and what it writes. -/
inductive Runs : List (Pass α) → Work α → List (Choice α) → List (Written α) → Prop where
  | done {around : List (Pass α)} : Runs around (.clauses []) [] []
  | sql {around : List (Pass α)} {builder : String} {fragments : List Fragment}
      {rest : List Clause} {choices : List (Choice α)} {units : List (Written α)}
      (hr : Runs around (.clauses rest) choices units) :
      Runs around (.clauses (.sql builder fragments :: rest)) choices
        ((settled fragments).map (Mark.written around) ++ units)
  | branch {around : List (Pass α)} {builder cond : String} {body : List Clause}
      {otherwise : List Branch} {rest : List Clause} {choices more : List (Choice α)}
      {units others : List (Written α)}
      (hb : Runs around (.branches (.mk (some cond) body :: otherwise)) choices units)
      (hr : Runs around (.clauses rest) more others) :
      Runs around (.clauses (.branch builder cond body otherwise :: rest)) (choices ++ more)
        (units ++ others)
  | join {around : List (Pass α)} {kind : JoinKind} {builder target : String}
      {body rest : List Clause} {choices more : List (Choice α)}
      {units others : List (Written α)} (hb : Runs around (.clauses body) choices units)
      (hr : Runs around (.clauses rest) more others) :
      Runs around (.clauses (.join kind builder target body :: rest)) (choices ++ more)
        (.block kind units :: others)
  | loop {around : List (Pass α)} {id : Nat} {builder : String} {range : ForRange}
      {index : LoopIndex} {body rest : List Clause} {pairs : List (Value α × Value α)}
      {choices more : List (Choice α)} {units others : List (Written α)}
      (hp : range.Admits pairs)
      (hb : Runs around (.passes id range index body 0 pairs) choices units)
      (hr : Runs around (.clauses rest) more others) :
      Runs around (.clauses (.loop id builder range index body :: rest))
        (.range pairs :: (choices ++ more)) (units ++ others)
  | noBranch {around : List (Pass α)} : Runs around (.branches []) [] []
  | otherwise {around : List (Pass α)} {body : List Clause} {rest : List Branch}
      {choices : List (Choice α)} {units : List (Written α)}
      (hb : Runs around (.clauses body) choices units) :
      Runs around (.branches (.mk none body :: rest)) choices units
  | taken {around : List (Pass α)} {cond : String} {body : List Clause} {rest : List Branch}
      {choices : List (Choice α)} {units : List (Written α)}
      (hb : Runs around (.clauses body) choices units) :
      Runs around (.branches (.mk (some cond) body :: rest)) (.test true :: choices) units
  | passed {around : List (Pass α)} {cond : String} {body : List Clause} {rest : List Branch}
      {choices : List (Choice α)} {units : List (Written α)}
      (hr : Runs around (.branches rest) choices units) :
      Runs around (.branches (.mk (some cond) body :: rest)) (.test false :: choices) units
  | noPass {around : List (Pass α)} {id : Nat} {range : ForRange} {index : LoopIndex}
      {body : List Clause} {turn : Nat} : Runs around (.passes id range index body turn []) [] []
  | pass {around : List (Pass α)} {id : Nat} {range : ForRange} {index : LoopIndex}
      {body : List Clause} {turn : Nat} {pair : Value α × Value α}
      {pairs : List (Value α × Value α)} {choices more : List (Choice α)}
      {units others : List (Written α)}
      (hb : Runs (⟨id, range, index, turn, pair⟩ :: around) (.clauses body) choices units)
      (hr : Runs around (.passes id range index body (turn + 1) pairs) more others) :
      Runs around (.passes id range index body turn (pair :: pairs)) (choices ++ more)
        (units ++ others)

end QueryGen
