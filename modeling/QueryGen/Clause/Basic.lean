import QueryGen.Template.Section

/-!
# Clause trees

The nested form of a template. Every clause knows the Go builder that it writes into.

- `Fragment`: literal text, a bound value, or a quoted identifier.
- `Clause`, `Branch`: the tree. Only `where` and `set` blocks have builders of their own.
- `Clause.bindCount`: how many values a clause binds in the source text.
-/

namespace QueryGen

/-- The part of a key that tells loop iterations apart. -/
structure LoopKey where
  /-- The number of the innermost loop. -/
  loopId : Nat
  /-- The index variables of all loops around, the outermost first. -/
  indices : List String
deriving DecidableEq, Repr, Inhabited

/-- The key of a bound value in the map of values. -/
structure BindKey where
  name : String
  /-- Present inside loops. -/
  scope : Option LoopKey := none
deriving DecidableEq, Repr, Inhabited

/-- A value that is bound when the statement runs. -/
structure Binding where
  /-- The Go expression of the value. -/
  expr : String
  key : BindKey
deriving DecidableEq, Repr, Inhabited

/-- A part of the SQL text. -/
inductive Fragment where
  | text (text : String)
  | bind (binding : Binding)
  /-- A Go expression that is quoted as an identifier when the statement runs. -/
  | quote (expr : String)
deriving DecidableEq, Repr, Inhabited

def Fragment.binding? : Fragment → Option Binding
  | bind b => some b
  | _ => none

/-- The variable that numbers the iterations of a loop. -/
inductive LoopIndex where
  /-- The index variable of the loop itself. -/
  | declared (name : String)
  /-- A generated variable in the place of a discarded index. -/
  | synthetic (name : String)
  /-- A generated counter, for an index that is not a position. -/
  | counter (name : String)
deriving DecidableEq, Repr, Inhabited

def LoopIndex.name : LoopIndex → String
  | declared name => name
  | synthetic name => name
  | counter name => name

mutual

/-- A node of a clause tree. -/
inductive Clause where
  /-- Literal text and references that stand side by side. -/
  | sql (builder : String) (fragments : List Fragment)
  | branch (builder cond : String) (body : List Clause) (otherwise : List Branch)
  /-- The body is written to `builder`, then joined into `target` behind a keyword. -/
  | join (kind : JoinKind) (builder target : String) (body : List Clause)
  | loop (id : Nat) (builder : String) (range : ForRange) (index : LoopIndex) (body : List Clause)

/-- An `else`, or an `else if` when there is a condition. -/
inductive Branch where
  | mk (cond : Option String) (body : List Clause)

end

instance : Inhabited Clause := ⟨.sql "" []⟩

instance : Inhabited Branch := ⟨.mk none []⟩

def Branch.cond : Branch → Option String
  | mk cond _ => cond

def Branch.body : Branch → List Clause
  | mk _ body => body

/-- The values that fragments bind, in order. -/
def bindingsOf (fragments : List Fragment) : List Binding := fragments.filterMap Fragment.binding?

mutual

/-- The values that a clause binds, in source order. -/
def Clause.bindings : Clause → List Binding
  | .sql _ fragments => bindingsOf fragments
  | .branch _ _ body otherwise => Clause.bindingsAll body ++ Branch.bindingsAll otherwise
  | .join _ _ _ body => Clause.bindingsAll body
  | .loop _ _ _ _ body => Clause.bindingsAll body

/-- The values that clauses bind, in source order. -/
def Clause.bindingsAll : List Clause → List Binding
  | [] => []
  | c :: rest => c.bindings ++ Clause.bindingsAll rest

/-- The values that a branch binds, in source order. -/
def Branch.bindings : Branch → List Binding
  | .mk _ body => Clause.bindingsAll body

/-- The values that branches bind, in source order. -/
def Branch.bindingsAll : List Branch → List Binding
  | [] => []
  | b :: rest => b.bindings ++ Branch.bindingsAll rest

end

/-- How many values a clause binds in the source text. -/
def Clause.bindCount (c : Clause) : Nat := c.bindings.length

def Clause.hasBindings (c : Clause) : Bool := !c.bindings.isEmpty

theorem Clause.bindingsAll_eq_flatMap (clauses : List Clause) :
    Clause.bindingsAll clauses = clauses.flatMap Clause.bindings := by
  induction clauses with
  | nil => simp [Clause.bindingsAll]
  | cons c rest ih => simp [Clause.bindingsAll, ih]

theorem Clause.bindingsAll_append (a b : List Clause) :
    Clause.bindingsAll (a ++ b) = Clause.bindingsAll a ++ Clause.bindingsAll b := by
  simp [Clause.bindingsAll_eq_flatMap]

theorem Branch.bindingsAll_eq_flatMap (branches : List Branch) :
    Branch.bindingsAll branches = branches.flatMap Branch.bindings := by
  induction branches with
  | nil => simp [Branch.bindingsAll]
  | cons b rest ih => simp [Branch.bindingsAll, ih]

end QueryGen
