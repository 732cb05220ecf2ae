import QueryGen.Clause.Build

/-!
# Clause trees as sections

A clause tree read back as the flat list of sections that it stands for.

- `Section.bare`: a section without what name lookup found out about a reference. Building looks
  at nothing else (`step_bare`, `buildClauses_bare`).
- `Clause.flatten`: an opener, the body, for an `if` each `else` with its body, and the `end`.
- `Clause.unnamed`: a clause without the names and numbers that building generates.
-/

namespace QueryGen

/-! ## Sections -/

/-- A reference of which only the path is known. -/
def ParamRef.ofPath (path : String) : ParamRef := ⟨path, .method, .unknown⟩

/-- The section with no more than the path of a reference. -/
def Section.bare : Section → Section
  | data ref => data (.ofPath ref.path)
  | quoted ref => quoted (.ofPath ref.path)
  | s => s

/-! ## Flattening -/

/-- The section that a fragment was made from. -/
def Fragment.section : Fragment → Section
  | text t => .literal t
  | bind b => .data (.ofPath b.expr)
  | quote expr => .quoted (.ofPath expr)

mutual

/-- The sections of a clause. -/
def Clause.flatten : Clause → List Section
  | .sql _ fragments => fragments.map Fragment.section
  | .branch _ cond body otherwise =>
    .branch cond :: (Clause.flattenAll body ++ (Branch.flattenAll otherwise ++ [.close]))
  | .join kind _ _ body => .join kind :: (Clause.flattenAll body ++ [.close])
  | .loop _ _ range _ body => .loop range :: (Clause.flattenAll body ++ [.close])

/-- The sections of clauses, one after the other. -/
def Clause.flattenAll : List Clause → List Section
  | [] => []
  | c :: rest => c.flatten ++ Clause.flattenAll rest

/-- The `else` of a branch and the sections of its body. -/
def Branch.flatten : Branch → List Section
  | .mk cond body => .otherwise cond :: Clause.flattenAll body

/-- The sections of branches, one after the other. -/
def Branch.flattenAll : List Branch → List Section
  | [] => []
  | b :: rest => b.flatten ++ Branch.flattenAll rest

end

theorem Clause.flattenAll_append (a b : List Clause) :
    flattenAll (a ++ b) = flattenAll a ++ flattenAll b := by
  induction a with
  | nil => simp [flattenAll]
  | cons c rest ih => simp [flattenAll, ih]

theorem Clause.flattenAll_singleton (c : Clause) : flattenAll [c] = c.flatten := by
  simp [flattenAll]

theorem Branch.flattenAll_append (a b : List Branch) :
    flattenAll (a ++ b) = flattenAll a ++ flattenAll b := by
  induction a with
  | nil => simp [flattenAll]
  | cons c rest ih => simp [flattenAll, ih]

theorem Branch.flattenAll_singleton (b : Branch) : flattenAll [b] = b.flatten := by
  simp [flattenAll]

/-! ## Names left out -/

/-- The fragment without the key of its binding. -/
def Fragment.unnamed : Fragment → Fragment
  | bind b => .bind ⟨b.expr, ⟨"", none⟩⟩
  | f => f

mutual

/-- The clause without the names and numbers that building generates. -/
def Clause.unnamed : Clause → Clause
  | .sql _ fragments => .sql "" (fragments.map Fragment.unnamed)
  | .branch _ cond body otherwise =>
    .branch "" cond (Clause.unnamedAll body) (Branch.unnamedAll otherwise)
  | .join kind _ _ body => .join kind "" "" (Clause.unnamedAll body)
  | .loop _ _ range _ body => .loop 0 "" range (.declared "") (Clause.unnamedAll body)

/-- Clauses without the names and numbers that building generates. -/
def Clause.unnamedAll : List Clause → List Clause
  | [] => []
  | c :: rest => c.unnamed :: Clause.unnamedAll rest

/-- Branches without the names and numbers that building generates. -/
def Branch.unnamedAll : List Branch → List Branch
  | [] => []
  | .mk cond body :: rest => .mk cond (Clause.unnamedAll body) :: Branch.unnamedAll rest

end

/-! ## Building looks at bare sections -/

namespace Assembly

theorem step_bare (source : String) (a : Assembly) (s : Section) :
    a.step source s.bare = a.step source s := by
  cases s <;> rfl

theorem run_bare (source : String) (a : Assembly) (sections : List Section) :
    a.run source (sections.map Section.bare) = a.run source sections := by
  induction sections generalizing a with
  | nil => rfl
  | cons s rest ih =>
    simp only [List.map_cons, run, step_bare]
    cases a.step source s with
    | error e => rfl
    | ok next => exact ih next

end Assembly

theorem buildClauses_bare (sections : List Section) (source : String) :
    buildClauses (sections.map Section.bare) source = buildClauses sections source := by
  unfold buildClauses
  rw [Assembly.run_bare]

end QueryGen
