import QueryGen.Proofs.Clause.Flatten
import QueryGen.Proofs.Statement.Groups

/-!
# Scopes of statements

Which variables statements name and declare, by the blocks that they stand in.

- `Statement.variables`: what a statement names outside conditions, ranges and its blocks.
- `Statement.InScope`: a statement whose variables are all declared before it, in its block or in
  one around. `allInScope_append` is the rule for statements one after the other.
- `Statement.declaredAll`: all names that statements declare, at any depth.
- `Statement.codes`: the conditions and ranges in a statement.
- `Line.keys`, `anyUsesFormat_iff`: where a key is formatted.
-/

namespace QueryGen

/-! ## Variables -/

/-- The variables that a key is printed with. -/
def Key.variables : Key → List String
  | plain _ => []
  | formatted _ _ indices => indices

/-- The variable that a dotted expression begins with. -/
def exprRoot (expr : String) : String := (ParamRef.ofPath expr).root

/-- The variables that an operand reads. -/
def Operand.variables : Operand → List String
  | text _ => []
  | key k => k.variables
  | quote receiver expr => [receiver, exprRoot expr]

/-- The variables that a statement names outside conditions and ranges, and outside the blocks in
it. -/
def Statement.variables : Statement → List String
  | .put key expr => Reserved.bindings :: exprRoot expr :: key.variables
  | .append expr => [Reserved.bindings, exprRoot expr]
  | .write builder operands => builder :: operands.flatMap Operand.variables
  | .join _ target builder => [target, builder]
  | .stepCounter name => [name]
  | _ => []

/-- The variables that a statement declares for what follows it in its block. -/
def Statement.declares : Statement → List String
  | .declareMap => [Reserved.bindings]
  | .declareList => [Reserved.bindings]
  | .declareBuilder name => [name]
  | .startCounter name => [name]
  | _ => []

/-- The variables that the head of a loop declares for its body. `_` is none. -/
def loopDeclares (index value : String) : List String := [index, value].filter (· ≠ "_")

mutual

/-- Every variable that a statement names is one of `env`, or is declared before it in its block or
in a block around. -/
def Statement.InScope (env : List String) : Statement → Prop
  | .branch _ body alternatives =>
    Statement.AllInScope env body ∧ Alternative.AllInScope env alternatives
  | .loop index value _ body => Statement.AllInScope (loopDeclares index value ++ env) body
  | s => ∀ name ∈ s.variables, name ∈ env

/-- The same for the statements of a block. What one declares is there for those behind it. -/
def Statement.AllInScope (env : List String) : List Statement → Prop
  | [] => True
  | s :: rest => s.InScope env ∧ Statement.AllInScope (s.declares ++ env) rest

/-- The same for alternatives, each with a block of its own. -/
def Alternative.AllInScope (env : List String) : List Alternative → Prop
  | [] => True
  | .mk _ body :: rest => Statement.AllInScope env body ∧ Alternative.AllInScope env rest

end

theorem subset_behind {env env' : List String} (he : env ⊆ env') (names : List String) :
    names ++ env ⊆ names ++ env' :=
  List.append_subset.2 ⟨List.subset_append_left _ _, fun _ hn => List.mem_append_right _ (he hn)⟩

mutual

theorem Statement.InScope.mono {env env' : List String} (he : env ⊆ env') {s : Statement}
    (h : s.InScope env) : s.InScope env' := by
  match s with
  | .branch _ body alternatives =>
    exact ⟨Statement.AllInScope.mono he h.1, Alternative.AllInScope.mono he h.2⟩
  | .loop index value _ body =>
    exact Statement.AllInScope.mono (subset_behind he _) h
  | .put _ _ | .append _ | .write _ _ | .join _ _ _ | .stepCounter _ =>
    exact fun name hn => he (h name hn)
  | .declareMap | .declareList | .declareBuilder _ | .startCounter _ =>
    exact fun name hn => nomatch hn

/-- More variables do no harm. -/
theorem Statement.AllInScope.mono {env env' : List String} (he : env ⊆ env')
    {ss : List Statement} (h : Statement.AllInScope env ss) : Statement.AllInScope env' ss := by
  match ss with
  | [] => trivial
  | s :: rest =>
    exact ⟨Statement.InScope.mono he h.1,
      Statement.AllInScope.mono (subset_behind he _) h.2⟩

theorem Alternative.AllInScope.mono {env env' : List String} (he : env ⊆ env')
    {as : List Alternative} (h : Alternative.AllInScope env as) :
    Alternative.AllInScope env' as := by
  match as with
  | [] => trivial
  | .mk _ body :: rest =>
    exact ⟨Statement.AllInScope.mono he h.1, Alternative.AllInScope.mono he h.2⟩

end

/-- Statements behind others may name what these declare. -/
theorem Statement.AllInScope.append {env : List String} {a b : List Statement}
    (ha : Statement.AllInScope env a)
    (hb : Statement.AllInScope (a.flatMap Statement.declares ++ env) b) :
    Statement.AllInScope env (a ++ b) := by
  induction a generalizing env with
  | nil => exact hb
  | cons s rest ih =>
    refine ⟨ha.1, ih ha.2 (hb.mono fun name hn => ?_)⟩
    simp only [List.flatMap_cons, List.mem_append] at hn ⊢
    tauto

/-! ## Declarations at any depth -/

mutual

/-- The names that a statement declares, and those that are declared in it. -/
def Statement.declared : Statement → List String
  | .branch _ body alternatives =>
    Statement.declaredAll body ++ Alternative.declaredAll alternatives
  | .loop index value _ body => loopDeclares index value ++ Statement.declaredAll body
  | s => s.declares

/-- The names that are declared in statements. -/
def Statement.declaredAll : List Statement → List String
  | [] => []
  | s :: rest => s.declared ++ Statement.declaredAll rest

/-- The names that are declared in alternatives. -/
def Alternative.declaredAll : List Alternative → List String
  | [] => []
  | .mk _ body :: rest => Statement.declaredAll body ++ Alternative.declaredAll rest

end

theorem Statement.declaredAll_append (a b : List Statement) :
    declaredAll (a ++ b) = declaredAll a ++ declaredAll b := by
  induction a with
  | nil => rfl
  | cons s rest ih => simp [declaredAll, ih]

/-! ## Conditions and ranges -/

mutual

/-- The conditions and ranges in a statement, in order. -/
def Statement.codes : Statement → List String
  | .branch cond body alternatives =>
    cond :: (Statement.codesAll body ++ Alternative.codesAll alternatives)
  | .loop _ _ range body => range :: Statement.codesAll body
  | _ => []

/-- The conditions and ranges in statements, in order. -/
def Statement.codesAll : List Statement → List String
  | [] => []
  | s :: rest => s.codes ++ Statement.codesAll rest

/-- The conditions and ranges in alternatives, in order. -/
def Alternative.codesAll : List Alternative → List String
  | [] => []
  | .mk cond body :: rest =>
    cond.toList ++ (Statement.codesAll body ++ Alternative.codesAll rest)

end

theorem Statement.codesAll_append (a b : List Statement) :
    codesAll (a ++ b) = codesAll a ++ codesAll b := by
  induction a with
  | nil => rfl
  | cons s rest ih => simp [codesAll, ih]

/-! ## Formatted keys -/

/-- The keys in an operand. -/
def Operand.key? : Operand → Option Key
  | key k => some k
  | _ => none

/-- The keys in a line. -/
def Line.keys : Line → List Key
  | put _ key _ => [key]
  | write _ _ operands => operands.filterMap Operand.key?
  | _ => []

/-- A formatted key is one that is written as a call of `fmt.Sprintf`. -/
theorem Key.isFormatted_iff {k : Key} :
    k.isFormatted = true ↔ "fmt.Sprintf(".toList <+: k.expr.toList := by
  cases k with
  | plain name =>
    refine iff_of_false Bool.false_ne_true fun h => ?_
    -- a literal begins with its quote
    rw [expr_plain, Go.quote, Go.quoteText, String.toList_ofList, String.toList_ofList,
      List.cons_prefix_cons] at h
    exact absurd h.1 (by decide)
  | formatted name loopId indices =>
    simp only [isFormatted, expr_formatted, String.toList_append, List.append_assoc, true_iff]
    exact List.prefix_append _ _

theorem usesFormat_iff (operands : List Operand) :
    operands.any Operand.usesFormat = true ↔
      ∃ k ∈ operands.filterMap Operand.key?, k.isFormatted = true := by
  simp only [List.any_eq_true, List.mem_filterMap]
  constructor
  · rintro ⟨o, ho, hf⟩
    cases o with
    | key k => exact ⟨k, ⟨_, ho, rfl⟩, hf⟩
    | text cs | quote receiver expr => cases hf
  · rintro ⟨k, ⟨o, ho, hk⟩, hf⟩
    cases o with
    | key k' =>
      cases hk
      exact ⟨_, ho, hf⟩
    | text cs | quote receiver expr => cases hk

mutual

theorem Statement.usesFormat_iff (depth : Nat) (s : Statement) :
    s.usesFormat = true ↔ ∃ l ∈ s.code depth, ∃ k ∈ l.keys, k.isFormatted = true := by
  match s with
  | .declareMap | .declareList | .declareBuilder _ | .join _ _ _ | .startCounter _
  | .stepCounter _ | .append _ => simp [Statement.usesFormat, Statement.code, Line.keys,
      Statement.lines]
  | .put key expr => simp [Statement.usesFormat, Statement.code, Line.keys]
  | .write builder operands =>
    simpa [Statement.usesFormat, Statement.code, Line.keys] using QueryGen.usesFormat_iff operands
  | .branch cond body alternatives =>
    simp [Statement.usesFormat, Statement.code, Line.keys, or_and_right, exists_or,
      Statement.anyUsesFormat_iff (depth + 1) body,
      Alternative.anyUsesFormat_iff depth alternatives]
  | .loop index value range body =>
    simp [Statement.usesFormat, Statement.code, Line.keys, or_and_right, exists_or,
      Statement.anyUsesFormat_iff (depth + 1) body]

/-- A formatted key occurs where a line has one. -/
theorem Statement.anyUsesFormat_iff (depth : Nat) (ss : List Statement) :
    Statement.anyUsesFormat ss = true ↔
      ∃ l ∈ Statement.codeAll depth ss, ∃ k ∈ l.keys, k.isFormatted = true := by
  match ss with
  | [] => simp [Statement.anyUsesFormat, Statement.codeAll]
  | s :: rest =>
    simp [Statement.anyUsesFormat, Statement.codeAll, or_and_right, exists_or,
      Statement.usesFormat_iff depth s, Statement.anyUsesFormat_iff depth rest]

theorem Alternative.anyUsesFormat_iff (depth : Nat) (as : List Alternative) :
    Alternative.anyUsesFormat as = true ↔
      ∃ l ∈ Alternative.codeAll depth as, ∃ k ∈ l.keys, k.isFormatted = true := by
  match as with
  | [] => simp [Alternative.anyUsesFormat, Alternative.codeAll]
  | .mk cond body :: rest =>
    simp [Alternative.anyUsesFormat, Alternative.usesFormat, Alternative.codeAll, Line.keys,
      or_and_right, exists_or, Statement.anyUsesFormat_iff (depth + 1) body,
      Alternative.anyUsesFormat_iff depth rest]

end

end QueryGen
