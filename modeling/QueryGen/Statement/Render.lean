import QueryGen.Clause.Basic
import QueryGen.Statement.Basic
import QueryGen.Template.Scope

/-!
# From clauses to statements

- `operandsOf`: the text of a SQL clause, its blank ends trimmed and one space at its end.
- `bindingsStatements`: the statements that bind the values of a SQL clause.
- `Clause.statements`: the statements of a clause, in the order of the tree.
- `methodStatements`: the statements of a template, its declarations first.
-/

namespace QueryGen

open Template (BindStyle Options)

/-! ## SQL text -/

/-- Adds text behind operands. It becomes part of a text that stands there. -/
def addText (cs : List Char) : List Operand → List Operand
  | [] => [.text cs]
  | [.text last] => [.text (last ++ cs)]
  | o :: rest => o :: addText cs rest

/-- The key of a binding. -/
def BindKey.key (k : BindKey) : Key :=
  match k.scope with
  | none => .plain k.name
  | some s => .formatted k.name s.loopId s.indices

/-- Adds the placeholder of a binding. -/
def addPlaceholder (style : BindStyle) (b : Binding) (operands : List Operand) : List Operand :=
  match style, b.key.key with
  | .positional, _ => addText ['?'] operands
  | .named, .plain name => addText ('@' :: name.toList) operands
  | .named, key => addText ['@'] operands ++ [.key key]

/-- Adds a fragment. -/
def addFragment (opts : Options) (operands : List Operand) : Fragment → List Operand
  | .text text => addText text.toList operands
  | .bind b => addPlaceholder opts.bindStyle b operands
  | .quote expr => operands ++ [.quote opts.receiver expr]

/-- Drops blanks at the start of the first operand. -/
def trimFirst : List Operand → List Operand
  | .text cs :: rest => .text (Text.trimStart cs) :: rest
  | operands => operands

/-- Drops blanks at the end of the last operand. -/
def trimLast : List Operand → List Operand
  | [] => []
  | [.text cs] => [.text (Text.trimEnd cs)]
  | o :: rest => o :: trimLast rest

/-- The operands of a SQL clause. There are none when all of its text is blank. -/
def operandsOf (opts : Options) (fragments : List Fragment) : List Operand :=
  let operands := fragments.foldl (addFragment opts) []
  match (trimLast (trimFirst operands)).filter (· ≠ .text []) with
  | [] => []
  | operands => addText [' '] operands

/-- The statement that binds a value. -/
def Binding.statement (style : BindStyle) (b : Binding) : Statement :=
  match style with
  | .named => .put b.key.key b.expr
  | .positional => .append b.expr

/-- The statements of a SQL clause: its bindings, then the write that holds their placeholders. -/
def sqlStatements (opts : Options) (builder : String) (fragments : List Fragment) :
    List Statement :=
  match operandsOf opts fragments with
  | [] => []
  | operands =>
    (bindingsOf fragments).map (Binding.statement opts.bindStyle) ++ [.write builder operands]

/-! ## Blocks -/

/-- Whether a loop has to number its iterations: some key in its body does. -/
def isNumbered (opts : Options) (body : List Clause) : Bool :=
  opts.bindStyle == .named && body.any Clause.hasBindings

/-- The statements of a loop over the statements of its body. -/
def loopStatements (numbered : Bool) (range : ForRange) (index : LoopIndex)
    (body : List Statement) : List Statement :=
  match numbered, index with
  | true, .counter name =>
    [.startCounter name,
      .loop range.index range.value range.range (body ++ [.stepCounter name])]
  | true, .synthetic name => [.loop name range.value range.range body]
  | _, _ => [.loop range.index range.value range.range body]

mutual

/-- The statements of a clause. -/
def Clause.statements (opts : Options) : Clause → List Statement
  | .sql builder fragments => sqlStatements opts builder fragments
  | .branch _ cond body otherwise =>
    [.branch cond (Clause.statementsAll opts body) (Branch.alternatives opts otherwise)]
  | .join kind builder target body =>
    .declareBuilder builder :: (Clause.statementsAll opts body ++ [.join kind target builder])
  | .loop _ _ range index body =>
    loopStatements (isNumbered opts body) range index (Clause.statementsAll opts body)

/-- The statements of clauses. -/
def Clause.statementsAll (opts : Options) : List Clause → List Statement
  | [] => []
  | c :: rest => c.statements opts ++ Clause.statementsAll opts rest

/-- The alternative of a branch. -/
def Branch.alternative (opts : Options) : Branch → Alternative
  | .mk cond body => .mk cond (Clause.statementsAll opts body)

/-- The alternatives of branches. -/
def Branch.alternatives (opts : Options) : List Branch → List Alternative
  | [] => []
  | b :: rest => b.alternative opts :: Branch.alternatives opts rest

end

theorem Clause.statementsAll_append (opts : Options) (a b : List Clause) :
    Clause.statementsAll opts (a ++ b) =
      Clause.statementsAll opts a ++ Clause.statementsAll opts b := by
  induction a with
  | nil => simp [Clause.statementsAll]
  | cons c rest ih => simp [Clause.statementsAll, ih]

/-- The declaration of the container of bound values. -/
def declareBindings : BindStyle → Statement
  | .named => .declareMap
  | .positional => .declareList

/-- The statements of a template. The container of bound values is declared where it is used. -/
def methodStatements (opts : Options) (clauses : List Clause) : List Statement :=
  (if clauses.any Clause.hasBindings then [declareBindings opts.bindStyle] else []) ++
    .declareBuilder Reserved.sqlBuilder :: Clause.statementsAll opts clauses

end QueryGen
