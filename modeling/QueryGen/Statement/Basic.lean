import QueryGen.Go.Literal
import QueryGen.Go.Reserved
import QueryGen.Template.Section

/-!
# Go statements of a generated method

The statements that assemble a SQL text and its bound values.

- `Key`: the key of a bound value, the same in every run or formatted from loop variables.
- `Operand`: a part of the text that is written.
- `Statement`, `Alternative`: statements with their blocks.
- `Statement.lines`: the lines of a statement, indented by tabs.
- `Statement.usesFormat`: whether a formatted key occurs.
-/

namespace QueryGen

/-- The key of a bound value. -/
inductive Key where
  | plain (name : String)
  /-- A key with the number of a loop and the values of loop variables. -/
  | formatted (name : String) (loopId : Nat) (indices : List String)
deriving DecidableEq, Repr, Inhabited

namespace Key

/-- The format of a formatted key. -/
def format (name : String) (loopId : Nat) (indices : List String) : String :=
  name ++ "." ++ loopId.repr ++ String.join (indices.map fun _ => "_%v")

/-- The Go expression of a key. -/
def expr : Key → String
  | plain name => Go.quote name
  | formatted name loopId indices =>
    "fmt.Sprintf(" ++ Go.quote (format name loopId indices) ++ ", " ++
      ", ".intercalate indices ++ ")"

theorem expr_plain (name : String) : (plain name).expr = Go.quote name := rfl

theorem expr_formatted (name : String) (loopId : Nat) (indices : List String) :
    (formatted name loopId indices).expr = "fmt.Sprintf(" ++ Go.quote (format name loopId indices) ++
      ", " ++ ", ".intercalate indices ++ ")" := rfl

def isFormatted : Key → Bool
  | plain _ => false
  | formatted _ _ _ => true

end Key

/-- A part of a text that is written. -/
inductive Operand where
  | text (text : List Char)
  | key (key : Key)
  /-- An identifier that the receiver quotes. -/
  | quote (receiver expr : String)
deriving DecidableEq, Repr, Inhabited

namespace Operand

/-- The Go expression of an operand. -/
def expr : Operand → String
  | text cs => .ofList (Go.quoteText cs)
  | key k => k.expr
  | quote receiver e => receiver ++ ".Quote(" ++ e ++ ")"

def usesFormat : Operand → Bool
  | key k => k.isFormatted
  | _ => false

end Operand

mutual

/-- A statement. -/
inductive Statement where
  /-- Declares the map of bound values. -/
  | declareMap
  /-- Declares the list of bound values. -/
  | declareList
  | declareBuilder (name : String)
  /-- Puts a value into the map. -/
  | put (key : Key) (expr : String)
  /-- Appends a value to the list. -/
  | append (expr : String)
  | write (builder : String) (operands : List Operand)
  /-- Joins a builder into another one behind a keyword. -/
  | join (kind : JoinKind) (target builder : String)
  | startCounter (name : String)
  | stepCounter (name : String)
  | branch (cond : String) (body : List Statement) (alternatives : List Alternative)
  /-- A loop over a range. A pair of discarded variables is left out. -/
  | loop (index value range : String) (body : List Statement)

/-- An `else`, or an `else if` when there is a condition. -/
inductive Alternative where
  | mk (cond : Option String) (body : List Statement)

end

instance : Inhabited Statement := ⟨.declareMap⟩

/-! ## Text -/

/-- The function that joins a block into its target. -/
def JoinKind.helper : JoinKind → String
  | filter => "JoinWhereBuilder"
  | assign => "JoinSetBuilder"

/-- The head of a loop. -/
def loopHead (index value range : String) : String :=
  if index = "_" ∧ value = "_" then "for range " ++ range ++ " \x7b"
  else "for " ++ index ++ ", " ++ value ++ " := range " ++ range ++ " \x7b"

/-- The line that closes one branch and opens the next. -/
def alternativeHead : Option String → String
  | some cond => "\x7d else if " ++ cond ++ " \x7b"
  | none => "\x7d else \x7b"

/-- A line indented by `depth` tabs. -/
def indent (depth : Nat) (line : String) : String :=
  .ofList (List.replicate depth '\t') ++ line

mutual

/-- The lines of a statement at a depth. -/
def Statement.lines (depth : Nat) : Statement → List String
  | .declareMap => [indent depth (Reserved.bindings ++ " := make(map[string]interface\x7b\x7d)")]
  | .declareList => [indent depth ("var " ++ Reserved.bindings ++ " []interface\x7b\x7d")]
  | .declareBuilder name => [indent depth ("var " ++ name ++ " strings.Builder")]
  | .put key expr => [indent depth (Reserved.bindings ++ "[" ++ key.expr ++ "] = " ++ expr)]
  | .append expr =>
    [indent depth
      (Reserved.bindings ++ " = append(" ++ Reserved.bindings ++ ", " ++ expr ++ ")")]
  | .write builder operands =>
    [indent depth
      (builder ++ ".WriteString(" ++ " + ".intercalate (operands.map Operand.expr) ++ ")")]
  | .join kind target builder =>
    [indent depth (kind.helper ++ "(&" ++ target ++ ", &" ++ builder ++ ")")]
  | .startCounter name => [indent depth (name ++ " := 0")]
  | .stepCounter name => [indent depth (name ++ "++")]
  | .branch cond body alternatives =>
    indent depth ("if " ++ cond ++ " \x7b") :: (Statement.linesAll (depth + 1) body ++
      Alternative.linesAll depth alternatives ++ [indent depth "\x7d"])
  | .loop index value range body =>
    indent depth (loopHead index value range) :: (Statement.linesAll (depth + 1) body ++
      [indent depth "\x7d"])

/-- The lines of statements at a depth. -/
def Statement.linesAll (depth : Nat) : List Statement → List String
  | [] => []
  | s :: rest => s.lines depth ++ Statement.linesAll depth rest

/-- The lines of an alternative, without the brace that closes it. -/
def Alternative.lines (depth : Nat) : Alternative → List String
  | .mk cond body => indent depth (alternativeHead cond) :: Statement.linesAll (depth + 1) body

/-- The lines of alternatives, without the last closing brace. -/
def Alternative.linesAll (depth : Nat) : List Alternative → List String
  | [] => []
  | a :: rest => a.lines depth ++ Alternative.linesAll depth rest

end

mutual

/-- Whether a formatted key occurs in a statement. -/
def Statement.usesFormat : Statement → Bool
  | .put key _ => key.isFormatted
  | .write _ operands => operands.any Operand.usesFormat
  | .branch _ body alternatives =>
    Statement.anyUsesFormat body || Alternative.anyUsesFormat alternatives
  | .loop _ _ _ body => Statement.anyUsesFormat body
  | _ => false

/-- Whether a formatted key occurs in statements. -/
def Statement.anyUsesFormat : List Statement → Bool
  | [] => false
  | s :: rest => s.usesFormat || Statement.anyUsesFormat rest

/-- Whether a formatted key occurs in an alternative. -/
def Alternative.usesFormat : Alternative → Bool
  | .mk _ body => Statement.anyUsesFormat body

/-- Whether a formatted key occurs in alternatives. -/
def Alternative.anyUsesFormat : List Alternative → Bool
  | [] => false
  | a :: rest => a.usesFormat || Alternative.anyUsesFormat rest

end

theorem Statement.linesAll_append (depth : Nat) (a b : List Statement) :
    Statement.linesAll depth (a ++ b) =
      Statement.linesAll depth a ++ Statement.linesAll depth b := by
  induction a with
  | nil => simp [Statement.linesAll]
  | cons s rest ih => simp [Statement.linesAll, ih]

theorem Statement.anyUsesFormat_append (a b : List Statement) :
    Statement.anyUsesFormat (a ++ b) =
      (Statement.anyUsesFormat a || Statement.anyUsesFormat b) := by
  induction a with
  | nil => simp [Statement.anyUsesFormat]
  | cons s rest ih => simp [Statement.anyUsesFormat, ih, Bool.or_assoc]

end QueryGen
