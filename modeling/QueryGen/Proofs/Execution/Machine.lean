import Mathlib.Logic.Function.Basic
import QueryGen.Statement.Basic

/-!
# Running generated code

What the statements of a method do when they run.

- `Value`, `World`: the values of Go, and the code around a method.
- `Choice`: what a run finds out about a condition or a range.
- `Machine`: variables, bound values, the texts of builders, and the choices that are left.
- `Statement.exec`: the state behind a statement. There is none when the choices do not fit.
-/

namespace QueryGen

/-- A Go value: an integer, or anything else. -/
inductive Value (α : Type) where
  | int (n : Int)
  | other (a : α)
deriving DecidableEq, Repr

/-- The Go code that a method relies on. -/
structure World (α : Type) where
  /-- How `%v` prints a value that is no integer. -/
  print : α → List Char
  field : Value α → String → Value α
  /-- How the receiver quotes an identifier. -/
  quote : Value α → List Char
  /-- What the text of a block adds to the text that it is joined into. -/
  join : JoinKind → List Char → List Char

/-- What a run finds out where the code does not say. -/
inductive Choice (α : Type) where
  /-- Whether a condition holds. -/
  | test (holds : Bool)
  /-- The indices and values of a range, in order. -/
  | range (pairs : List (Value α × Value α))

/-- The state of a run. -/
structure Machine (α : Type) where
  /-- The parameters of the method, and counters. -/
  globals : String → Value α
  /-- The variables of the loops around, the innermost first. -/
  locals : List (String × Value α) := []
  /-- What was put into the map, the last one last. -/
  puts : List (List Char × Value α) := []
  /-- What was appended to the list. -/
  appended : List (Value α) := []
  texts : String → List Char := fun _ => []
  choices : List (Choice α)

variable {α : Type}

/-- The value behind an integer. -/
def Value.next : Value α → Value α
  | int n => int (n + 1)
  | v => v

namespace World

/-- How `%v` prints a value. -/
def format (w : World α) : Value α → List Char
  | .int n => n.repr.toList
  | .other a => w.print a

/-- The value of a dotted expression. -/
def eval (w : World α) (read : String → Value α) (expr : String) : Value α :=
  match (Text.splitOn '.' expr.toList).map String.ofList with
  | [] => read expr
  | root :: fields => fields.foldl w.field (read root)

/-- A key, printed with the values of its index variables. -/
def printKey (w : World α) (name : String) (loopId : Nat) (indices : List (Value α)) : List Char :=
  name.toList ++ '.' :: (loopId.repr.toList ++ indices.flatMap fun v => '_' :: w.format v)

end World

namespace Machine

/-- The value of a variable. Loops hide what is declared around them. -/
def read (m : Machine α) (name : String) : Value α := (m.locals.lookup name).getD (m.globals name)

/-- The text of a key. -/
def key (w : World α) (m : Machine α) : Key → List Char
  | .plain name => name.toList
  | .formatted name loopId indices => w.printKey name loopId (indices.map m.read)

/-- The text of an operand. -/
def operand (w : World α) (m : Machine α) : Operand → List Char
  | .text cs => cs
  | .key k => m.key w k
  | .quote _ expr => w.quote (w.eval m.read expr)

def write (m : Machine α) (builder : String) (text : List Char) : Machine α :=
  { m with texts := Function.update m.texts builder (m.texts builder ++ text) }

@[simp] theorem puts_write (m : Machine α) (builder : String) (text : List Char) :
    (m.write builder text).puts = m.puts := rfl

@[simp] theorem appended_write (m : Machine α) (builder : String) (text : List Char) :
    (m.write builder text).appended = m.appended := rfl

@[simp] theorem texts_write_self (m : Machine α) (builder : String) (text : List Char) :
    (m.write builder text).texts builder = m.texts builder ++ text := Function.update_self _ _ _

def assign (m : Machine α) (name : String) (v : Value α) : Machine α :=
  { m with globals := Function.update m.globals name v }

/-- The result of the next condition. -/
def test? (m : Machine α) : Option (Bool × Machine α) :=
  match m.choices with
  | .test holds :: rest => some (holds, { m with choices := rest })
  | _ => none

/-- The pairs of the next range. -/
def range? (m : Machine α) : Option (List (Value α × Value α) × Machine α) :=
  match m.choices with
  | .range pairs :: rest => some (pairs, { m with choices := rest })
  | _ => none

/-- Binds the variables of a loop. -/
def enter (m : Machine α) (index value : String) (pair : Value α × Value α) : Machine α :=
  { m with locals := (value, pair.2) :: (index, pair.1) :: m.locals }

/-- Runs the body of a loop for each pair. Its variables end with the body. -/
def passes (index value : String) (body : Machine α → Option (Machine α)) :
    List (Value α × Value α) → Machine α → Option (Machine α)
  | [], m => some m
  | pair :: pairs, m =>
    (body (m.enter index value pair)).bind fun next =>
      passes index value body pairs { next with locals := m.locals }

/-- The value of a key in the map. The last one put counts. -/
def lookup (m : Machine α) (key : List Char) : Option (Value α) :=
  m.puts.reverse.lookup key

end Machine

mutual

/-- The state behind a statement. -/
def Statement.exec (w : World α) : Statement → Machine α → Option (Machine α)
  | .declareMap, m => some { m with puts := [] }
  | .declareList, m => some { m with appended := [] }
  | .declareBuilder name, m => some { m with texts := Function.update m.texts name [] }
  | .put key expr, m => some { m with puts := m.puts ++ [(m.key w key, w.eval m.read expr)] }
  | .append expr, m => some { m with appended := m.appended ++ [w.eval m.read expr] }
  | .write builder operands, m => some (m.write builder (operands.flatMap (m.operand w)))
  | .join kind target builder, m => some (m.write target (w.join kind (m.texts builder)))
  | .startCounter name, m => some (m.assign name (.int 0))
  | .stepCounter name, m => some (m.assign name (m.globals name).next)
  | .branch _ body alternatives, m =>
    m.test?.bind fun (holds, m) =>
      if holds then Statement.execAll w body m else Alternative.execAll w alternatives m
  | .loop index value _ body, m =>
    m.range?.bind fun (pairs, m) => m.passes index value (Statement.execAll w body) pairs

/-- The state behind statements. -/
def Statement.execAll (w : World α) : List Statement → Machine α → Option (Machine α)
  | [], m => some m
  | s :: rest, m => (s.exec w m).bind (Statement.execAll w rest)

/-- The state behind the first alternative that applies. -/
def Alternative.execAll (w : World α) : List Alternative → Machine α → Option (Machine α)
  | [], m => some m
  | .mk none body :: _, m => Statement.execAll w body m
  | .mk (some _) body :: rest, m =>
    m.test?.bind fun (holds, m) =>
      if holds then Statement.execAll w body m else Alternative.execAll w rest m

end

end QueryGen
