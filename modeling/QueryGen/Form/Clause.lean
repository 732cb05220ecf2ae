import QueryGen.Clause.Basic
import QueryGen.Form.Section

/-!
# Clause trees as JSON

- `Clause.toJson`, `Clause.ofJson?`: a clause as a record that names its form in `type`. Branches
  are nested: each holds the next one in `otherwise`.
-/

namespace QueryGen

open Json (str)

/-! ## Keys and fragments

All of them stand inside a clause, which names its form.
-/

def LoopKey.toJson (k : LoopKey) : Json :=
  .record [("for_id", Json.nat k.loopId), ("indices", Json.texts k.indices)]

def LoopKey.ofJson? (t : Json) : Option LoopKey := do
  let f ← t.fields? ["for_id", "indices"]
  return ⟨← f.required "for_id" Json.nat?, ← f.required "indices" (Tree.listOf Tree.text?)⟩

def BindKey.toJson (k : BindKey) : Json :=
  .record [("name", str k.name), ("scope", Json.ofOption LoopKey.toJson k.scope)]

def BindKey.ofJson? (t : Json) : Option BindKey := do
  let f ← t.fields? ["name", "scope"]
  return ⟨← f.required "name" Tree.text?, ← f.optional "scope" LoopKey.ofJson?⟩

def Binding.toJson (b : Binding) : Json :=
  .record [("expr", str b.expr), ("key", b.key.toJson)]

def Binding.ofJson? (t : Json) : Option Binding := do
  let f ← t.fields? ["expr", "key"]
  return ⟨← f.required "expr" Tree.text?, ← f.required "key" BindKey.ofJson?⟩

def Fragment.toJson : Fragment → Json
  | text s => .record [("kind", Json.str "text"), ("value", Json.str s)]
  | bind b => .record [("kind", Json.str "bind"), ("value", b.toJson)]
  | quote expr => .record [("kind", Json.str "quote"), ("value", Json.str expr)]

/-- The names of the forms of fragments, in the order of their numbers. -/
def Fragment.forms : List String := ["text", "bind", "quote"]

def Fragment.ofJson? (t : Json) : Option Fragment := do
  let (kind, content) ← t.adjacent? true Fragment.forms "kind" "value"
  match kind with
  | "text" => return .text (← content.bind Tree.text?)
  | "bind" => return .bind (← content.bind Binding.ofJson?)
  | "quote" => return .quote (← content.bind Tree.text?)
  | _ => none

def LoopIndex.toJson : LoopIndex → Json
  | declared name => .record [("kind", str "declared"), ("name", str name)]
  | synthetic name => .record [("kind", str "synthetic"), ("name", str name)]
  | counter name => .record [("kind", str "counter"), ("name", str name)]

/-- The names of the forms of loop indices, in the order of their numbers. -/
def LoopIndex.forms : List String := ["declared", "synthetic", "counter"]

def LoopIndex.ofJson? (t : Json) : Option LoopIndex := do
  let (kind, content) ← t.adjacent? true LoopIndex.forms "kind" "name"
  match kind with
  | "declared" => return .declared (← content.bind Tree.text?)
  | "synthetic" => return .synthetic (← content.bind Tree.text?)
  | "counter" => return .counter (← content.bind Tree.text?)
  | _ => none

/-! ## Clauses -/

mutual

/-- A clause as JSON. -/
def Clause.toJson : Clause → Json
  | .sql builder fragments =>
    .record [("type", str "sql"), ("builder", str builder),
      ("fragments", Json.array Fragment.toJson fragments)]
  | .branch builder cond body otherwise =>
    .record [("type", str "if"), ("builder", str builder), ("cond", str cond),
      ("body", .list (Clause.toJsonAll body)), ("otherwise", Branch.chain otherwise)]
  | .join kind builder target body =>
    .record [("type", str kind.keyword), ("builder", str builder), ("target", str target),
      ("body", .list (Clause.toJsonAll body))]
  | .loop id builder range index body =>
    .record [("type", str "for"), ("id", Json.nat id), ("builder", str builder),
      ("range", range.toJson), ("key_index", index.toJson),
      ("body", .list (Clause.toJsonAll body))]

/-- Clauses as JSON. -/
def Clause.toJsonAll : List Clause → List Json
  | [] => []
  | c :: rest => c.toJson :: Clause.toJsonAll rest

/-- A branch that holds the branches behind it. -/
def Branch.toJson (rest : Json) : Branch → Json
  | .mk cond body =>
    .record [("cond", Json.ofOption str cond), ("body", .list (Clause.toJsonAll body)),
      ("otherwise", rest)]

/-- Branches, each inside the one before it. -/
def Branch.chain : List Branch → Json
  | [] => Json.null
  | b :: rest => b.toJson (Branch.chain rest)

end

/-- A `where` or `set` block whose body consists of what `read` reads. -/
def Clause.readJoin (read : Json → Option Clause) (kind : JoinKind) (t : Json) :
    Option Clause := do
  let f ← t.fields? ["builder", "target", "body"]
  return .join kind (← f.required "builder" Tree.text?) (← f.required "target" Tree.text?)
    (← f.required "body" (Tree.listOf read))

/-- The names of the forms of clauses, in the order of their numbers. -/
def Clause.forms : List String := ["sql", "if", "where", "set", "for"]

mutual

/-- The clause of a value of at most so many levels. -/
def Clause.read : Nat → Bool → Json → Option Clause
  | 0, _, _ => none
  | n + 1, nested, t => do
    let (kind, t) ← t.tagged? nested Clause.forms "type"
    match kind with
    | "sql" => do
      let f ← t.fields? ["builder", "fragments"]
      return .sql (← f.required "builder" Tree.text?)
        (← f.required "fragments" (Tree.listOf Fragment.ofJson?))
    | "if" => do
      let f ← t.fields? ["builder", "cond", "body", "otherwise"]
      return .branch (← f.required "builder" Tree.text?) (← f.required "cond" Tree.text?)
        (← f.required "body" (Tree.listOf (Clause.read n true)))
        (← f.optional "otherwise" (Branch.readChain n)).toList.flatten
    | "where" => Clause.readJoin (Clause.read n true) .filter t
    | "set" => Clause.readJoin (Clause.read n true) .assign t
    | "for" => do
      let f ← t.fields? ["id", "builder", "range", "key_index", "body"]
      return .loop (← f.required "id" Json.nat?) (← f.required "builder" Tree.text?)
        (← f.required "range" (ForRange.ofNested? true))
        (← f.required "key_index" LoopIndex.ofJson?)
        (← f.required "body" (Tree.listOf (Clause.read n true)))
    | _ => none

/-- A branch and the branches that it holds. -/
def Branch.readChain : Nat → Json → Option (List Branch)
  | 0, _ => none
  | n + 1, t => do
    let f ← t.fields? ["cond", "body", "otherwise"]
    let cond ← f.optional "cond" Tree.text?
    let body ← f.required "body" (Tree.listOf (Clause.read n true))
    let rest ← f.optional "otherwise" (Branch.readChain n)
    return .mk cond body :: rest.toList.flatten

end

/-- The clause that a value describes. -/
def Clause.ofJson? (t : Json) : Option Clause := Clause.read t.depth false t

end QueryGen
