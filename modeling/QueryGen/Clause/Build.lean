import QueryGen.Clause.Basic
import QueryGen.Go.Reserved
import QueryGen.Template.Error

/-!
# Building clause trees

The third reading of a template turns the flat list of sections into a tree. It goes through the
sections once and keeps the blocks that are open.

- `Numbering`: how many names of each generated family are in use, and the loops around.
- `Opener`, `Level`: an open block, and what was read before it.
- `Assembly.step`: reads one section.
- `buildClauses`: the clause tree of a list of sections, or the first error.

The grammar: a `where` or `set` block stands at the top or in branches of `if` from the top, never
inside a `where`, a `set` or a `for`. An `else` without a condition is the last branch.
-/

namespace QueryGen

/-! ## Numbers and loops -/

/-- How many names of each generated family are in use, and the loops that are open. -/
structure Numbering where
  wheres : Nat := 0
  sets : Nat := 0
  loopIds : Nat := 0
  indices : Nat := 0
  /-- The number and the index variable of each open loop, the innermost first. -/
  loops : List (Nat × String) := []
deriving DecidableEq, Repr, Inhabited

namespace Numbering

/-- The next builder of a `where` block. -/
def nextWhere (n : Numbering) : String × Numbering :=
  (Reserved.whereBuilder n.wheres, { n with wheres := n.wheres + 1 })

/-- The next builder of a `set` block. -/
def nextSet (n : Numbering) : String × Numbering :=
  (Reserved.setBuilder n.sets, { n with sets := n.sets + 1 })

/-- The next loop number. -/
def nextLoop (n : Numbering) : Nat × Numbering :=
  (n.loopIds, { n with loopIds := n.loopIds + 1 })

/-- The next generated loop variable. -/
def nextIndex (n : Numbering) : String × Numbering :=
  (Reserved.loopIndex n.indices, { n with indices := n.indices + 1 })

/-- The next builder of a block. -/
def nextJoin (n : Numbering) : JoinKind → String × Numbering
  | .filter => n.nextWhere
  | .assign => n.nextSet

def pushLoop (n : Numbering) (id : Nat) (index : String) : Numbering :=
  { n with loops := (id, index) :: n.loops }

def popLoop (n : Numbering) : Numbering := { n with loops := n.loops.tail }

def depth (n : Numbering) : Nat := n.loops.length

/-- The part of a key that tells iterations apart, inside loops. -/
def loopKey? (n : Numbering) : Option LoopKey :=
  match n.loops with
  | [] => none
  | (id, _) :: _ => some ⟨id, (n.loops.map Prod.snd).reverse⟩

@[simp] theorem popLoop_pushLoop (n : Numbering) (id : Nat) (index : String) :
    (n.pushLoop id index).popLoop = n := rfl

/-- The variable that numbers the iterations of a loop. -/
def loopIndex (n : Numbering) (range : ForRange) : LoopIndex × Numbering :=
  if !range.isPositional then
    let (name, n) := n.nextIndex
    (.counter name, n)
  else if range.discardsIndex then
    let (name, n) := n.nextIndex
    (.synthetic name, n)
  else (.declared range.index, n)

end Numbering

/-! ## Open blocks -/

/-- An open block. -/
inductive Opener where
  /-- The first branch of an `if`. -/
  | branch (cond : String)
  /-- A later branch: the first condition and body, the branches closed since, the last of them
  first, and the condition of this one. -/
  | otherwise (cond : String) (body : List Clause) (closed : List Branch) (guard : Option String)
  | join (kind : JoinKind) (builder : String)
  | loop (id : Nat) (range : ForRange) (index : LoopIndex)

namespace Opener

def kind : Opener → BlockKind
  | branch _ => .branch
  | otherwise _ _ _ _ => .otherwise
  | join k _ => .join k
  | loop _ _ _ => .loop

/-- Whether `where` and `set` blocks are refused inside. -/
def isNarrow : Opener → Bool
  | join _ _ => true
  | loop _ _ _ => true
  | _ => false

/-- The builder of the block, if it has one of its own. -/
def builder? : Opener → Option String
  | join _ builder => some builder
  | _ => none

/-- The clause of a block that closes with the given body. `builder` is that of the block around. -/
def clause (builder : String) (body : List Clause) : Opener → Clause
  | branch cond => .branch builder cond body []
  | otherwise cond first closed guard =>
    .branch builder cond first (.mk guard body :: closed).reverse
  | join kind own => .join kind own builder body
  | loop id range index => .loop id builder range index body

end Opener

/-- An open block, and the clauses before it in the block around, the last one first. -/
structure Level where
  opener : Opener
  before : List Clause

/-- The state of the reading. -/
structure Assembly where
  numbering : Numbering
  /-- The open blocks, the innermost first. -/
  levels : List Level := []
  /-- The clauses of the innermost block so far, the last one first. -/
  reversed : List Clause := []

/-- The builder that the innermost of the open blocks writes into. -/
def builderOf (levels : List Level) : String :=
  (levels.findSome? (·.opener.builder?)).getD Reserved.sqlBuilder

/-- The kind of the innermost of the open blocks. -/
def kindOf : List Level → BlockKind
  | [] => .root
  | level :: _ => level.opener.kind

namespace Assembly

def add (a : Assembly) (c : Clause) : Assembly := { a with reversed := c :: a.reversed }

/-- Adds a fragment to the clause that it stands next to, or to a new one. -/
def addFragment (a : Assembly) (f : Fragment) : Assembly :=
  match a.reversed with
  | .sql builder fragments :: rest =>
    { a with reversed := .sql builder (fragments ++ [f]) :: rest }
  | rest => { a with reversed := .sql (builderOf a.levels) [f] :: rest }

/-- Opens a block. -/
def push (a : Assembly) (opener : Opener) : Assembly :=
  { a with levels := ⟨opener, a.reversed⟩ :: a.levels, reversed := [] }

/-- The loops around are those of the open blocks. -/
def popLoop (a : Assembly) : Opener → Assembly
  | .loop _ _ _ => { a with numbering := a.numbering.popLoop }
  | _ => a

/-- Closes the innermost block. -/
def pop (a : Assembly) (level : Level) (levels : List Level) : Assembly :=
  ({ a with
      levels := levels
      reversed := level.opener.clause (builderOf levels) a.reversed.reverse :: level.before
    }).popLoop level.opener

/-- Opens a loop. -/
def openLoop (a : Assembly) (range : ForRange) : Assembly :=
  let (id, n) := a.numbering.nextLoop
  let (index, n) := n.loopIndex range
  { a with numbering := n.pushLoop id index.name }.push (.loop id range index)

/-- Opens a `where` or a `set` block. -/
def openJoin (a : Assembly) (kind : JoinKind) : Assembly :=
  let (builder, n) := a.numbering.nextJoin kind
  { a with numbering := n }.push (.join kind builder)

/-- Goes from one branch of an `if` to the next. -/
def nextBranch (source : String) (a : Assembly) (guard : Option String) :
    Except TemplateError Assembly :=
  match a.levels with
  | [] => .error (.unmatched .otherwise source)
  | level :: levels =>
    match level.opener with
    | .branch cond =>
      let opener := .otherwise cond a.reversed.reverse [] guard
      .ok { a with levels := { level with opener } :: levels, reversed := [] }
    | .otherwise cond first closed (some current) =>
      let branch := .mk (some current) a.reversed.reverse
      let opener := .otherwise cond first (branch :: closed) guard
      .ok { a with levels := { level with opener } :: levels, reversed := [] }
    | .otherwise _ _ _ none => .error (.unmatched .otherwise source)
    | opener => .error (.invalidChild opener.kind .otherwise source)

/-- Reads one section. -/
def step (source : String) (a : Assembly) : Section → Except TemplateError Assembly
  | .literal text => .ok (a.addFragment (.text text))
  | .data ref => .ok (a.addFragment (.bind ⟨ref.path, ⟨ref.path, a.numbering.loopKey?⟩⟩))
  | .quoted ref => .ok (a.addFragment (.quote ref.path))
  | .branch cond => .ok (a.push (.branch cond))
  | .loop range => .ok (a.openLoop range)
  | .join kind =>
    if a.levels.any (·.opener.isNarrow) then
      .error (.invalidChild (kindOf a.levels) (.join kind) source)
    else .ok (a.openJoin kind)
  | .otherwise guard => a.nextBranch source guard
  | .close =>
    match a.levels with
    | [] => .error (.unmatched .close source)
    | level :: levels => .ok (a.pop level levels)

/-- The tree of a finished reading. Every block has to be closed. -/
def finish (source : String) (a : Assembly) : Except TemplateError (List Clause) :=
  match a.levels with
  | [] => .ok a.reversed.reverse
  | level :: _ => .error (.notEnd level.opener.kind source)

/-- The numbering after the reading stops: the loops that it opened are left. -/
def leave (a : Assembly) : Numbering :=
  (a.levels.foldl (fun a level => a.popLoop level.opener) a).numbering

/-- Reads sections to their end or to the first error. -/
def run (source : String) (a : Assembly) :
    List Section → Except TemplateError (List Clause) × Numbering
  | [] => (a.finish source, a.leave)
  | s :: rest =>
    match a.step source s with
    | .ok next => next.run source rest
    | .error e => (.error e, a.leave)

end Assembly

/-- The clause tree of a list of sections. `source` is the text that errors show. -/
def buildClauses (sections : List Section) (source : String) : Except TemplateError (List Clause) :=
  (Assembly.run (trimmed source) ⟨{}, [], []⟩ sections).1

end QueryGen
