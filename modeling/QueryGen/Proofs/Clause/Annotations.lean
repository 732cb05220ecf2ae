import Mathlib.Data.List.Intervals
import QueryGen.Proofs.Execution.Sites

/-!
# The annotations of a built tree

Building writes builders, numbers, index variables and keys into a tree while it goes through the
sections. Here they are described by the tree alone.

- `Clause.Placed`: every clause writes to the builder of the nearest `where` or `set` around it,
  and every key has the loops around it.
- `Clause.nodes`: a clause and all clauses inside it, in source order. Its blocks are the openers
  of its sections (`openings_nodesAll`).
- `Frame.Chosen`: a loop has the index variable that its range asks for.
- `Numbering.Hands`: the numbers between two numberings went to the given clauses, in their order.
  It composes (`Hands.trans`), so `hands_number` goes by recursion on the tree.
- `Assembly.Balanced`: the open loops of the numbering are those of the open blocks.
- `buildClauses_annotated`: all of this for every tree that is built.
-/

namespace QueryGen

/-! ## Builders and keys -/

/-- The part of a key that tells apart the iterations of the loops around, the innermost first. -/
def Frame.scope : List Frame → Option LoopKey
  | [] => none
  | f :: outer => some ⟨f.id, (f :: outer).reverse.map (·.index.name)⟩

mutual

/-- A clause inside the given loops, the innermost first, in a block that writes to `builder`. -/
def Clause.Placed (builder : String) (loops : List Frame) : Clause → Prop
  | .sql own fragments =>
    own = builder ∧ ∀ b ∈ bindingsOf fragments, b.key.scope = Frame.scope loops
  | .branch own _ body otherwise =>
    own = builder ∧ Clause.AllPlaced builder loops body ∧ Branch.AllPlaced builder loops otherwise
  | .join _ own target body => target = builder ∧ Clause.AllPlaced own loops body
  | .loop id own range index body =>
    own = builder ∧ Clause.AllPlaced builder (⟨id, range, index⟩ :: loops) body

/-- Clauses inside the given loops. -/
def Clause.AllPlaced (builder : String) (loops : List Frame) : List Clause → Prop
  | [] => True
  | c :: rest => c.Placed builder loops ∧ Clause.AllPlaced builder loops rest

/-- Branches inside the given loops. -/
def Branch.AllPlaced (builder : String) (loops : List Frame) : List Branch → Prop
  | [] => True
  | .mk _ body :: rest =>
    Clause.AllPlaced builder loops body ∧ Branch.AllPlaced builder loops rest

end

/-- The open loops of a numbering are the given ones. -/
def Numbering.Inside (n : Numbering) (loops : List Frame) : Prop :=
  n.loops = loops.map fun f => (f.id, f.index.name)

theorem Numbering.Inside.loopKey? {n : Numbering} {loops : List Frame} (h : n.Inside loops) :
    n.loopKey? = Frame.scope loops := by
  unfold Numbering.loopKey?
  rw [h]
  cases loops with
  | nil => rfl
  | cons f outer => simp [Frame.scope, Function.comp_def]

theorem Numbering.Inside.of_grows {n n' : Numbering} {loops : List Frame} (h : n.Inside loops)
    (hg : n.Grows n') : n'.Inside loops := hg.loops.trans h

theorem Fragment.scope_number {scope : Option LoopKey} {fragments : List Fragment} {b : Binding}
    (h : b ∈ bindingsOf (fragments.map (Fragment.number scope))) : b.key.scope = scope := by
  obtain ⟨f', hf', hb⟩ := List.mem_filterMap.1 h
  obtain ⟨f, -, rfl⟩ := List.mem_map.1 hf'
  cases f with
  | bind own => cases hb; rfl
  | text t | quote e => cases hb

mutual

theorem Clause.placed_number {n : Numbering} {loops : List Frame} (h : n.Inside loops)
    (builder : String) (c : Clause) : (c.number n builder).1.Placed builder loops := by
  match c with
  | .sql _ fragments =>
    exact ⟨rfl, fun b hb => (Fragment.scope_number hb).trans h.loopKey?⟩
  | .branch _ cond body otherwise =>
    exact ⟨rfl, Clause.allPlaced_numberAll h builder body, Branch.allPlaced_numberAll
      (h.of_grows (Clause.grows_numberAll n builder body)) builder otherwise⟩
  | .join kind _ _ body =>
    exact ⟨rfl, Clause.allPlaced_numberAll (h.of_grows (n.grows_nextJoin kind)) _ body⟩
  | .loop _ _ range _ body =>
    have hg := n.grows_nextLoop.trans (n.nextLoop.2.grows_loopIndex range)
    refine ⟨rfl, Clause.allPlaced_numberAll ?_ builder body⟩
    rw [Numbering.Inside] at h
    simp only [Numbering.Inside, Numbering.pushLoop, hg.loops, h, List.map_cons]

theorem Clause.allPlaced_numberAll {n : Numbering} {loops : List Frame} (h : n.Inside loops)
    (builder : String) (cs : List Clause) :
    Clause.AllPlaced builder loops (Clause.numberAll n builder cs).1 := by
  match cs with
  | [] => trivial
  | c :: rest =>
    exact ⟨Clause.placed_number h builder c,
      Clause.allPlaced_numberAll (h.of_grows (Clause.grows_number n builder c)) builder rest⟩

theorem Branch.allPlaced_numberAll {n : Numbering} {loops : List Frame} (h : n.Inside loops)
    (builder : String) (bs : List Branch) :
    Branch.AllPlaced builder loops (Branch.numberAll n builder bs).1 := by
  match bs with
  | [] => trivial
  | .mk cond body :: rest =>
    exact ⟨Clause.allPlaced_numberAll h builder body, Branch.allPlaced_numberAll
      (h.of_grows (Clause.grows_numberAll n builder body)) builder rest⟩

end

/-! ## Clauses in source order -/

mutual

/-- A clause and all clauses inside it, in source order. -/
def Clause.nodes : Clause → List Clause
  | .sql own fragments => [.sql own fragments]
  | .branch own cond body otherwise =>
    .branch own cond body otherwise :: (Clause.nodesAll body ++ Branch.nodesAll otherwise)
  | .join kind own target body => .join kind own target body :: Clause.nodesAll body
  | .loop id own range index body => .loop id own range index body :: Clause.nodesAll body

/-- Clauses and all clauses inside them, in source order. -/
def Clause.nodesAll : List Clause → List Clause
  | [] => []
  | c :: rest => c.nodes ++ Clause.nodesAll rest

/-- The clauses inside branches, in source order. -/
def Branch.nodesAll : List Branch → List Clause
  | [] => []
  | .mk _ body :: rest => Clause.nodesAll body ++ Branch.nodesAll rest

end

namespace Clause

/-- The section that opens the clause, if it is a block. -/
def opening? : Clause → Option Section
  | sql _ _ => none
  | branch _ cond _ _ => some (.branch cond)
  | join kind _ _ _ => some (.join kind)
  | loop _ _ range _ _ => some (.loop range)

/-- The clause as a loop around others. -/
def frame? : Clause → Option Frame
  | loop id _ range index _ => some ⟨id, range, index⟩
  | _ => none

/-- The builder of the clause, if it is a block of the given kind. -/
def builder? (kind : JoinKind) : Clause → Option String
  | join k own _ _ => if k = kind then some own else none
  | _ => none

end Clause

theorem Fragment.filter_sections (fragments : List Fragment) :
    (fragments.map Fragment.section).filter (·.kind.isOpener) = [] := by
  rw [List.filter_eq_nil_iff]
  intro s hs
  obtain ⟨f, -, rfl⟩ := List.mem_map.1 hs
  cases f <;> simp [Fragment.section, Section.kind, SectionKind.isOpener]

theorem Section.filter_close : [Section.close].filter (·.kind.isOpener) = [] := rfl

mutual

theorem Clause.openings_nodes (c : Clause) :
    c.nodes.filterMap Clause.opening? = c.flatten.filter (·.kind.isOpener) := by
  match c with
  | .sql _ fragments =>
    rw [Clause.flatten, Fragment.filter_sections]
    rfl
  | .branch _ cond body otherwise =>
    rw [Clause.nodes, Clause.flatten, List.filterMap_cons, List.filter_cons_of_pos rfl,
      List.filterMap_append, List.filter_append, List.filter_append, Section.filter_close,
      List.append_nil, Clause.openings_nodesAll body, Branch.openings_nodesAll otherwise]
    rfl
  | .join _ _ _ body | .loop _ _ _ _ body =>
    rw [Clause.nodes, Clause.flatten, List.filterMap_cons, List.filter_cons_of_pos rfl,
      List.filter_append, Section.filter_close, List.append_nil, Clause.openings_nodesAll body]
    rfl

/-- The blocks among clauses are the openers of their sections. -/
theorem Clause.openings_nodesAll (cs : List Clause) :
    (Clause.nodesAll cs).filterMap Clause.opening? =
      (Clause.flattenAll cs).filter (·.kind.isOpener) := by
  match cs with
  | [] => rfl
  | c :: rest =>
    rw [Clause.nodesAll, Clause.flattenAll, List.filterMap_append, List.filter_append,
      Clause.openings_nodes c, Clause.openings_nodesAll rest]

theorem Branch.openings_nodesAll (bs : List Branch) :
    (Branch.nodesAll bs).filterMap Clause.opening? =
      (Branch.flattenAll bs).filter (·.kind.isOpener) := by
  match bs with
  | [] => rfl
  | .mk cond body :: rest =>
    rw [Branch.nodesAll, Branch.flattenAll, Branch.flatten, List.cons_append,
      List.filter_cons_of_neg (by simp [Section.kind, SectionKind.isOpener]),
      List.filterMap_append, List.filter_append, Clause.openings_nodesAll body,
      Branch.openings_nodesAll rest]

end

theorem Section.filter_bare (sections : List Section) :
    (sections.map Section.bare).filter (·.kind.isOpener) =
      sections.filter (·.kind.isOpener) := by
  induction sections with
  | nil => rfl
  | cons s rest ih =>
    rw [List.map_cons, List.filter_cons, List.filter_cons, ih]
    cases s <;> rfl

/-! ## Numbers in source order -/

/-- The name of an index variable that was generated. -/
def LoopIndex.generated? : LoopIndex → Option String
  | declared _ => none
  | synthetic name => some name
  | counter name => some name

/-- The index variable is of the sort that the range asks for. The three sorts of ranges exclude
each other and there is no fourth. -/
def Frame.Chosen (f : Frame) : Prop :=
  match f.index with
  | .counter _ => f.range.isPositional = false
  | .synthetic _ => f.range.isPositional = true ∧ f.range.discardsIndex = true
  | .declared name =>
    f.range.isPositional = true ∧ f.range.discardsIndex = false ∧ name = f.range.index

/-- The loops among clauses. -/
def framesOf (nodes : List Clause) : List Frame := nodes.filterMap Clause.frame?

/-- The generated index variables of loops. -/
def indicesOf (loops : List Frame) : List String := loops.filterMap (·.index.generated?)

/-- The builders of the blocks of one kind among clauses. -/
def buildersOf (kind : JoinKind) (nodes : List Clause) : List String :=
  nodes.filterMap (Clause.builder? kind)

namespace Numbering

/-- The numbers from one numbering to a later one went to the given clauses in their order. -/
structure Hands (n n' : Numbering) (nodes : List Clause) : Prop where
  idsLe : n.loopIds ≤ n'.loopIds
  ids : (framesOf nodes).map Frame.id = List.Ico n.loopIds n'.loopIds
  indicesLe : n.indices ≤ n'.indices
  indices : indicesOf (framesOf nodes) = (List.Ico n.indices n'.indices).map Reserved.loopIndex
  wheresLe : n.wheres ≤ n'.wheres
  wheres : buildersOf .filter nodes = (List.Ico n.wheres n'.wheres).map Reserved.whereBuilder
  setsLe : n.sets ≤ n'.sets
  sets : buildersOf .assign nodes = (List.Ico n.sets n'.sets).map Reserved.setBuilder
  chosen : ∀ f ∈ framesOf nodes, f.Chosen

variable {n n' n'' : Numbering} {nodes nodes' : List Clause}

theorem Hands.trans (h : n.Hands n' nodes) (h' : n'.Hands n'' nodes') :
    n.Hands n'' (nodes ++ nodes') where
  idsLe := h.idsLe.trans h'.idsLe
  ids := by
    rw [← List.Ico.append_consecutive h.idsLe h'.idsLe, ← h.ids, ← h'.ids]
    simp [framesOf]
  indicesLe := h.indicesLe.trans h'.indicesLe
  indices := by
    rw [← List.Ico.append_consecutive h.indicesLe h'.indicesLe, List.map_append, ← h.indices,
      ← h'.indices]
    simp [framesOf, indicesOf]
  wheresLe := h.wheresLe.trans h'.wheresLe
  wheres := by
    rw [← List.Ico.append_consecutive h.wheresLe h'.wheresLe, List.map_append, ← h.wheres,
      ← h'.wheres]
    simp [buildersOf]
  setsLe := h.setsLe.trans h'.setsLe
  sets := by
    rw [← List.Ico.append_consecutive h.setsLe h'.setsLe, List.map_append, ← h.sets, ← h'.sets]
    simp [buildersOf]
  chosen f hf := by
    rw [framesOf, List.filterMap_append, List.mem_append] at hf
    exact hf.elim (h.chosen f) (h'.chosen f)

/-- A clause that is neither a loop nor a `where` or a `set` takes no number. -/
theorem Hands.plain (n : Numbering) (nodes : List Clause) (hf : framesOf nodes = [])
    (hb : ∀ kind, buildersOf kind nodes = []) : n.Hands n nodes := by
  constructor <;> simp [hf, hb, indicesOf]

/-- Open loops are not counted. -/
theorem Hands.inLoop {id : Nat} {index : String} (h : (n.pushLoop id index).Hands n' nodes) :
    n.Hands n'.popLoop nodes :=
  ⟨h.idsLe, h.ids, h.indicesLe, h.indices, h.wheresLe, h.wheres, h.setsLe, h.sets, h.chosen⟩

theorem hands_nextJoin (n : Numbering) (kind : JoinKind) (target : String) (body : List Clause) :
    n.Hands (n.nextJoin kind).2 [.join kind (n.nextJoin kind).1 target body] := by
  cases kind <;>
    constructor <;>
      simp [nextJoin, nextWhere, nextSet, buildersOf, framesOf, indicesOf, Clause.builder?,
        Clause.frame?, List.Ico.succ_singleton]

/-- The index variable of a loop is generated with the next number or the loop's own. -/
theorem hands_nextLoop (n : Numbering) (builder : String) (range : ForRange)
    (body : List Clause) :
    n.Hands (n.nextLoop.2.loopIndex range).2
      [.loop n.nextLoop.1 builder range (n.nextLoop.2.loopIndex range).1 body] := by
  cases hp : range.isPositional with
  | false =>
    constructor <;>
      simp [loopIndex, hp, nextLoop, nextIndex, buildersOf, framesOf, indicesOf, Clause.builder?,
        Clause.frame?, LoopIndex.generated?, Frame.Chosen, List.Ico.succ_singleton]
  | true =>
    cases hd : range.discardsIndex <;>
      constructor <;>
        simp [loopIndex, hp, hd, nextLoop, nextIndex, buildersOf, framesOf, indicesOf,
          Clause.builder?, Clause.frame?, LoopIndex.generated?, Frame.Chosen,
          List.Ico.succ_singleton]

end Numbering

mutual

theorem Clause.hands_number (n : Numbering) (builder : String) (c : Clause) :
    n.Hands (c.number n builder).2 (c.number n builder).1.nodes := by
  match c with
  | .sql _ fragments => exact .plain n _ rfl fun _ => rfl
  | .branch _ cond body otherwise =>
    exact (Numbering.Hands.plain n [.branch ..] rfl fun _ => rfl).trans
      ((Clause.hands_numberAll n builder body).trans
        (Branch.hands_numberAll _ builder otherwise))
  | .join kind _ _ body =>
    exact (n.hands_nextJoin kind builder _).trans (Clause.hands_numberAll _ _ body)
  | .loop _ _ range _ body =>
    exact (n.hands_nextLoop builder range _).trans (Clause.hands_numberAll _ builder body).inLoop

/-- Numbers are handed out in source order. -/
theorem Clause.hands_numberAll (n : Numbering) (builder : String) (cs : List Clause) :
    n.Hands (Clause.numberAll n builder cs).2
      (Clause.nodesAll (Clause.numberAll n builder cs).1) := by
  match cs with
  | [] => exact .plain n _ rfl fun _ => rfl
  | c :: rest =>
    exact (Clause.hands_number n builder c).trans (Clause.hands_numberAll _ builder rest)

theorem Branch.hands_numberAll (n : Numbering) (builder : String) (bs : List Branch) :
    n.Hands (Branch.numberAll n builder bs).2
      (Branch.nodesAll (Branch.numberAll n builder bs).1) := by
  match bs with
  | [] => exact .plain n _ rfl fun _ => rfl
  | .mk cond body :: rest =>
    exact (Clause.hands_numberAll n builder body).trans (Branch.hands_numberAll _ builder rest)

end

/-! ## Loops are left -/

/-- The open loops of blocks. -/
def openLoops (levels : List Level) : List (Nat × String) :=
  levels.filterMap fun level =>
    match level.opener with
    | .loop id _ index => some (id, index.name)
    | _ => none

namespace Assembly

/-- The open loops of the numbering are those of the open blocks, inside those of `outer`. -/
def Balanced (outer : List (Nat × String)) (a : Assembly) : Prop :=
  a.numbering.loops = openLoops a.levels ++ outer

variable {source : String} {outer : List (Nat × String)} {a a' : Assembly}

theorem Balanced.addFragment (h : a.Balanced outer) (f : Fragment) :
    (a.addFragment f).Balanced outer := by
  unfold Assembly.addFragment
  split <;> exact h

theorem Balanced.openLoop (h : a.Balanced outer) (range : ForRange) :
    (a.openLoop range).Balanced outer := by
  have hg := a.numbering.grows_nextLoop.trans (a.numbering.nextLoop.2.grows_loopIndex range)
  simp only [Balanced, Assembly.openLoop, push, Numbering.pushLoop, openLoops,
    List.filterMap_cons, List.cons_append, hg.loops]
  rw [h]
  rfl

theorem Balanced.openJoin (h : a.Balanced outer) (kind : JoinKind) :
    (a.openJoin kind).Balanced outer :=
  (a.numbering.grows_nextJoin kind).loops.trans h

theorem Balanced.nextBranch {guard : Option String} (h : a.Balanced outer)
    (hs : a.nextBranch source guard = .ok a') : a'.Balanced outer := by
  unfold Assembly.nextBranch at hs
  split at hs
  · simp at hs
  · next level levels hl =>
    have hloops := h
    rw [Balanced, hl] at hloops
    split at hs
    · next cond ho =>
      cases hs
      simpa [Balanced, openLoops, ho] using hloops
    · next cond first closed current ho =>
      cases hs
      simpa [Balanced, openLoops, ho] using hloops
    · simp at hs
    · simp at hs

/-- The end of a block leaves its loop, if it is one. -/
theorem loops_popLoop {level : Level} {levels : List Level}
    (h : a.numbering.loops = openLoops (level :: levels) ++ outer) :
    (a.popLoop level.opener).numbering.loops = openLoops levels ++ outer := by
  obtain ⟨opener, before⟩ := level
  cases opener with
  | loop id range index =>
    simp only [popLoop, Numbering.popLoop, h]
    rfl
  | branch cond | otherwise cond first closed guard | join kind own => exact h

theorem Balanced.pop {level : Level} {levels : List Level} (h : a.Balanced outer)
    (hl : a.levels = level :: levels) : (a.pop level levels).Balanced outer := by
  rw [Balanced, hl] at h
  rw [Balanced, Assembly.pop, levels_popLoop]
  exact loops_popLoop h

theorem balanced_of_step {s : Section} (h : a.Balanced outer) (hs : a.step source s = .ok a') :
    a'.Balanced outer := by
  cases s with
  | literal text | data ref | quoted ref =>
    cases hs
    exact h.addFragment _
  | branch cond =>
    cases hs
    exact h
  | loop range =>
    cases hs
    exact h.openLoop range
  | join kind =>
    simp only [step] at hs
    split at hs
    · simp at hs
    · cases hs
      exact h.openJoin kind
  | otherwise guard => exact h.nextBranch hs
  | close =>
    simp only [step] at hs
    split at hs
    · simp at hs
    · next level levels hl =>
      cases hs
      exact h.pop hl

/-- Leaving blocks one by one leaves their loops. -/
theorem loops_foldl_popLoop (levels : List Level) (a : Assembly)
    (h : a.numbering.loops = openLoops levels ++ outer) :
    (levels.foldl (fun a level => a.popLoop level.opener) a).numbering.loops = outer := by
  induction levels generalizing a with
  | nil => exact h
  | cons level levels ih => exact ih _ (loops_popLoop h)

theorem Balanced.leave (h : a.Balanced outer) : a.leave.loops = outer :=
  loops_foldl_popLoop a.levels a h

theorem loops_run (h : a.Balanced outer) (sections : List Section) :
    (a.run source sections).2.loops = outer := by
  induction sections generalizing a with
  | nil => exact h.leave
  | cons s rest ih =>
    rw [run]
    cases hs : a.step source s with
    | error e => exact h.leave
    | ok next => exact ih (balanced_of_step h hs)

end Assembly

/-! ## Built trees -/

/-- A list that counts: its entries are those of `0`, `1`, `2` and so on. -/
def Counts {α : Type} (entry : Nat → α) (entries : List α) : Prop :=
  entries = (List.range entries.length).map entry

theorem counts_of_eq_ico {α : Type} {entry : Nat → α} {entries : List α} {n : Nat}
    (h : entries = (List.Ico 0 n).map entry) : Counts entry entries := by
  have hn : entries.length = n := by simp [h]
  rw [Counts, hn, ← List.Ico.zero_bot]
  exact h

/-- Read in source order, the blocks of a built tree are the openers of its sections. Loops,
builders and generated index variables are numbered in this order, each loop has the index variable
that its range asks for, every clause writes where it stands, and every key has the loops around
it. Building leaves every loop that it enters, also when it fails. -/
theorem buildClauses_annotated (source : String) :
    (∀ sections tree, buildClauses sections source = .ok tree →
      Clause.AllPlaced Reserved.sqlBuilder [] tree ∧
      (Clause.nodesAll tree).filterMap Clause.opening? = sections.filter (·.kind.isOpener) ∧
      Counts id ((framesOf (Clause.nodesAll tree)).map Frame.id) ∧
      (∀ f ∈ framesOf (Clause.nodesAll tree), f.Chosen) ∧
      Counts Reserved.loopIndex (indicesOf (framesOf (Clause.nodesAll tree))) ∧
      Counts Reserved.whereBuilder (buildersOf .filter (Clause.nodesAll tree)) ∧
      Counts Reserved.setBuilder (buildersOf .assign (Clause.nodesAll tree))) ∧
    (∀ n sections,
      (Assembly.run (trimmed source) ⟨n, [], []⟩ sections).2.loops = n.loops) := by
  constructor
  · intro sections tree h
    have hn := numberAll_of_buildClauses h
    have hf := flattenAll_of_buildClauses h
    have hinside : Numbering.Inside {} [] := rfl
    have hh := Clause.hands_numberAll {} Reserved.sqlBuilder tree
    have hp := Clause.allPlaced_numberAll hinside Reserved.sqlBuilder tree
    rw [hn] at hh hp
    refine ⟨hp, ?_, counts_of_eq_ico (hh.ids.trans (List.map_id _).symm), hh.chosen,
      counts_of_eq_ico hh.indices, counts_of_eq_ico hh.wheres, counts_of_eq_ico hh.sets⟩
    rw [Clause.openings_nodesAll, hf, Section.filter_bare]
  · intro n sections
    have hn : Assembly.Balanced n.loops ⟨n, [], []⟩ := rfl
    exact Assembly.loops_run hn sections

/-- The keys inside two loops, the outer one over a map. -/
example :
    let range : ForRange := ⟨"k", "v", "vs", .map (.simple "string") (.slice (.simple "int"))⟩
    let inner : ForRange := ⟨"_", "u", "v", .slice (.simple "int")⟩
    buildClauses [.join .filter, .loop range, .loop inner, .data (.ofPath "u"), .close, .close,
      .close] "" =
      .ok [.join .filter "whereSQL0" "generateSQL"
        [.loop 0 "whereSQL0" range (.counter "forIndex0")
          [.loop 1 "whereSQL0" inner (.synthetic "forIndex1")
            [.sql "whereSQL0"
              [.bind ⟨"u", ⟨"u", some ⟨1, ["forIndex0", "forIndex1"]⟩⟩⟩]]]]] := by
  rfl

end QueryGen
