import QueryGen.Proofs.Clause.Grammar

/-!
# Building by recursion on the tree

Building goes through sections with a stack of open blocks. The same tree comes from a recursion
on the tree that the sections flatten, which hands out names and numbers on the way.

- `Clause.number`: a clause with the builders, loop numbers, index names and keys that building
  gives it, and the numbering behind it.
- `run_flatten`, `run_flattenAll`, `Branch.run_flattenAll`: reading the sections of a clause of
  the grammar adds the numbered clause and changes nothing else.
- `buildClauses_flattenAll`: building undoes flattening, up to names.
- `numberAll_of_buildClauses`: every built tree is numbered, so facts about names follow by
  induction on the tree.
-/

namespace QueryGen

/-- The fragment with the key that a binding gets inside the given loops. -/
def Fragment.number (scope : Option LoopKey) : Fragment → Fragment
  | bind b => .bind ⟨b.expr, ⟨b.expr, scope⟩⟩
  | f => f

mutual

/-- The clause with the names that building gives it, and the numbering behind it. -/
def Clause.number (n : Numbering) (builder : String) : Clause → Clause × Numbering
  | .sql _ fragments => (.sql builder (fragments.map (Fragment.number n.loopKey?)), n)
  | .branch _ cond body otherwise =>
    let first := Clause.numberAll n builder body
    let others := Branch.numberAll first.2 builder otherwise
    (.branch builder cond first.1 others.1, others.2)
  | .join kind _ _ body =>
    let own := n.nextJoin kind
    let inner := Clause.numberAll own.2 own.1 body
    (.join kind own.1 builder inner.1, inner.2)
  | .loop _ _ range _ body =>
    let id := n.nextLoop
    let index := id.2.loopIndex range
    let inner := Clause.numberAll (index.2.pushLoop id.1 index.1.name) builder body
    (.loop id.1 builder range index.1 inner.1, inner.2.popLoop)

/-- Clauses with the names that building gives them, and the numbering behind them. -/
def Clause.numberAll (n : Numbering) (builder : String) : List Clause → List Clause × Numbering
  | [] => ([], n)
  | c :: rest =>
    let first := c.number n builder
    let others := Clause.numberAll first.2 builder rest
    (first.1 :: others.1, others.2)

/-- Branches with the names that building gives them, and the numbering behind them. -/
def Branch.numberAll (n : Numbering) (builder : String) : List Branch → List Branch × Numbering
  | [] => ([], n)
  | .mk cond body :: rest =>
    let first := Clause.numberAll n builder body
    let others := Branch.numberAll first.2 builder rest
    (.mk cond first.1 :: others.1, others.2)

end

/-! ## Names do not matter for the shape -/

@[simp] theorem Fragment.unnamed_number (scope : Option LoopKey) (f : Fragment) :
    (f.number scope).unnamed = f.unnamed := by
  cases f <;> rfl

mutual

theorem Clause.unnamed_number (n : Numbering) (builder : String) (c : Clause) :
    (c.number n builder).1.unnamed = c.unnamed := by
  match c with
  | .sql _ fragments => simp [Clause.number, Clause.unnamed]
  | .branch _ cond body otherwise =>
    simp [Clause.number, Clause.unnamed, Clause.unnamedAll_numberAll,
      Branch.unnamedAll_numberAll]
  | .join kind _ _ body => simp [Clause.number, Clause.unnamed, Clause.unnamedAll_numberAll]
  | .loop _ _ range _ body => simp [Clause.number, Clause.unnamed, Clause.unnamedAll_numberAll]

theorem Clause.unnamedAll_numberAll (n : Numbering) (builder : String) (cs : List Clause) :
    Clause.unnamedAll (Clause.numberAll n builder cs).1 = Clause.unnamedAll cs := by
  match cs with
  | [] => rfl
  | c :: rest =>
    simp [Clause.numberAll, Clause.unnamedAll, Clause.unnamed_number,
      Clause.unnamedAll_numberAll]

theorem Branch.unnamedAll_numberAll (n : Numbering) (builder : String) (bs : List Branch) :
    Branch.unnamedAll (Branch.numberAll n builder bs).1 = Branch.unnamedAll bs := by
  match bs with
  | [] => rfl
  | .mk cond body :: rest =>
    simp [Branch.numberAll, Branch.unnamedAll, Clause.unnamedAll_numberAll,
      Branch.unnamedAll_numberAll]

end

/-! ## Numbers grow -/

/-- A numbering behind another one: no number is handed out twice, and the open loops are those
that were open before. -/
structure Numbering.Grows (n n' : Numbering) : Prop where
  loops : n'.loops = n.loops
  ids : n.loopIds ≤ n'.loopIds
  indices : n.indices ≤ n'.indices

namespace Numbering

variable {n n' n'' : Numbering}

theorem Grows.refl (n : Numbering) : n.Grows n := ⟨rfl, le_rfl, le_rfl⟩

theorem Grows.trans (h : n.Grows n') (h' : n'.Grows n'') : n.Grows n'' :=
  ⟨h'.loops.trans h.loops, h.ids.trans h'.ids, h.indices.trans h'.indices⟩

theorem grows_nextJoin (n : Numbering) (kind : JoinKind) : n.Grows (n.nextJoin kind).2 := by
  cases kind <;> exact ⟨rfl, le_rfl, le_rfl⟩

theorem grows_nextLoop (n : Numbering) : n.Grows n.nextLoop.2 :=
  ⟨rfl, Nat.le_succ _, le_rfl⟩

theorem grows_loopIndex (n : Numbering) (range : ForRange) : n.Grows (n.loopIndex range).2 := by
  unfold loopIndex
  split
  · exact ⟨rfl, le_rfl, Nat.le_succ _⟩
  · split
    · exact ⟨rfl, le_rfl, Nat.le_succ _⟩
    · exact .refl n

/-- A loop leaves no loop open. -/
theorem Grows.popLoop {id : Nat} {index : String} (h : (n.pushLoop id index).Grows n') :
    n.Grows n'.popLoop :=
  ⟨by simp [Numbering.popLoop, h.loops, pushLoop], h.ids, h.indices⟩

end Numbering

mutual

theorem Clause.grows_number (n : Numbering) (builder : String) (c : Clause) :
    n.Grows (c.number n builder).2 := by
  match c with
  | .sql _ fragments => exact .refl n
  | .branch _ cond body otherwise =>
    exact (Clause.grows_numberAll n builder body).trans
      (Branch.grows_numberAll _ builder otherwise)
  | .join kind _ _ body =>
    exact (n.grows_nextJoin kind).trans (Clause.grows_numberAll _ _ body)
  | .loop _ _ range _ body =>
    exact n.grows_nextLoop.trans ((n.nextLoop.2.grows_loopIndex range).trans
      (Clause.grows_numberAll _ builder body).popLoop)

/-- Numbering clauses hands out new numbers only. -/
theorem Clause.grows_numberAll (n : Numbering) (builder : String) (cs : List Clause) :
    n.Grows (Clause.numberAll n builder cs).2 := by
  match cs with
  | [] => exact .refl n
  | c :: rest =>
    exact (Clause.grows_number n builder c).trans (Clause.grows_numberAll _ builder rest)

theorem Branch.grows_numberAll (n : Numbering) (builder : String) (bs : List Branch) :
    n.Grows (Branch.numberAll n builder bs).2 := by
  match bs with
  | [] => exact .refl n
  | .mk cond body :: rest =>
    exact (Clause.grows_numberAll n builder body).trans (Branch.grows_numberAll _ builder rest)

end

theorem Clause.isSql_number (n : Numbering) (builder : String) (c : Clause) :
    (c.number n builder).1.isSql = c.isSql := by
  cases c <;> rfl

/-! ## Reading flattened clauses -/

namespace Assembly

/-- The state with further clauses in the innermost block. -/
def extend (a : Assembly) (more : List Clause × Numbering) : Assembly :=
  { a with numbering := more.2, reversed := more.1.reverse ++ a.reversed }

theorem run_cons {source : String} {a b : Assembly} {s : Section} {rest : List Section}
    (h : a.step source s = .ok b) : a.run source (s :: rest) = b.run source rest := by
  simp only [run, h]

theorem step_section (source : String) (a : Assembly) (f : Fragment) :
    a.step source f.section = .ok (a.addFragment (f.number a.numbering.loopKey?)) := by
  cases f <;> rfl

/-- Fragments join the SQL clause that was begun. -/
theorem run_fragments (source : String) {a : Assembly} {builder : String}
    {begun : List Fragment} {before : List Clause} (h : a.reversed = .sql builder begun :: before)
    (fragments : List Fragment) (rest : List Section) :
    a.run source (fragments.map Fragment.section ++ rest) =
      ({ a with
          reversed := .sql builder
            (begun ++ fragments.map (Fragment.number a.numbering.loopKey?)) :: before } :
        Assembly).run source rest := by
  induction fragments generalizing a begun with
  | nil => simp [← h]
  | cons f fs ih =>
    rw [List.map_cons, List.cons_append, run_cons (step_section source a f)]
    have ha : a.addFragment (f.number a.numbering.loopKey?) =
        { a with
          reversed := .sql builder (begun ++ [f.number a.numbering.loopKey?]) :: before } := by
      simp [addFragment, h]
    rw [ha, ih rfl]
    simp

/-- A SQL clause is begun behind any other clause. -/
theorem run_sql (source : String) {a : Assembly} {fragments : List Fragment}
    (hne : fragments ≠ []) (ha : ∀ c ∈ a.reversed.head?, c.isSql = false)
    (rest : List Section) :
    a.run source (fragments.map Fragment.section ++ rest) =
      (a.extend ([.sql (builderOf a.levels)
        (fragments.map (Fragment.number a.numbering.loopKey?))], a.numbering)).run source rest := by
  obtain ⟨f, fs, rfl⟩ := List.exists_cons_of_ne_nil hne
  rw [List.map_cons, List.cons_append, run_cons (step_section source a f)]
  have hadd : a.addFragment (f.number a.numbering.loopKey?) =
      { a with
        reversed := .sql (builderOf a.levels) [f.number a.numbering.loopKey?] :: a.reversed } := by
    unfold addFragment
    split
    · next builder fragments before h =>
      have := ha _ (by rw [h]; rfl)
      simp [Clause.isSql] at this
    · rfl
  rw [hadd, run_fragments source rfl]
  rfl

theorem builderOf_cons {o : Opener} {before : List Clause} {levels : List Level}
    (h : o.builder? = none) : builderOf (⟨o, before⟩ :: levels) = builderOf levels := by
  simp [builderOf, h]

theorem builderOf_join (kind : JoinKind) (builder : String) (before : List Clause)
    (levels : List Level) : builderOf (⟨.join kind builder, before⟩ :: levels) = builder := by
  simp [builderOf, Opener.builder?]

mutual

/-- Reading the sections of a clause adds the clause. -/
theorem run_flatten (source : String) {wide : Bool} {c : Clause} (hc : c.Grammatical wide)
    {a : Assembly} (hw : wide = true → isWide a.levels = true)
    (hs : ∀ d ∈ a.reversed.head?, d.Apart c) (rest : List Section) :
    a.run source (c.flatten ++ rest) =
      (a.extend ([(c.number a.numbering (builderOf a.levels)).1],
        (c.number a.numbering (builderOf a.levels)).2)).run source rest := by
  match c with
  | .sql _ fragments =>
    refine run_sql source hc (fun d hd => ?_) rest
    cases hq : d.isSql with
    | false => rfl
    | true => exact absurd ⟨hq, rfl⟩ (hs d hd)
  | .branch _ cond body otherwise =>
    obtain ⟨hchain, hbody, hothers⟩ := hc
    simp only [Clause.flatten, List.cons_append, List.append_assoc, List.nil_append]
    rw [run_cons (b := a.push (.branch cond)) rfl,
      run_flattenAll source ⟨hchain, hbody⟩ (a := a.push (.branch cond))
        (fun h => (isWide_cons_of_not_isNarrow rfl).trans (hw h)) (by simp [push])]
    match otherwise with
    | [] =>
      rw [Branch.flattenAll, List.nil_append, run_cons rfl]
      simp [extend, push, pop, popLoop, Opener.clause, Clause.number, Branch.numberAll,
        builderOf_cons (o := .branch cond) rfl]
    | .mk guard first :: others =>
      obtain ⟨hfirst, hlast, hrest⟩ := hothers
      simp only [Branch.flattenAll, Branch.flatten, List.cons_append, List.append_assoc]
      rw [run_cons (b := ⟨_, ⟨.otherwise cond _ [] guard, a.reversed⟩ :: a.levels, []⟩) rfl,
        run_flattenAll source hfirst
          (fun h => (isWide_cons_of_not_isNarrow rfl).trans (hw h)) (by simp),
        Branch.run_flattenAll source hrest rfl hlast hw]
      simp [extend, push, Clause.number, Branch.numberAll,
        builderOf_cons (o := .branch cond) rfl,
        builderOf_cons (o := .otherwise _ _ _ _) rfl]
  | .join kind _ _ body =>
    obtain ⟨hwide, hchain, hbody⟩ := hc
    have hstep : a.step source (.join kind) = .ok (a.openJoin kind) := by
      have := hw hwide
      simp only [isWide, Bool.not_eq_true'] at this
      simp [step, this]
    simp only [Clause.flatten, List.cons_append, List.append_assoc, List.nil_append]
    rw [run_cons hstep, run_flattenAll source ⟨hchain, hbody⟩ (by simp) (by simp [openJoin, push])]
    simp only [openJoin, push, builderOf_join]
    rw [run_cons rfl]
    simp [extend, pop, popLoop, Opener.clause, Clause.number]
  | .loop _ _ range _ body =>
    simp only [Clause.flatten, List.cons_append, List.append_assoc, List.nil_append]
    rw [run_cons (b := a.openLoop range) rfl,
      run_flattenAll source hc (by simp) (by simp [openLoop, push])]
    simp only [openLoop, push, builderOf_cons (o := .loop _ _ _) rfl]
    rw [run_cons rfl]
    simp [extend, pop, popLoop, Opener.clause, Clause.number]

/-- Reading the sections of clauses adds the clauses. -/
theorem run_flattenAll (source : String) {wide : Bool} {cs : List Clause}
    (hc : Clause.IsBody wide cs) {a : Assembly} (hw : wide = true → isWide a.levels = true)
    (hs : ∀ c ∈ cs.head?, ∀ d ∈ a.reversed.head?, d.Apart c) (rest : List Section) :
    a.run source (Clause.flattenAll cs ++ rest) =
      (a.extend (Clause.numberAll a.numbering (builderOf a.levels) cs)).run source rest := by
  match cs with
  | [] => rfl
  | c :: others =>
    obtain ⟨hchain, hfirst, hothers⟩ := hc
    rw [List.isChain_cons] at hchain
    simp only [Clause.flattenAll, List.append_assoc]
    rw [run_flatten source hfirst hw (hs c rfl),
      run_flattenAll source ⟨hchain.2, hothers⟩ (a := a.extend _) hw]
    · simp [extend, Clause.numberAll]
    · intro d hd e he
      -- What was read differs from `c` in names only.
      obtain rfl : (c.number a.numbering (builderOf a.levels)).1 = e := by simpa [extend] using he
      simpa only [Clause.Apart, Clause.isSql_number] using hchain.1 d hd

/-- Reading the sections of later branches and the end of their `if` adds the whole `if`. -/
theorem Branch.run_flattenAll (source : String) {wide : Bool} {bs : List Branch}
    (hb : Branch.AllGrammatical wide bs) {a : Assembly} {cond : String} {first : List Clause}
    {closed : List Branch} {guard : Option String} {before : List Clause} {levels : List Level}
    (hl : a.levels = ⟨.otherwise cond first closed guard, before⟩ :: levels)
    (hlast : guard = none → bs = []) (hw : wide = true → isWide levels = true)
    (rest : List Section) :
    a.run source (Branch.flattenAll bs ++ .close :: rest) =
      (⟨(Branch.numberAll a.numbering (builderOf levels) bs).2, levels,
        .branch (builderOf levels) cond first ((.mk guard a.reversed.reverse :: closed).reverse ++
          (Branch.numberAll a.numbering (builderOf levels) bs).1) :: before⟩ :
        Assembly).run source rest := by
  match bs with
  | [] =>
    have hstep : a.step source .close =
        .ok (a.pop ⟨.otherwise cond first closed guard, before⟩ levels) := by
      simp only [step, hl]
    rw [Branch.flattenAll, List.nil_append, run_cons hstep]
    simp [pop, popLoop, Opener.clause, Branch.numberAll]
  | .mk next body :: others =>
    obtain ⟨hbody, hnext, hothers⟩ := hb
    obtain ⟨current, rfl⟩ : ∃ current, guard = some current := by
      cases guard with
      | none => simp at hlast
      | some current => exact ⟨current, rfl⟩
    have hstep : a.step source (.otherwise next) = .ok ⟨a.numbering,
        ⟨.otherwise cond first (.mk (some current) a.reversed.reverse :: closed) next, before⟩ ::
          levels, []⟩ := by
      simp only [step, nextBranch, hl]
    simp only [Branch.flattenAll, Branch.flatten, List.cons_append, List.append_assoc]
    rw [run_cons hstep, run_flattenAll source hbody
        (fun h => (isWide_cons_of_not_isNarrow rfl).trans (hw h)) (by simp),
      Branch.run_flattenAll source hothers rfl hnext hw]
    simp [extend, Branch.numberAll, builderOf_cons (o := .otherwise _ _ _ _) rfl]

end

end Assembly

/-- Building undoes flattening, but for names. -/
theorem buildClauses_flattenAll {tree : List Clause} (h : Clause.IsBody true tree)
    (source : String) :
    buildClauses (Clause.flattenAll tree) source =
      .ok (Clause.numberAll {} Reserved.sqlBuilder tree).1 := by
  have hr := Assembly.run_flattenAll (trimmed source) h (a := ⟨{}, [], []⟩) (fun _ => rfl)
    (by simp) []
  rw [List.append_nil] at hr
  unfold buildClauses
  rw [hr]
  simp [Assembly.run, Assembly.finish, Assembly.extend, builderOf]

/-- Every built tree has the names that numbering gives it. -/
theorem numberAll_of_buildClauses {sections : List Section} {source : String}
    {tree : List Clause} (h : buildClauses sections source = .ok tree) :
    (Clause.numberAll {} Reserved.sqlBuilder tree).1 = tree := by
  have hb := buildClauses_flattenAll (isBody_of_buildClauses h) source
  rw [flattenAll_of_buildClauses h, buildClauses_bare, h] at hb
  exact (Except.ok.inj hb).symm

/-- Building accepts exactly the sections of trees of the grammar. What it builds flattens to the
sections that it read, and the sections of a tree give that tree with other names at most. -/
theorem buildClauses_grammar (source : String) :
    (∀ sections tree, buildClauses sections source = .ok tree →
      Clause.flattenAll tree = sections.map Section.bare ∧ Clause.IsBody true tree) ∧
    (∀ tree sections, Clause.IsBody true tree →
      Clause.flattenAll tree = sections.map Section.bare →
      ∃ built, buildClauses sections source = .ok built ∧
        Clause.unnamedAll built = Clause.unnamedAll tree) := by
  constructor
  · intro sections tree h
    exact ⟨flattenAll_of_buildClauses h, isBody_of_buildClauses h⟩
  · intro tree sections h hs
    refine ⟨_, ?_, Clause.unnamedAll_numberAll {} Reserved.sqlBuilder tree⟩
    rw [← buildClauses_bare, ← hs]
    exact buildClauses_flattenAll h source

end QueryGen
