import Mathlib.Data.List.Chain
import QueryGen.Proofs.Clause.Flatten

/-!
# The grammar of blocks

Which clause trees templates can spell.

- `Clause.Grammatical`, `Clause.IsBody`: a `where` or a `set` stands at the top or in branches of
  `if` from the top (`wide`), an `else` without a condition is the last branch, no SQL clause is
  empty and no two of them stand side by side.
- `Level.Sound`, `Assembly.Sound`: the grammar of a tree that is being built, block by block.
- `Assembly.sections`: the sections that a state was built from.
- `step_sections`, `step_sound`: what one section does to both. `run_sections` and `run_sound`
  follow by induction on the sections.
-/

namespace QueryGen

def Clause.isSql : Clause → Bool
  | .sql _ _ => true
  | _ => false

/-- Two clauses that may stand side by side. -/
def Clause.Apart (c d : Clause) : Prop := ¬(c.isSql = true ∧ d.isSql = true)

theorem Clause.Apart.symm {c d : Clause} (h : c.Apart d) : d.Apart c := fun hs => h hs.symm

theorem Clause.apart_comm (c d : Clause) : c.Apart d ↔ d.Apart c := ⟨.symm, .symm⟩

theorem Clause.apart_of_not_isSql {c d : Clause} (h : d.isSql = false) : c.Apart d :=
  fun hs => by simp [h] at hs

mutual

/-- A clause of the grammar. `where` and `set` may stand in it only if it is `wide`. -/
def Clause.Grammatical (wide : Bool) : Clause → Prop
  | .sql _ fragments => fragments ≠ []
  | .branch _ _ body otherwise =>
    body.IsChain Clause.Apart ∧ Clause.AllGrammatical wide body ∧
      Branch.AllGrammatical wide otherwise
  | .join _ _ _ body =>
    wide = true ∧ body.IsChain Clause.Apart ∧ Clause.AllGrammatical false body
  | .loop _ _ _ _ body => body.IsChain Clause.Apart ∧ Clause.AllGrammatical false body

/-- Clauses of the grammar. -/
def Clause.AllGrammatical (wide : Bool) : List Clause → Prop
  | [] => True
  | c :: rest => c.Grammatical wide ∧ Clause.AllGrammatical wide rest

/-- Branches of the grammar: none follows an `else` without a condition. -/
def Branch.AllGrammatical (wide : Bool) : List Branch → Prop
  | [] => True
  | .mk cond body :: rest =>
    (body.IsChain Clause.Apart ∧ Clause.AllGrammatical wide body) ∧ (cond = none → rest = []) ∧
      Branch.AllGrammatical wide rest

end

/-- The body of a block, or a whole tree. -/
def Clause.IsBody (wide : Bool) (body : List Clause) : Prop :=
  body.IsChain Clause.Apart ∧ Clause.AllGrammatical wide body

theorem Clause.allGrammatical_iff {wide : Bool} {body : List Clause} :
    AllGrammatical wide body ↔ ∀ c ∈ body, c.Grammatical wide := by
  induction body with
  | nil => simp [AllGrammatical]
  | cons c rest ih => simp [AllGrammatical, ih]

theorem Clause.isBody_nil (wide : Bool) : IsBody wide [] := by
  simp [IsBody, AllGrammatical]

/-- A body seen from its end. -/
theorem Clause.isBody_reverse_cons {wide : Bool} {c : Clause} {rest : List Clause} :
    IsBody wide (c :: rest).reverse ↔
      (∀ d ∈ rest.head?, c.Apart d) ∧ c.Grammatical wide ∧ IsBody wide rest.reverse := by
  simp only [IsBody, List.isChain_reverse, allGrammatical_iff, List.mem_reverse, List.mem_cons,
    forall_eq_or_imp, List.isChain_cons, Clause.apart_comm]
  tauto

/-- Branches that an `else` may follow: all of them have conditions. -/
def Branch.Open (wide : Bool) (branches : List Branch) : Prop :=
  ∀ b ∈ branches, b.cond ≠ none ∧ Clause.IsBody wide b.body

theorem Branch.allGrammatical_append_singleton {wide : Bool} {branches : List Branch}
    {b : Branch} (ho : Branch.Open wide branches) (hb : Clause.IsBody wide b.body) :
    Branch.AllGrammatical wide (branches ++ [b]) := by
  induction branches with
  | nil =>
    obtain ⟨cond, body⟩ := b
    exact ⟨hb, fun _ => rfl, trivial⟩
  | cons first rest ih =>
    obtain ⟨cond, body⟩ := first
    obtain ⟨hc, hf⟩ := ho _ List.mem_cons_self
    exact ⟨hf, fun h => absurd h hc, ih fun d hd => ho d (List.mem_cons_of_mem _ hd)⟩

/-! ## Trees that are being built -/

/-- Whether `where` and `set` may stand in the innermost of the blocks. -/
def isWide (levels : List Level) : Bool := !levels.any (·.opener.isNarrow)

/-- What an open block has closed already is of the grammar. -/
def Opener.Sound (wide : Bool) : Opener → Prop
  | .otherwise _ first closed _ => Clause.IsBody wide first ∧ Branch.Open wide closed
  | _ => True

/-- Every open block may stand where it stands, and what was read before it is of the grammar. -/
def LevelsSound : List Level → Prop
  | [] => True
  | level :: levels =>
    (∀ kind builder, level.opener = .join kind builder → isWide levels = true) ∧
      level.opener.Sound (isWide (level :: levels)) ∧
      Clause.IsBody (isWide levels) level.before.reverse ∧ LevelsSound levels

namespace Assembly

/-- A state whose parts are of the grammar. -/
def Sound (a : Assembly) : Prop :=
  LevelsSound a.levels ∧ Clause.IsBody (isWide a.levels) a.reversed.reverse

end Assembly

/-- The sections with which a block was opened, what it has closed already included. -/
def Opener.sections : Opener → List Section
  | .branch cond => [.branch cond]
  | .otherwise cond first closed guard =>
    .branch cond ::
      (Clause.flattenAll first ++ (Branch.flattenAll closed.reverse ++ [.otherwise guard]))
  | .join kind _ => [.join kind]
  | .loop _ range _ => [.loop range]

/-- The sections before the innermost block, its opener included. -/
def sectionsOf : List Level → List Section
  | [] => []
  | level :: levels =>
    sectionsOf levels ++ (Clause.flattenAll level.before.reverse ++ level.opener.sections)

namespace Assembly

/-- The sections that a state was built from. -/
def sections (a : Assembly) : List Section :=
  sectionsOf a.levels ++ Clause.flattenAll a.reversed.reverse

theorem sections_addFragment (a : Assembly) (f : Fragment) :
    (a.addFragment f).sections = a.sections ++ [f.section] := by
  unfold addFragment
  split
  · next builder fragments rest h =>
    simp [sections, h, Clause.flattenAll_append, Clause.flattenAll_singleton, Clause.flatten]
  · simp [sections, Clause.flattenAll_append, Clause.flattenAll_singleton, Clause.flatten]

theorem sections_push (a : Assembly) (opener : Opener) :
    (a.push opener).sections = a.sections ++ opener.sections := by
  simp [sections, push, sectionsOf, Clause.flattenAll]

@[simp] theorem levels_popLoop (a : Assembly) (opener : Opener) :
    (a.popLoop opener).levels = a.levels := by
  cases opener <;> rfl

@[simp] theorem reversed_popLoop (a : Assembly) (opener : Opener) :
    (a.popLoop opener).reversed = a.reversed := by
  cases opener <;> rfl

theorem flatten_clause (opener : Opener) (builder : String) (body : List Clause) :
    (opener.clause builder body).flatten =
      opener.sections ++ (Clause.flattenAll body ++ [.close]) := by
  cases opener <;>
    simp [Opener.clause, Opener.sections, Clause.flatten, Branch.flattenAll,
      Branch.flattenAll_append, Branch.flatten]

theorem sections_pop {a : Assembly} {level : Level} {levels : List Level}
    (h : a.levels = level :: levels) : (a.pop level levels).sections = a.sections ++ [.close] := by
  simp [sections, pop, h, sectionsOf, Clause.flattenAll_append, Clause.flattenAll_singleton,
    flatten_clause]

theorem sections_nextBranch {source : String} {a a' : Assembly} {guard : Option String}
    (h : a.nextBranch source guard = .ok a') :
    a'.sections = a.sections ++ [.otherwise guard] := by
  unfold nextBranch at h
  split at h
  · simp at h
  · next level levels hl =>
    split at h
    · next cond ho =>
      cases h
      simp [sections, hl, sectionsOf, ho, Opener.sections, Branch.flattenAll, Clause.flattenAll]
    · next cond first closed current ho =>
      cases h
      simp [sections, hl, sectionsOf, ho, Opener.sections, Branch.flattenAll_append,
        Branch.flattenAll_singleton, Branch.flatten, Clause.flattenAll]
    · simp at h
    · simp at h

/-- A step reads its section and loses nothing. -/
theorem step_sections {source : String} {a a' : Assembly} {s : Section}
    (h : a.step source s = .ok a') : a'.sections = a.sections ++ [s.bare] := by
  cases s with
  | literal text | data ref | quoted ref =>
    cases h
    exact sections_addFragment a _
  | branch cond =>
    cases h
    exact sections_push a _
  | loop range =>
    cases h
    exact sections_push _ _
  | join kind =>
    simp only [step] at h
    split at h
    · simp at h
    · cases h
      exact sections_push _ _
  | otherwise guard => exact sections_nextBranch h
  | close =>
    simp only [step] at h
    split at h
    · simp at h
    · next level levels hl =>
      cases h
      exact sections_pop hl

/-- The sections of a finished tree are those that were read. -/
theorem run_sections {source : String} {a : Assembly} {sections : List Section}
    {tree : List Clause} (h : (a.run source sections).1 = .ok tree) :
    Clause.flattenAll tree = a.sections ++ sections.map Section.bare := by
  induction sections generalizing a with
  | nil =>
    simp only [run, finish] at h
    split at h
    · next hl =>
      cases h
      simp [Assembly.sections, hl, sectionsOf]
    · simp at h
  | cons s rest ih =>
    simp only [run] at h
    split at h
    · next next hs =>
      rw [ih h, step_sections hs]
      simp
    · simp at h

/-! ## The grammar while building -/

theorem Sound.addFragment {a : Assembly} (ha : a.Sound) (f : Fragment) :
    (a.addFragment f).Sound := by
  obtain ⟨hl, hb⟩ := ha
  unfold Assembly.addFragment
  split
  · next builder fragments rest hr =>
    rw [hr, Clause.isBody_reverse_cons] at hb
    exact ⟨hl, Clause.isBody_reverse_cons.2 ⟨hb.1, by simp [Clause.Grammatical], hb.2.2⟩⟩
  · next rest hr =>
    refine ⟨hl, Clause.isBody_reverse_cons.2 ⟨fun d hd hs => ?_, by simp [Clause.Grammatical], hb⟩⟩
    -- The nearest clause is no SQL clause, or the fragment had joined it.
    cases d with
    | sql builder fragments =>
      cases hc : a.reversed with
      | nil => simp [hc] at hd
      | cons c cs =>
        simp only [hc, List.head?_cons, Option.mem_some_iff] at hd
        exact hr builder fragments cs (by rw [hc, hd])
    | _ => simp [Clause.isSql] at hs

theorem Sound.push {a : Assembly} (ha : a.Sound) {opener : Opener}
    (hw : ∀ kind builder, opener = .join kind builder → isWide a.levels = true)
    (ho : ∀ wide, opener.Sound wide) : (a.push opener).Sound :=
  ⟨⟨hw, ho _, ha.2, ha.1⟩, Clause.isBody_nil _⟩

theorem isWide_cons_of_not_isNarrow {level : Level} {levels : List Level}
    (h : level.opener.isNarrow = false) : isWide (level :: levels) = isWide levels := by
  simp [isWide, h]

theorem isWide_cons_of_isNarrow {level : Level} {levels : List Level}
    (h : level.opener.isNarrow = true) : isWide (level :: levels) = false := by
  simp [isWide, h]

/-- The clause of a block that closes is of the grammar of the block around. -/
theorem grammatical_clause {level : Level} {levels : List Level} {body : List Clause}
    (builder : String) (hl : LevelsSound (level :: levels))
    (hb : Clause.IsBody (isWide (level :: levels)) body) :
    (level.opener.clause builder body).Grammatical (isWide levels) := by
  obtain ⟨hw, hs, -, -⟩ := hl
  obtain ⟨opener, before⟩ := level
  cases opener with
  | branch cond =>
    rw [isWide_cons_of_not_isNarrow rfl] at hb
    exact ⟨hb.1, hb.2, trivial⟩
  | otherwise cond first closed guard =>
    rw [isWide_cons_of_not_isNarrow rfl] at hb hs
    obtain ⟨hf, hc⟩ := hs
    refine ⟨hf.1, hf.2, ?_⟩
    rw [List.reverse_cons]
    exact Branch.allGrammatical_append_singleton (fun b hd => hc b (List.mem_reverse.1 hd)) hb
  | join kind own =>
    rw [isWide_cons_of_isNarrow rfl] at hb
    exact ⟨hw kind own rfl, hb.1, hb.2⟩
  | loop id range index =>
    rw [isWide_cons_of_isNarrow rfl] at hb
    exact ⟨hb.1, hb.2⟩

theorem isSql_clause (opener : Opener) (builder : String) (body : List Clause) :
    (opener.clause builder body).isSql = false := by
  cases opener <;> rfl

theorem Sound.pop {a : Assembly} (ha : a.Sound) {level : Level} {levels : List Level}
    (h : a.levels = level :: levels) : (a.pop level levels).Sound := by
  obtain ⟨hl, hb⟩ := ha
  rw [h] at hl hb
  refine ⟨by simpa [Assembly.pop] using hl.2.2.2, ?_⟩
  simp only [Assembly.pop, levels_popLoop, reversed_popLoop]
  exact Clause.isBody_reverse_cons.2
    ⟨fun d _ => (Clause.apart_of_not_isSql (isSql_clause _ _ _)).symm,
      grammatical_clause _ hl hb, hl.2.2.1⟩

theorem Sound.nextBranch {source : String} {a a' : Assembly} {guard : Option String}
    (ha : a.Sound) (h : a.nextBranch source guard = .ok a') : a'.Sound := by
  obtain ⟨hl, hb⟩ := ha
  unfold Assembly.nextBranch at h
  split at h
  · simp at h
  · next level levels hls =>
    rw [hls] at hl hb
    obtain ⟨-, hs, hbefore, hrest⟩ := hl
    split at h
    · next cond ho =>
      cases h
      rw [isWide_cons_of_not_isNarrow (by simp [ho, Opener.isNarrow])] at hb
      refine ⟨⟨by simp, ?_, hbefore, hrest⟩, Clause.isBody_nil _⟩
      rw [isWide_cons_of_not_isNarrow rfl]
      exact ⟨hb, fun b hm => absurd hm List.not_mem_nil⟩
    · next cond first closed current ho =>
      cases h
      rw [isWide_cons_of_not_isNarrow (by simp [ho, Opener.isNarrow])] at hb hs
      rw [ho] at hs
      refine ⟨⟨by simp, ?_, hbefore, hrest⟩, Clause.isBody_nil _⟩
      rw [isWide_cons_of_not_isNarrow rfl]
      exact ⟨hs.1, List.forall_mem_cons.2 ⟨⟨by simp [Branch.cond], hb⟩, hs.2⟩⟩
    · simp at h
    · simp at h

/-- A step keeps to the grammar. -/
theorem step_sound {source : String} {a a' : Assembly} {s : Section} (ha : a.Sound)
    (h : a.step source s = .ok a') : a'.Sound := by
  cases s with
  | literal text | data ref | quoted ref =>
    cases h
    exact ha.addFragment _
  | branch cond =>
    cases h
    exact ha.push (by simp) fun _ => trivial
  | loop range =>
    cases h
    exact Sound.push ha (by simp) fun _ => trivial
  | join kind =>
    simp only [step] at h
    split at h
    · simp at h
    · next hw =>
      cases h
      exact Sound.push ha (fun _ _ _ => by simpa [isWide] using hw) fun _ => trivial
  | otherwise guard => exact ha.nextBranch h
  | close =>
    simp only [step] at h
    split at h
    · simp at h
    · next level levels hl =>
      cases h
      exact ha.pop hl

/-- A finished tree is of the grammar. -/
theorem run_sound {source : String} {a : Assembly} {sections : List Section}
    {tree : List Clause} (ha : a.Sound) (h : (a.run source sections).1 = .ok tree) :
    Clause.IsBody true tree := by
  induction sections generalizing a with
  | nil =>
    simp only [run, finish] at h
    split at h
    · next hl =>
      cases h
      simpa [hl, isWide] using ha.2
    · simp at h
  | cons s rest ih =>
    simp only [run] at h
    split at h
    · next next hs => exact ih (step_sound ha hs) h
    · simp at h

theorem sound_start : (⟨{}, [], []⟩ : Assembly).Sound := ⟨trivial, Clause.isBody_nil _⟩

end Assembly

/-- Building loses no section. -/
theorem flattenAll_of_buildClauses {sections : List Section} {source : String}
    {tree : List Clause} (h : buildClauses sections source = .ok tree) :
    Clause.flattenAll tree = sections.map Section.bare := by
  simpa [Assembly.sections, sectionsOf, Clause.flattenAll] using Assembly.run_sections h

/-- Building keeps to the grammar. -/
theorem isBody_of_buildClauses {sections : List Section} {source : String}
    {tree : List Clause} (h : buildClauses sections source = .ok tree) :
    Clause.IsBody true tree :=
  Assembly.run_sound Assembly.sound_start h

end QueryGen
