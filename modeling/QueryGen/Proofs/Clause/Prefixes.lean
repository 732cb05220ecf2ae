import Mathlib
import QueryGen.Proofs.Clause.Grammar

/-!
# Prefixes of section lists

Building goes through sections once, so an error is found at the first section that no
continuation can mend, and a list that only lacks `end` is told apart from all others.

- `unclosed`: the openers of a list that no `end` has closed yet, without any reference to trees.
- `Assembly.blocks`: the names of the open blocks of a state. `Section.Shifts` is all that one
  section can do to them (`shifts_of_step`); `blocks_of_foldlM` and `length_of_foldlM` follow by
  induction on the sections.
- `closes_iff`: how many times `end` finishes a state.
- `buildClauses_viable`: what each outcome of building says about the continuations of a list and
  about its prefixes.
-/

namespace QueryGen

/-! ## Openers without an end -/

/-- The openers that are not closed behind one more section, the innermost first. -/
def afterSection (openers : List Section) (s : Section) : List Section :=
  match s with
  | .close => openers.tail
  | s => if s.kind.isOpener then s :: openers else openers

/-- The openers that no `end` closes, the innermost first. -/
def unclosed (sections : List Section) : List Section := sections.foldl afterSection []

/-- How many blocks are opened. -/
def openCount (sections : List Section) : Nat := sections.countP (·.kind.isOpener)

/-- How many times `end` stands in a list. -/
def closeCount (sections : List Section) : Nat := sections.count .close

/-! ## What a section does to the open blocks -/

/-- What a section may do to the names of the open blocks. -/
inductive Section.Shifts (s : Section) (before : List String) : List String → Prop where
  | opens (h : s.kind.isOpener = true) : s.Shifts before (s.kind.keyword :: before)
  | closes {name : String} {outer : List String} (h : s = .close) (hb : before = name :: outer) :
    s.Shifts before outer
  | stays (h : s.kind.isOpener = false) (hc : s ≠ .close) : s.Shifts before before

namespace Assembly

variable {source : String} {a a' : Assembly}

/-- The names of the open blocks, the innermost first. -/
def blocks (a : Assembly) : List String := a.levels.map (·.opener.kind.name)

theorem blocks_addFragment (a : Assembly) (f : Fragment) :
    (a.addFragment f).blocks = a.blocks := by
  unfold addFragment
  split <;> rfl

theorem blocks_pop (a : Assembly) (level : Level) (levels : List Level) :
    (a.pop level levels).blocks = levels.map (·.opener.kind.name) := by
  simp [blocks, pop]

/-- A later branch goes by the name of its `if`. -/
theorem blocks_nextBranch {guard : Option String} (h : a.nextBranch source guard = .ok a') :
    a'.blocks = a.blocks := by
  unfold nextBranch at h
  split at h
  · simp at h
  · next level levels hl =>
    split at h
    · next cond ho =>
      cases h
      simp [blocks, hl, ho, Opener.kind, BlockKind.name]
    · next cond first closed current ho =>
      cases h
      simp [blocks, hl, ho, Opener.kind, BlockKind.name]
    · simp at h
    · simp at h

theorem shifts_of_step {s : Section} (h : a.step source s = .ok a') :
    s.Shifts a.blocks a'.blocks := by
  cases s with
  | literal text | data ref | quoted ref =>
    cases h
    rw [blocks_addFragment]
    exact .stays rfl (by simp)
  | branch cond =>
    cases h
    exact .opens rfl
  | loop range =>
    cases h
    exact .opens rfl
  | join kind =>
    simp only [step] at h
    split at h
    · simp at h
    · cases h
      exact .opens rfl
  | otherwise guard =>
    rw [blocks_nextBranch h]
    exact .stays rfl (by simp)
  | close =>
    simp only [step] at h
    split at h
    · simp at h
    · next level levels hl =>
      cases h
      rw [blocks_pop]
      exact .closes rfl (by rw [blocks, hl, List.map_cons])

/-- The open blocks of a state are those of the openers without an `end`. -/
theorem blocks_of_foldlM {sections : List Section} (openers : List Section)
    (h : sections.foldlM (step source) a = .ok a')
    (ho : a.blocks = openers.map (·.kind.keyword)) :
    a'.blocks = (sections.foldl afterSection openers).map (·.kind.keyword) := by
  induction sections generalizing a openers with
  | nil =>
    cases h
    exact ho
  | cons s rest ih =>
    rw [List.foldlM_cons] at h
    cases hs : a.step source s with
    | error e => rw [hs] at h; cases h
    | ok b =>
      rw [hs] at h
      refine ih _ h ?_
      have hshift := shifts_of_step hs
      generalize b.blocks = after at hshift
      cases hshift with
      | opens hk =>
        cases s <;> simp_all [afterSection, Section.kind, SectionKind.isOpener]
      | closes hc hb =>
        subst hc
        simp [afterSection, List.map_tail, ← ho, hb]
      | stays hk hc =>
        cases s <;> simp_all [afterSection, Section.kind, SectionKind.isOpener]

/-- Every block is open or closed. -/
theorem length_of_foldlM {sections : List Section}
    (h : sections.foldlM (step source) a = .ok a') :
    a'.levels.length + closeCount sections = a.levels.length + openCount sections := by
  induction sections generalizing a with
  | nil =>
    cases h
    rfl
  | cons s rest ih =>
    rw [List.foldlM_cons] at h
    cases hs : a.step source s with
    | error e => rw [hs] at h; cases h
    | ok b =>
      rw [hs] at h
      have hrest := ih h
      have hlen (c : Assembly) : c.levels.length = c.blocks.length := by simp [blocks]
      have hshift := shifts_of_step hs
      simp only [hlen, openCount, closeCount, List.countP_cons, List.count_cons, beq_iff_eq]
        at hrest ⊢
      generalize b.blocks = after at hshift hrest
      cases hshift with
      | opens hk =>
        have hc : s ≠ .close := by rintro rfl; cases hk
        simp only [hk, hc, List.length_cons, if_true, if_false] at hrest ⊢
        omega
      | closes hc hb =>
        subst hc
        have hk : Section.close.kind.isOpener = false := rfl
        simp only [hb, hk, List.length_cons, if_true, Bool.false_eq_true, if_false]
        omega
      | stays hk hc =>
        simp only [hk, hc, Bool.false_eq_true, if_false]
        omega

/-! ## Errors -/

/-- A section is never refused because something is missing behind it. -/
theorem ne_notEnd_of_step {s : Section} {e : TemplateError} (h : a.step source s = .error e)
    (block : BlockKind) (sql : String) : e ≠ .notEnd block sql := by
  rintro rfl
  cases s with
  | literal text | data ref | quoted ref | branch cond | loop range => cases h
  | join kind =>
    simp only [step] at h
    split at h <;> simp at h
  | otherwise guard =>
    simp only [step, nextBranch] at h
    split at h
    · simp at h
    · split at h <;> simp at h
  | close =>
    simp only [step] at h
    split at h <;> simp at h

theorem ne_notEnd_of_foldlM {sections : List Section} {e : TemplateError}
    (h : sections.foldlM (step source) a = .error e) (block : BlockKind) (sql : String) :
    e ≠ .notEnd block sql := by
  induction sections generalizing a with
  | nil => cases h
  | cons s rest ih =>
    rw [List.foldlM_cons] at h
    cases hs : a.step source s with
    | error e' =>
      rw [hs] at h
      cases h
      exact ne_notEnd_of_step hs block sql
    | ok b =>
      rw [hs] at h
      exact ih h

theorem run_fst (source : String) (a : Assembly) (sections : List Section) :
    (a.run source sections).1 = sections.foldlM (step source) a >>= finish source := by
  induction sections generalizing a with
  | nil => rfl
  | cons s rest ih =>
    rw [run, List.foldlM_cons]
    cases a.step source s with
    | error e => rfl
    | ok next => exact ih next

/-! ## Closing what is open -/

/-- A state is finished by as many `end` as it has open blocks, and by no other number of them. -/
theorem closes_iff (source : String) (a : Assembly) (n : Nat) :
    (∃ tree, (List.replicate n Section.close).foldlM (step source) a >>= finish source =
      .ok tree) ↔ n = a.levels.length := by
  induction n generalizing a with
  | zero =>
    rw [List.replicate_zero, List.foldlM_nil, pure_bind, finish]
    cases a.levels <;> simp
  | succ n ih =>
    rw [List.replicate_succ, List.foldlM_cons, step]
    cases h : a.levels with
    | nil => simp [bind, Except.bind]
    | cons level levels =>
      have hpop : (a.pop level levels).levels = levels := by simp [pop]
      simpa [hpop, bind, Except.bind] using ih (a.pop level levels)

end Assembly

/-! ## Continuations and prefixes -/

theorem buildClauses_eq_foldlM (sections : List Section) (source : String) :
    buildClauses sections source =
      (sections.foldlM (Assembly.step (trimmed source)) ⟨{}, [], []⟩ >>=
        Assembly.finish (trimmed source)) :=
  Assembly.run_fst _ _ _

/-- The state behind the sections, where no section was refused. -/
theorem foldlM_of_notEnd {sections : List Section} {source : String} {block : BlockKind}
    {sql : String} (h : buildClauses sections source = .error (.notEnd block sql)) :
    ∃ a level levels, sections.foldlM (Assembly.step (trimmed source)) ⟨{}, [], []⟩ = .ok a ∧
      a.levels = level :: levels ∧ block = level.opener.kind ∧ sql = trimmed source := by
  rw [buildClauses_eq_foldlM] at h
  cases hr : sections.foldlM (Assembly.step (trimmed source)) ⟨{}, [], []⟩ with
  | error e =>
    rw [hr] at h
    cases h
    exact absurd rfl (Assembly.ne_notEnd_of_foldlM hr block sql)
  | ok a =>
    rw [hr] at h
    change a.finish (trimmed source) = _ at h
    unfold Assembly.finish at h
    split at h
    · cases h
    · next level levels hl =>
      cases h
      exact ⟨a, level, levels, rfl, hl, rfl, rfl⟩

/-- Any other error comes from a section. -/
theorem foldlM_of_error {sections : List Section} {source : String} {e : TemplateError}
    (h : buildClauses sections source = .error e)
    (he : ∀ block sql, e ≠ .notEnd block sql) :
    sections.foldlM (Assembly.step (trimmed source)) ⟨{}, [], []⟩ = .error e := by
  rw [buildClauses_eq_foldlM] at h
  cases hr : sections.foldlM (Assembly.step (trimmed source)) ⟨{}, [], []⟩ with
  | error e' =>
    rw [hr] at h
    cases h
    rfl
  | ok a =>
    rw [hr] at h
    change a.finish (trimmed source) = _ at h
    unfold Assembly.finish at h
    split at h
    · cases h
    · cases h
      exact absurd rfl (he _ _)

theorem openers_of_notEnd {sections : List Section} {source : String} {block : BlockKind}
    {sql : String} (h : buildClauses sections source = .error (.notEnd block sql)) :
    ∃ opener outer, unclosed sections = opener :: outer ∧ block.name = opener.kind.keyword := by
  obtain ⟨a, level, levels, hr, hl, rfl, -⟩ := foldlM_of_notEnd h
  have hb := Assembly.blocks_of_foldlM [] hr rfl
  rw [Assembly.blocks, hl, List.map_cons] at hb
  obtain ⟨opener, outer, ho, hname, -⟩ := List.map_eq_cons_iff.1 hb.symm
  exact ⟨opener, outer, ho, hname.symm⟩

theorem completed_iff_of_notEnd {sections : List Section} {source : String} {block : BlockKind}
    {sql : String} (h : buildClauses sections source = .error (.notEnd block sql)) (n : Nat) :
    (∃ tree, buildClauses (sections ++ List.replicate n .close) source = .ok tree) ↔
      closeCount sections + n = openCount sections := by
  obtain ⟨a, level, levels, hr, hl, -, -⟩ := foldlM_of_notEnd h
  have hlen := Assembly.length_of_foldlM hr
  rw [List.length_nil, Nat.zero_add] at hlen
  simp only [buildClauses_eq_foldlM, List.foldlM_append, hr]
  refine (Assembly.closes_iff _ a n).trans ?_
  omega

/-- Sections that lack `end` are completed by one for each open block and by no other number of
them; the error names the innermost of the open blocks. Any other error stays, whatever follows.
A prefix of what is accepted lacks `end` at most. -/
theorem buildClauses_viable (source : String) (sections : List Section) :
    (∀ block sql, buildClauses sections source = .error (.notEnd block sql) →
      sql = trimmed source ∧
      (∃ opener outer, unclosed sections = opener :: outer ∧
        block.name = opener.kind.keyword) ∧
      closeCount sections < openCount sections ∧
      ∀ n, (∃ tree, buildClauses (sections ++ List.replicate n .close) source = .ok tree) ↔
        n = openCount sections - closeCount sections) ∧
    (∀ e, buildClauses sections source = .error e → (∀ block sql, e ≠ .notEnd block sql) →
      ∀ more, buildClauses (sections ++ more) source = .error e) ∧
    (∀ tree, buildClauses sections source = .ok tree → ∀ before after,
      sections = before ++ after →
      (∃ tree', buildClauses before source = .ok tree') ∨
        ∃ block, buildClauses before source = .error (.notEnd block (trimmed source))) := by
  refine ⟨fun block sql h => ?_, fun e h he more => ?_, fun tree h before after hs => ?_⟩
  · obtain ⟨a, level, levels, hr, hl, -, hsql⟩ := foldlM_of_notEnd h
    have hlt : closeCount sections < openCount sections := by
      have hlen := Assembly.length_of_foldlM hr
      rw [hl, List.length_cons, List.length_nil] at hlen
      omega
    refine ⟨hsql, openers_of_notEnd h, hlt, fun n => (completed_iff_of_notEnd h n).trans ?_⟩
    omega
  · rw [buildClauses_eq_foldlM, List.foldlM_append, foldlM_of_error h he]
    rfl
  · subst hs
    cases hb : buildClauses before source with
    | ok tree' => exact .inl ⟨tree', rfl⟩
    | error e =>
      -- An error of another kind would have stayed.
      by_cases he : ∃ block sql, e = .notEnd block sql
      · obtain ⟨block, sql, rfl⟩ := he
        obtain ⟨-, -, -, -, -, -, rfl⟩ := foldlM_of_notEnd hb
        exact .inr ⟨block, rfl⟩
      · have hr := foldlM_of_error hb fun block sql hn => he ⟨block, sql, hn⟩
        rw [buildClauses_eq_foldlM, List.foldlM_append, hr] at h
        cases h

/-- Sections inside a loop and an `else`. -/
def openElse : List Section :=
  [.loop ⟨"_", "v", "vs", .unknown⟩, .branch "v > 0", .literal "a", .otherwise none]

/-- An open `else` goes by the name of its `if`, and the loop around it needs its own `end`. -/
theorem buildClauses_viable_openElse :
    buildClauses openElse " s " = .error (.notEnd .otherwise "s") ∧
      BlockKind.otherwise.name = "if" ∧
      ∀ n, (∃ tree, buildClauses (openElse ++ List.replicate n .close) " s " = .ok tree) ↔
        n = 2 := by
  have h : buildClauses openElse " s " = .error (.notEnd .otherwise "s") := rfl
  exact ⟨h, rfl, ((buildClauses_viable " s " openElse).1 _ _ h).2.2.2⟩

end QueryGen
