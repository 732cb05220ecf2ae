import QueryGen.Proofs.Clause.Number
import QueryGen.Proofs.Execution.Course
import QueryGen.Proofs.Execution.Names
import QueryGen.Proofs.Template.Reading

/-!
# Variables of a running method

- `Readable`: the names that templates read; generated code declares other ones.
- `Follows`: the variables of a state are those of the turns of loops around, whatever the style.
- `Numbers`: the index variables of keys have their values too.
- `Follows.enter`, `Numbers.enter`: both hold in the next turn of a loop.
-/

namespace QueryGen

variable {α : Type}

/-! ## Names that are read -/

/-- A name that a template may read: `_` is no variable, and reserved names are generated. -/
def Readable (name : String) : Prop := name ≠ "_" ∧ Reserved.isReserved name = false

theorem Readable.ne_loopIndex {name : String} (h : Readable name) (k : Nat) :
    name ≠ Reserved.loopIndex k := by
  intro he
  rw [he] at h
  exact absurd (Reserved.isReserved_loopIndex k) (by simp [h.2])

/-- The value of an expression depends on its first name only. -/
theorem World.eval_congr (w : World α) {read read' : String → Value α} {expr : String}
    (h : read (ParamRef.ofPath expr).root = read' (ParamRef.ofPath expr).root) :
    w.eval read expr = w.eval read' expr := by
  obtain ⟨parts, hp⟩ := Template.splitWith_eq_cons (· == '.') expr.toList
  have hroot : String.ofList (expr.toList.takeWhile fun c => !(c == '.')) =
      (ParamRef.ofPath expr).root := by
    simp [ParamRef.root, ParamRef.ofPath]
    rfl
  unfold World.eval Text.splitOn
  rw [hp, List.map_cons, hroot]
  simp only []
  rw [h]

/-! ## Reading variables -/

theorem lookup_cons_eq (name name' : String) (v : Value α) (vars : List (String × Value α)) :
    ((name', v) :: vars).lookup name = if name = name' then some v else vars.lookup name := by
  rw [List.lookup_cons]
  by_cases h : name = name'
  · simp [h]
  · simp [h, beq_false_of_ne h]

theorem readIn_cons (args : String → Value α) (p : Pass α) (around : List (Pass α))
    (name : String) :
    readIn args (p :: around) name =
      if name = p.range.value then p.pair.2
      else if name = p.range.index then p.pair.1
      else readIn args around name := by
  simp only [readIn, List.flatMap_cons, Pass.locals, List.cons_append, List.nil_append,
    lookup_cons_eq]
  split_ifs <;> rfl

theorem Machine.read_enter (m : Machine α) (index value : String) (pair : Value α × Value α)
    (name : String) :
    (m.enter index value pair).read name =
      if name = value then pair.2 else if name = index then pair.1 else m.read name := by
  simp only [Machine.read, Machine.enter, lookup_cons_eq]
  split_ifs <;> rfl

/-! ## States that follow a run -/

/-- The index variable of a loop is one that templates read, or one generated before. -/
def Pass.Known (n : Numbering) (p : Pass α) : Prop :=
  match p.index with
  | .declared name => Readable name
  | .synthetic name => ∃ k < n.indices, name = Reserved.loopIndex k
  | .counter name => ∃ k < n.indices, name = Reserved.loopIndex k

/-- A state inside turns of loops: what templates read has the values of the turns, and no name
that is generated later is taken. -/
structure Follows (args : String → Value α) (n : Numbering) (around : List (Pass α))
    (m : Machine α) : Prop where
  loops : n.loops = around.map fun p => (p.id, p.index.name)
  known : ∀ p ∈ around, p.Known n
  vars : ∀ name, Readable name → m.read name = readIn args around name
  fresh : ∀ k, n.indices ≤ k → m.locals.lookup (Reserved.loopIndex k) = none

/-- The index variables of all loops around have the values that keys are printed with. -/
def Numbers (args : String → Value α) (around : List (Pass α)) (m : Machine α) : Prop :=
  ∀ p ∈ around, m.read p.index.name = p.number args around

/-- The variables that were there before `n` keep their values. -/
structure Machine.Keeps (n : Numbering) (m m' : Machine α) : Prop where
  locals : m'.locals = m.locals
  globals : ∀ name, (∀ k, n.indices ≤ k → name ≠ Reserved.loopIndex k) →
    m'.globals name = m.globals name

theorem Machine.Keeps.refl (n : Numbering) (m : Machine α) : m.Keeps n m :=
  ⟨rfl, fun _ _ => rfl⟩

theorem Machine.Keeps.trans {n n' : Numbering} {m m' m'' : Machine α} (h : m.Keeps n m')
    (h' : m'.Keeps n' m'') (hn : n.indices ≤ n'.indices) : m.Keeps n m'' :=
  ⟨h'.locals.trans h.locals, fun name hname =>
    (h'.globals name fun k hk => hname k (hn.trans hk)).trans (h.globals name hname)⟩

theorem Machine.Keeps.read {n : Numbering} {m m' : Machine α} (h : m.Keeps n m') {name : String}
    (hname : ∀ k, n.indices ≤ k → name ≠ Reserved.loopIndex k) : m'.read name = m.read name := by
  rw [Machine.read, Machine.read, h.locals, h.globals name hname]

theorem Pass.Known.mono {n n' : Numbering} {p : Pass α} (h : p.Known n)
    (hn : n.indices ≤ n'.indices) : p.Known n' := by
  unfold Pass.Known at h ⊢
  split
  · simpa [*] using h
  · next name he =>
    simp only [he] at h
    obtain ⟨k, hk, hname⟩ := h
    exact ⟨k, hk.trans_le hn, hname⟩
  · next name he =>
    simp only [he] at h
    obtain ⟨k, hk, hname⟩ := h
    exact ⟨k, hk.trans_le hn, hname⟩

/-- No later name is the index variable of a loop around. -/
theorem Pass.Known.ne {n : Numbering} {p : Pass α} (h : p.Known n) (k : Nat) (hk : n.indices ≤ k) :
    p.index.name ≠ Reserved.loopIndex k := by
  intro he
  unfold Pass.Known at h
  cases hi : p.index with
  | declared name =>
    simp only [hi] at h
    exact h.ne_loopIndex k (by simpa [hi, LoopIndex.name] using he)
  | synthetic name | counter name =>
    simp only [hi] at h
    obtain ⟨j, hj, hname⟩ := h
    rw [hi, LoopIndex.name, hname] at he
    have := Reserved.loopIndex_inj he
    omega

theorem Follows.keep {args : String → Value α} {n n' : Numbering} {around : List (Pass α)}
    {m m' : Machine α} (h : Follows args n around m) (hk : m.Keeps n m') (hn : n.Grows n') :
    Follows args n' around m' where
  loops := hn.loops.trans h.loops
  known p hp := (h.known p hp).mono hn.indices
  vars name hname := (hk.read fun k _ => hname.ne_loopIndex k).trans (h.vars name hname)
  fresh k hkn := by
    rw [hk.locals]
    exact h.fresh k (hn.indices.trans hkn)

theorem Numbers.keep {args : String → Value α} {n : Numbering} {around : List (Pass α)}
    {m m' : Machine α} (h : Numbers args around m) (hk : m.Keeps n m')
    (hknown : ∀ p ∈ around, p.Known n) : Numbers args around m' := by
  intro p hp
  rw [hk.read fun k hkn => (hknown p hp).ne k hkn]
  exact h p hp

/-! ## Numbers of what is left to run -/

namespace Work

/-- The names in the work are those that numbering from `n` gives. -/
def Numbered (n : Numbering) (builder : String) : Work α → Prop
  | clauses cs => (Clause.numberAll n builder cs).1 = cs
  | branches bs => (Branch.numberAll n builder bs).1 = bs
  | passes id range index body _ _ => ∃ n', n.loopIndex range = (index, n') ∧
    (Clause.numberAll (n'.pushLoop id index.name) builder body).1 = body

namespace Numbered

variable {n : Numbering} {builder own target cond : String} {guard : Option String}
  {kind : JoinKind} {id : Nat} {range : ForRange} {index : LoopIndex} {c : Clause}
  {body rest : List Clause} {otherwise : List Branch}

theorem tail (h : (clauses (α := α) (c :: rest)).Numbered n builder) :
    (clauses (α := α) rest).Numbered (c.number n builder).2 builder :=
  (List.cons.inj h).2

theorem branch
    (h : (clauses (α := α) (.branch own cond body otherwise :: rest)).Numbered n builder) :
    (branches (α := α) (.mk (some cond) body :: otherwise)).Numbered n builder := by
  have hc := (List.cons.inj h).1
  rw [Clause.number, Clause.branch.injEq] at hc
  rw [Numbered, Branch.numberAll, hc.2.2.1, hc.2.2.2]

theorem firstBranch (h : (branches (α := α) (.mk guard body :: otherwise)).Numbered n builder) :
    (clauses (α := α) body).Numbered n builder := by
  have hb := (List.cons.inj h).1
  rw [Branch.mk.injEq] at hb
  exact hb.2

theorem nextBranch (h : (branches (α := α) (.mk guard body :: otherwise)).Numbered n builder) :
    (branches (α := α) otherwise).Numbered (Clause.numberAll n builder body).2 builder :=
  (List.cons.inj h).2

theorem join (h : (clauses (α := α) (.join kind own target body :: rest)).Numbered n builder) :
    own = (n.nextJoin kind).1 ∧ target = builder ∧
      (clauses (α := α) body).Numbered (n.nextJoin kind).2 own := by
  have hc := (List.cons.inj h).1
  rw [Clause.number, Clause.join.injEq] at hc
  obtain ⟨-, rfl, rfl, hbody⟩ := hc
  exact ⟨rfl, rfl, hbody⟩

theorem loop (h : (clauses (α := α) (.loop id own range index body :: rest)).Numbered n builder)
    (turn : Nat) (pairs : List (Value α × Value α)) :
    (passes id range index body turn pairs).Numbered n.nextLoop.2 builder := by
  have hc := (List.cons.inj h).1
  rw [Clause.number, Clause.loop.injEq] at hc
  obtain ⟨rfl, -, -, hindex, hbody⟩ := hc
  rw [hindex] at hbody
  exact ⟨_, Prod.ext hindex rfl, hbody⟩

end Numbered

end Work

/-! ## The next turn of a loop -/

/-- The variable that numbers a loop is new, or it is the index that the loop declares. -/
theorem Numbering.of_loopIndex {n n' : Numbering} {range : ForRange} {index : LoopIndex}
    (h : n.loopIndex range = (index, n')) :
    (range.isPositional = false ∧ index = .counter (Reserved.loopIndex n.indices) ∧
      n' = { n with indices := n.indices + 1 }) ∨
    (range.isPositional = true ∧ range.index = "_" ∧
      index = .synthetic (Reserved.loopIndex n.indices) ∧
      n' = { n with indices := n.indices + 1 }) ∨
    (range.isPositional = true ∧ range.index ≠ "_" ∧ index = .declared range.index ∧ n' = n) := by
  unfold Numbering.loopIndex at h
  cases hp : range.isPositional with
  | false =>
    rw [hp] at h
    cases h
    exact .inl ⟨rfl, rfl, rfl⟩
  | true =>
    rw [hp] at h
    by_cases hi : range.index = "_"
    · simp only [ForRange.discardsIndex, hi] at h
      cases h
      exact .inr (.inl ⟨rfl, hi, rfl, rfl⟩)
    · simp only [ForRange.discardsIndex, beq_false_of_ne hi] at h
      cases h
      exact .inr (.inr ⟨rfl, hi, rfl, rfl⟩)

/-- Whether no variable of a loop has a name that generated code declares. -/
def ForRange.Unreserved (r : ForRange) : Prop :=
  Reserved.isReserved r.index = false ∧ Reserved.isReserved r.value = false

/-- The name that a loop gives to its index: the generated one where keys need it. -/
def loopVariable (numbered : Bool) (range : ForRange) (index : LoopIndex) : String :=
  match numbered, index with
  | true, .synthetic name => name
  | _, _ => range.index

theorem loopIndex_ne_of_unreserved {name : String} (h : Reserved.isReserved name = false)
    (k : Nat) : Reserved.loopIndex k ≠ name := by
  intro he
  rw [← he, Reserved.isReserved_loopIndex] at h
  cases h

section Enter

variable {args : String → Value α} {n n' : Numbering} {around : List (Pass α)} {m : Machine α}
  {range : ForRange} {index : LoopIndex}

/-- What a loop calls its index is the index that it declares, but for names that nobody reads. -/
theorem loopVariable_of_readable (hi : n.loopIndex range = (index, n')) (numbered : Bool)
    {name : String} (hname : Readable name) :
    name = loopVariable numbered range index ↔ name = range.index := by
  rcases Numbering.of_loopIndex hi with ⟨-, rfl, -⟩ | ⟨-, hd, rfl, -⟩ | ⟨-, -, rfl, -⟩
  · cases numbered <;> rfl
  · cases numbered with
    | false => rfl
    | true =>
      rw [hd]
      exact ⟨fun he => absurd he (hname.ne_loopIndex _), fun he => absurd he hname.1⟩
  · cases numbered <;> rfl

/-- No name that is generated behind a loop is what the loop calls its index. -/
theorem loopIndex_ne_loopVariable (hr : range.Unreserved) (hi : n.loopIndex range = (index, n'))
    (numbered : Bool) {k : Nat} (hk : k ≠ n.indices ∨ ∀ name, index ≠ .synthetic name) :
    Reserved.loopIndex k ≠ loopVariable numbered range index := by
  have hne := loopIndex_ne_of_unreserved hr.1 k
  rcases Numbering.of_loopIndex hi with ⟨-, rfl, -⟩ | ⟨-, hd, rfl, -⟩ | ⟨-, -, rfl, -⟩
  · cases numbered <;> exact hne
  · cases numbered with
    | false => exact hne
    | true =>
      rcases hk with hk | hk
      · exact fun he => hk (Reserved.loopIndex_inj he)
      · exact absurd rfl (hk _)
  · cases numbered <;> exact hne

theorem Follows.enter (h : Follows args n around m) (hr : range.Unreserved)
    (hi : n.loopIndex range = (index, n')) (numbered : Bool) (id turn : Nat)
    (pair : Value α × Value α) :
    Follows args (n'.pushLoop id index.name) (⟨id, range, index, turn, pair⟩ :: around)
      (m.enter (loopVariable numbered range index) range.value pair) := by
  have hn : n.Grows n' := by
    have := n.grows_loopIndex range
    rwa [hi] at this
  refine ⟨?_, ?_, ?_, ?_⟩
  · simp [Numbering.pushLoop, hn.loops, h.loops]
  · refine List.forall_mem_cons.2 ⟨?_, fun p hp => (h.known p hp).mono hn.indices⟩
    rcases Numbering.of_loopIndex hi with ⟨-, rfl, rfl⟩ | ⟨-, -, rfl, rfl⟩ | ⟨-, hd, rfl, rfl⟩
    · exact ⟨n.indices, Nat.lt_succ_self _, rfl⟩
    · exact ⟨n.indices, Nat.lt_succ_self _, rfl⟩
    · exact ⟨hd, hr.1⟩
  · intro name hname
    rw [Machine.read_enter, readIn_cons, h.vars name hname]
    simp only [loopVariable_of_readable hi numbered hname]
  · intro k hk
    have hne : k ≠ n.indices ∨ ∀ name, index ≠ .synthetic name := by
      rcases Numbering.of_loopIndex hi with ⟨-, rfl, rfl⟩ | ⟨-, -, rfl, rfl⟩ | ⟨-, -, rfl, rfl⟩
      · exact .inr fun name he => by cases he
      · exact .inl (Nat.ne_of_gt hk)
      · exact .inr fun name he => by cases he
    simp only [Machine.enter, lookup_cons_eq]
    rw [if_neg (loopIndex_ne_of_unreserved hr.2 k),
      if_neg (loopIndex_ne_loopVariable hr hi numbered hne)]
    exact h.fresh k (hn.indices.trans hk)

/-- The index variables have their values in the next turn. A counter counts the turns. -/
theorem Numbers.enter (h : Numbers args around m) (hf : Follows args n around m)
    (hr : range.Unreserved) (hi : n.loopIndex range = (index, n')) (id turn : Nat)
    (hc : ∀ name, index = .counter name → m.globals name = .int turn)
    (pair : Value α × Value α) :
    Numbers args (⟨id, range, index, turn, pair⟩ :: around)
      (m.enter (loopVariable true range index) range.value pair) := by
  have hf' := hf.enter hr hi true id turn pair
  intro p hp
  have hk := hf'.known p hp
  cases hx : p.index with
  | declared name =>
    simp only [Pass.Known, hx] at hk
    simpa [Pass.number, hx, LoopIndex.name] using hf'.vars name hk
  | synthetic name =>
    rcases List.mem_cons.1 hp with rfl | hp
    · rcases Numbering.of_loopIndex hi with ⟨-, rfl, -⟩ | ⟨-, -, rfl, -⟩ | ⟨-, -, rfl, -⟩
      · cases hx
      · cases hx
        simp only [LoopIndex.name, Pass.number, loopVariable]
        rw [Machine.read_enter, if_neg (loopIndex_ne_of_unreserved hr.2 _), if_pos rfl]
      · cases hx
    · obtain ⟨k, hkn, rfl⟩ : ∃ k < n.indices, name = Reserved.loopIndex k := by
        simpa [Pass.Known, hx] using hf.known p hp
      have ho := h p hp
      simp only [hx, LoopIndex.name, Pass.number] at ho ⊢
      rw [Machine.read_enter, if_neg (loopIndex_ne_of_unreserved hr.2 k),
        if_neg (loopIndex_ne_loopVariable hr hi true (.inl hkn.ne)), ho]
  | counter name =>
    rcases List.mem_cons.1 hp with rfl | hp
    · simp only at hx
      subst hx
      rcases Numbering.of_loopIndex hi with ⟨-, he, -⟩ | ⟨-, -, he, -⟩ | ⟨-, -, he, -⟩
      · cases he
        simp only [LoopIndex.name, Pass.number]
        rw [Machine.read_enter, if_neg (loopIndex_ne_of_unreserved hr.2 _),
          if_neg (loopIndex_ne_loopVariable hr hi true (.inr fun name he => by cases he)),
          Machine.read, hf.fresh _ le_rfl, ← hc _ rfl]
        rfl
      · cases he
      · cases he
    · obtain ⟨k, hkn, rfl⟩ : ∃ k < n.indices, name = Reserved.loopIndex k := by
        simpa [Pass.Known, hx] using hf.known p hp
      have ho := h p hp
      simp only [hx, LoopIndex.name, Pass.number] at ho ⊢
      rw [Machine.read_enter, if_neg (loopIndex_ne_of_unreserved hr.2 k),
        if_neg (loopIndex_ne_loopVariable hr hi true (.inl hkn.ne)), ho]

end Enter

end QueryGen
