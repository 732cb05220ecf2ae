import QueryGen.Proofs.Execution.Follow

/-!
# Positional code

What positional code does along a run, whatever names a template reads and declares. It declares no
counter, so the variables of a state are exactly those of the turns of loops around.

- `Inside`: a state inside turns of loops, with their variables and no other ones.
- `Appended`: the text of a run and its bound values are added, and no variable is changed.
- `exec_positional`, `appended_join`, `appended_loop`, `appended_pass`: one clause, and one turn.
- `Runs.append`: a run of any length, by induction on it.
-/

namespace QueryGen

open Template (BindStyle Options)

variable {α : Type}

/-! ## States of a positional run -/

/-- A state from which positional code follows the runs of the work. -/
structure Inside (args : String → Value α) (n : Numbering) (wide : Bool) (builder : String)
    (around : List (Pass α)) (work : Work α) (m : Machine α) : Prop where
  numbered : work.Numbered n builder
  named : ∀ b ∈ work.bindings, b.Named
  grammatical : work.Grammatical wide
  /-- Blocks are joined into the statement itself. -/
  main : wide = true → builder = Reserved.sqlBuilder
  locals : m.locals = around.flatMap Pass.locals
  globals : m.globals = args

theorem Inside.read_eq {args : String → Value α} {n : Numbering} {wide : Bool} {builder : String}
    {around : List (Pass α)} {work : Work α} {m : Machine α}
    (h : Inside args n wide builder around work m) : m.read = readIn args around := by
  funext name
  rw [Machine.read, readIn, h.locals, h.globals]

/-- The state `m'` is `m` with the text of `units` and their bound values, and with the choices
that are left. A narrow run touches one builder only. -/
structure Appended (w : World α) (args : String → Value α) (wide : Bool) (builder : String)
    (units : List (Written α)) (left : List (Choice α)) (m m' : Machine α) : Prop where
  locals : m'.locals = m.locals
  globals : m'.globals = m.globals
  appended : m'.appended = m.appended ++ (Written.boundsAll units).map fun b => b.value w args
  text : m'.texts builder = m.texts builder ++ Written.textAll w args .positional units
  others : wide = false → ∀ b, b ≠ builder → m'.texts b = m.texts b
  choices : m'.choices = left

namespace Appended

variable {w : World α} {args : String → Value α} {wide : Bool} {builder : String}
  {units others : List (Written α)} {left left' : List (Choice α)} {m m' m'' : Machine α}

theorem refl (h : m.choices = left) : Appended w args wide builder [] left m m where
  locals := rfl
  globals := rfl
  appended := by simp [Written.boundsAll]
  text := by simp [Written.textAll]
  others _ _ _ := rfl
  choices := h

theorem trans (h : Appended w args wide builder units left m m')
    (h' : Appended w args wide builder others left' m' m'') :
    Appended w args wide builder (units ++ others) left' m m'' where
  locals := h'.locals.trans h.locals
  globals := h'.globals.trans h.globals
  appended := by simp [h'.appended, h.appended]
  text := by rw [h'.text, h.text, Written.textAll_append, List.append_assoc]
  others hw b hb := (h'.others hw b hb).trans (h.others hw b hb)
  choices := h'.choices

/-- Choices that were made do not matter for what follows. -/
theorem ofChoices {choices : List (Choice α)}
    (h : Appended w args wide builder units left { m with choices } m') :
    Appended w args wide builder units left m m' :=
  ⟨h.locals, h.globals, h.appended, h.text, h.others, h.choices⟩

end Appended

section Cases

variable {w : World α} {args : String → Value α} {receiver : String} {n n' : Numbering}
  {wide : Bool} {builder : String} {around : List (Pass α)} {units others : List (Written α)}
  {left left' : List (Choice α)} {m m' m'' : Machine α}

/-! ## SQL clauses -/

/-- The text of marks where the variables are those of the turns around. -/
theorem positional_text_marks (w : World α) (hread : m.read = readIn args around)
    (marks : List Mark) :
    (marks.flatMap (Mark.atoms ⟨.positional, receiver⟩)).flatMap (Atom.text w m) =
      Written.textAll w args .positional (marks.map (Mark.written around)) := by
  induction marks with
  | nil => rfl
  | cons mark rest ih =>
    rw [List.flatMap_cons, List.flatMap_append, List.map_cons, Written.textAll, ih]
    congr 1
    cases mark with
    | char c => rfl
    | bound b => rfl
    | quoted expr => simp [Mark.atoms, Atom.text, Mark.written, Written.text, hread]

/-- The statements of a SQL clause append its values and write its text. -/
theorem exec_positional {own : String} {fragments : List Fragment} {rest : List Clause}
    (h : Inside args n wide builder around (.clauses (.sql own fragments :: rest)) m)
    (hc : m.choices = left) :
    ∃ m', Statement.execAll w (sqlStatements ⟨.positional, receiver⟩ own fragments) m = some m' ∧
      Appended w args wide builder ((settled fragments).map (Mark.written around)) left m m' := by
  have hn := (List.cons.inj h.numbered).1
  rw [Clause.number, Clause.sql.injEq] at hn
  obtain ⟨rfl, -⟩ := hn
  have hblank : ∀ b ∈ bindingsOf fragments, b.key.TightEnd :=
    fun b hb => (h.named b (List.mem_append_left _ hb)).tightEnd
  unfold sqlStatements
  split
  · next ho =>
    refine ⟨m, rfl, ?_⟩
    rw [(settled_eq_nil_iff ⟨.positional, receiver⟩ hblank).2 ho]
    exact .refl hc
  · next ho =>
    rw [Statement.execAll_append, exec_bindings, Option.bind_some]
    refine ⟨_, rfl, rfl, rfl, ?_, ?_, ?_, hc⟩
    · rw [boundsAll_map_written, bindings_settled, List.map_map]
      simp only [h.read_eq]
      rfl
    · rw [← positional_text_marks w h.read_eq, ← atoms_operandsOf _ hblank, ← flatMap_operand_eq]
      exact Function.update_self _ _ _
    · intro _ b hb
      exact Function.update_of_ne hb _ _

/-! ## Lists of clauses and branches -/

/-- The rest of a list of clauses, behind the first one. -/
theorem Inside.tail {c : Clause} {rest : List Clause}
    (h : Inside args n wide builder around (.clauses (c :: rest)) m)
    (ho : Appended w args wide builder units left m m') :
    Inside args (c.number n builder).2 wide builder around (.clauses rest) m' where
  numbered := h.numbered.tail
  named b hb := h.named b (List.mem_append_right _ hb)
  grammatical := h.grammatical.2
  main := h.main
  locals := ho.locals.trans h.locals
  globals := ho.globals.trans h.globals

/-- One clause and then the rest. -/
theorem appended_cons {c : Clause} {rest : List Clause}
    (h : Inside args n wide builder around (.clauses (c :: rest)) m)
    (hhead : ∃ m', Statement.execAll w (c.statements ⟨.positional, receiver⟩) m = some m' ∧
      Appended w args wide builder units left m m')
    (htail : ∀ m', Inside args (c.number n builder).2 wide builder around (.clauses rest) m' →
      m'.choices = left → ∃ m'', (Work.clauses rest).exec ⟨.positional, receiver⟩ w m' = some m'' ∧
        Appended w args wide builder others left' m' m'') :
    ∃ m'', (Work.clauses (c :: rest)).exec ⟨.positional, receiver⟩ w m = some m'' ∧
      Appended w args wide builder (units ++ others) left' m m'' := by
  obtain ⟨m', hm', ho⟩ := hhead
  obtain ⟨m'', hm'', ho'⟩ := htail m' (h.tail ho) ho.choices
  refine ⟨m'', ?_, ho.trans ho'⟩
  rw [Work.exec, Clause.statementsAll, Statement.execAll_append, hm', Option.bind_some]
  exact hm''

theorem Inside.branch {own cond : String} {body rest : List Clause} {otherwise : List Branch}
    (h : Inside args n wide builder around
      (.clauses (.branch own cond body otherwise :: rest)) m) :
    Inside args n wide builder around (.branches (.mk (some cond) body :: otherwise)) m where
  numbered := h.numbered.branch
  named b hb := h.named b (List.mem_append_left _ hb)
  grammatical := by
    obtain ⟨hchain, hbody, hothers⟩ := h.grammatical.1
    exact ⟨⟨hchain, hbody⟩, by simp, hothers⟩
  main := h.main
  locals := h.locals
  globals := h.globals

theorem Inside.firstBranch {cond : Option String} {body : List Clause} {rest : List Branch}
    (h : Inside args n wide builder around (.branches (.mk cond body :: rest)) m)
    (choices : List (Choice α)) :
    Inside args n wide builder around (.clauses body) { m with choices } where
  numbered := h.numbered.firstBranch
  named b hb := h.named b (List.mem_append_left _ hb)
  grammatical := h.grammatical.1.2
  main := h.main
  locals := h.locals
  globals := h.globals

theorem Inside.nextBranch {cond : Option String} {body : List Clause} {rest : List Branch}
    (h : Inside args n wide builder around (.branches (.mk cond body :: rest)) m)
    (choices : List (Choice α)) :
    Inside args (Clause.numberAll n builder body).2 wide builder around (.branches rest)
      { m with choices } where
  numbered := h.numbered.nextBranch
  named b hb := h.named b (List.mem_append_right _ hb)
  grammatical := h.grammatical.2.2
  main := h.main
  locals := h.locals
  globals := h.globals

/-! ## Blocks -/

/-- The text of a block is collected in its own builder and joined into the statement. -/
theorem appended_join {kind : JoinKind} {own target : String} {body rest : List Clause}
    (h : Inside args n wide builder around (.clauses (.join kind own target body :: rest)) m)
    (hc : m.choices = left')
    (hbody : ∀ m', Inside args (n.nextJoin kind).2 false own around (.clauses body) m' →
      m'.choices = left' →
      ∃ m'', (Work.clauses body).exec ⟨.positional, receiver⟩ w m' = some m'' ∧
        Appended w args false own units left m' m'') :
    ∃ m', Statement.execAll w
        ((Clause.join kind own target body).statements ⟨.positional, receiver⟩) m = some m' ∧
      Appended w args wide builder [.block kind units] left m m' := by
  obtain ⟨hown, htarget, hnumbered⟩ := h.numbered.join
  obtain ⟨hwide, hchain, hgrammatical⟩ := h.grammatical.1
  have hne : builder ≠ own := by
    rw [h.main hwide, hown]
    exact (builder_ne_sqlBuilder n kind).symm
  obtain ⟨m', hm', ho⟩ := hbody { m with texts := Function.update m.texts own [] }
    { numbered := hnumbered
      named := fun b hb => h.named b (List.mem_append_left _ hb)
      grammatical := hgrammatical
      main := by simp
      locals := h.locals
      globals := h.globals } hc
  have htext : m'.texts own = Written.textAll w args .positional units := by
    rw [ho.text]
    simp
  have hbuilder : m'.texts builder = m.texts builder := by
    rw [ho.others rfl builder hne]
    exact Function.update_of_ne hne _ _
  refine ⟨m'.write target (w.join kind (m'.texts own)), ?_, ho.locals, ho.globals, ?_, ?_, ?_,
    ho.choices⟩
  · rw [Work.exec] at hm'
    rw [Clause.statements, Statement.execAll, Statement.exec, Option.bind_some,
      Statement.execAll_append, hm', Option.bind_some, Statement.execAll, Statement.exec,
      Option.bind_some, Statement.execAll]
  · simpa [Written.boundsAll, Written.bounds] using ho.appended
  · rw [htarget, Machine.texts_write_self, hbuilder, htext]
    simp [Written.textAll, Written.text]
  · intro hw
    rw [hw] at hwide
    cases hwide

/-! ## Loops -/

theorem isNumbered_positional (receiver : String) (body : List Clause) :
    isNumbered ⟨.positional, receiver⟩ body = false := rfl

/-- The turns of a loop, from where it starts. -/
theorem appended_loop {own : String} {id : Nat} {range : ForRange} {index : LoopIndex}
    {body rest : List Clause} {pairs : List (Value α × Value α)} {choices : List (Choice α)}
    (h : Inside args n wide builder around
      (.clauses (.loop id own range index body :: rest)) m)
    (hc : m.choices = .range pairs :: choices)
    (hpasses : ∀ m', Inside args n.nextLoop.2 wide builder around
      (.passes id range index body 0 pairs) m' → m'.choices = choices →
      ∃ m'', (Work.passes id range index body 0 pairs).exec ⟨.positional, receiver⟩ w m' =
        some m'' ∧ Appended w args wide builder units left m' m'') :
    ∃ m', Statement.execAll w
        ((Clause.loop id own range index body).statements ⟨.positional, receiver⟩) m = some m' ∧
      Appended w args wide builder units left m m' := by
  obtain ⟨m', hm', ho⟩ := hpasses { m with choices }
    { numbered := h.numbered.loop 0 pairs
      named := fun b hb => h.named b (List.mem_append_left _ hb)
      grammatical := h.grammatical.1.2
      main := h.main
      locals := h.locals
      globals := h.globals } rfl
  have hrange : m.range? = some (pairs, { m with choices }) := by simp [Machine.range?, hc]
  refine ⟨m', ?_, ho.ofChoices⟩
  rw [Clause.statements, exec_loopStatements, isNumbered_positional]
  simp only [Machine.startLoop, hrange]
  exact hm'

/-- One turn, and then the others. -/
theorem appended_pass {id : Nat} {range : ForRange} {index : LoopIndex} {body : List Clause}
    {turn : Nat} {pair : Value α × Value α} {pairs : List (Value α × Value α)}
    (h : Inside args n wide builder around
      (.passes id range index body turn (pair :: pairs)) m)
    (hbody : ∀ n' m', Inside args n' false builder
      (⟨id, range, index, turn, pair⟩ :: around) (.clauses body) m' → m'.choices = m.choices →
      ∃ m'', (Work.clauses body).exec ⟨.positional, receiver⟩ w m' = some m'' ∧
        Appended w args false builder units left m' m'')
    (hrest : ∀ m', Inside args n wide builder around
      (.passes id range index body (turn + 1) pairs) m' → m'.choices = left →
      ∃ m'', (Work.passes id range index body (turn + 1) pairs).exec ⟨.positional, receiver⟩ w m' =
        some m'' ∧ Appended w args wide builder others left' m' m'') :
    ∃ m'', (Work.passes id range index body turn (pair :: pairs)).exec ⟨.positional, receiver⟩ w m =
        some m'' ∧ Appended w args wide builder (units ++ others) left' m m'' := by
  obtain ⟨n', hi, hnum⟩ := h.numbered
  obtain ⟨m', hm', ho⟩ := hbody (n'.pushLoop id index.name) (m.enter range.index range.value pair)
    { numbered := hnum
      named := h.named
      grammatical := h.grammatical
      main := by simp
      locals := by simp [Machine.enter, Pass.locals, h.locals]
      globals := h.globals } rfl
  have happended : Appended w args wide builder units left m { m' with locals := m.locals } :=
    ⟨rfl, ho.globals, ho.appended, ho.text, fun _ => ho.others rfl, ho.choices⟩
  obtain ⟨m'', hm'', ho'⟩ := hrest { m' with locals := m.locals }
    { numbered := ⟨n', hi, hnum⟩
      named := h.named
      grammatical := h.grammatical
      main := h.main
      locals := h.locals
      globals := ho.globals.trans h.globals } ho.choices
  refine ⟨m'', ?_, happended.trans ho'⟩
  simp only [Work.exec, isNumbered_positional, loopVariable, loopBody] at hm' hm'' ⊢
  rw [Machine.passes, hm', Option.bind_some]
  exact hm''

end Cases

/-- Positional code follows every run of a tree: it makes the same choices, adds the text of the
run, and appends the bound values in order. -/
theorem Runs.append {around : List (Pass α)} {work : Work α} {choices : List (Choice α)}
    {units : List (Written α)} (h : Runs around work choices units) (w : World α)
    (args : String → Value α) (receiver : String) {n : Numbering} {wide : Bool} {builder : String}
    {m : Machine α} {left : List (Choice α)}
    (hr : Inside args n wide builder around work m) (hc : m.choices = choices ++ left) :
    ∃ m', work.exec ⟨.positional, receiver⟩ w m = some m' ∧
      Appended w args wide builder units left m m' := by
  induction h generalizing n wide builder m left with
  | done => exact ⟨m, rfl, .refl hc⟩
  | sql hrest ih => exact appended_cons hr (exec_positional hr hc) fun m' hr' hc' => ih hr' hc'
  | @branch around own cond body otherwise rest choices more units others hb hrest ihb ih =>
    rw [List.append_assoc] at hc
    refine appended_cons hr ?_ fun m' hr' hc' => ih hr' hc'
    obtain ⟨m', hm', ho⟩ := ihb hr.branch hc
    refine ⟨m', ?_, ho⟩
    rw [Work.exec, Branch.alternatives, Branch.alternative, Alternative.execAll] at hm'
    rw [Clause.statements, Statement.execAll, Statement.exec, hm', Option.bind_some,
      Statement.execAll]
  | join hb hrest ihb ih =>
    rw [List.append_assoc] at hc
    exact appended_cons hr (appended_join hr hc fun m' hr' hc' => ihb hr' hc')
      fun m' hr' hc' => ih hr' hc'
  | loop hp hb hrest ihb ih =>
    rw [List.cons_append, List.append_assoc] at hc
    exact appended_cons hr (appended_loop hr hc fun m' hr' hc' => ihb hr' hc')
      fun m' hr' hc' => ih hr' hc'
  | noBranch => exact ⟨m, rfl, .refl hc⟩
  | otherwise hb ih =>
    obtain ⟨m', hm', ho⟩ := ih (hr.firstBranch m.choices) hc
    exact ⟨m', hm', ho⟩
  | @taken around cond body rest choices units hb ih =>
    obtain ⟨m', hm', ho⟩ := ih (hr.firstBranch (choices ++ left)) rfl
    have ht : m.test? = some (true, { m with choices := choices ++ left }) := by
      simp [Machine.test?, hc]
    refine ⟨m', ?_, ho.ofChoices⟩
    rw [Work.exec, Branch.alternatives, Branch.alternative, Alternative.execAll, ht]
    exact hm'
  | @passed around cond body rest choices units hrest ih =>
    obtain ⟨m', hm', ho⟩ := ih (hr.nextBranch (choices ++ left)) rfl
    have ht : m.test? = some (false, { m with choices := choices ++ left }) := by
      simp [Machine.test?, hc]
    refine ⟨m', ?_, ho.ofChoices⟩
    rw [Work.exec, Branch.alternatives, Branch.alternative, Alternative.execAll, ht]
    exact hm'
  | noPass => exact ⟨m, rfl, .refl hc⟩
  | pass hb hrest ihb ih =>
    rw [List.append_assoc] at hc
    exact appended_pass hr (fun n' m' hr' hc' => ihb hr' (hc'.trans hc)) fun m' hr' hc' => ih hr' hc'

end QueryGen
