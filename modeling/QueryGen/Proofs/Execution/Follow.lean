import QueryGen.Proofs.Execution.Variables
import QueryGen.Proofs.Statement.Groups

/-!
# The code of a clause tree does what the tree says

The statements that a clause tree is rendered to, run along the choices of a run of the tree.

- `Clause.Clean`: what the names in a tree have to be, so that they do not meet generated ones.
- `Effect`: the bound values and the text of a run are added to a state, and the rest of it stays.
- `exec_sqlStatements`, `effect_join`, `effect_loop`, `effect_pass`: one clause, and one turn.
- `Runs.follow`: a run of any length, by induction on it. The named and the positional rendering
  both follow the run; what they add differs only in the placeholders and the container.
-/

namespace QueryGen

open Template (BindStyle Options)

variable {α : Type}

/-! ## Names in a tree -/

/-- The names that a fragment reads. -/
def Fragment.Clean : Fragment → Prop
  | text _ => True
  | bind b => b.Named ∧ Readable (ParamRef.ofPath b.expr).root
  | quote expr => Readable (ParamRef.ofPath expr).root

mutual

/-- The names that a clause reads and declares are none that generated code declares. -/
def Clause.Clean : Clause → Prop
  | .sql _ fragments => ∀ f ∈ fragments, f.Clean
  | .branch _ _ body otherwise => Clause.AllClean body ∧ Branch.AllClean otherwise
  | .join _ _ _ body => Clause.AllClean body
  | .loop _ _ range _ body => range.Unreserved ∧ Clause.AllClean body

/-- Clauses with such names. -/
def Clause.AllClean : List Clause → Prop
  | [] => True
  | c :: rest => c.Clean ∧ Clause.AllClean rest

/-- Branches with such names. -/
def Branch.AllClean : List Branch → Prop
  | [] => True
  | .mk _ body :: rest => Clause.AllClean body ∧ Branch.AllClean rest

end

/-! ## What a run adds to a state -/

/-- What is recorded in one style only. -/
def recorded {β : Type} (style wanted : BindStyle) (xs : List β) : List β :=
  if style = wanted then xs else []

theorem recorded_append {β : Type} (style wanted : BindStyle) (xs ys : List β) :
    recorded style wanted (xs ++ ys) = recorded style wanted xs ++ recorded style wanted ys := by
  unfold recorded
  split <;> simp

@[simp] theorem recorded_nil {β : Type} (style wanted : BindStyle) :
    recorded style wanted ([] : List β) = [] := by
  unfold recorded
  split <;> rfl

/-- The state `m'` is `m` with the bound values and the text of `units`, and with the choices that
are left. A narrow run touches one builder only. -/
structure Effect (w : World α) (args : String → Value α) (style : BindStyle) (n : Numbering)
    (wide : Bool) (builder : String) (units : List (Written α)) (left : List (Choice α))
    (m m' : Machine α) : Prop where
  keeps : m.Keeps n m'
  puts : m'.puts = m.puts ++ recorded style .named
    ((Written.boundsAll units).map fun b => (b.key w args, b.value w args))
  appended : m'.appended = m.appended ++ recorded style .positional
    ((Written.boundsAll units).map fun b => b.value w args)
  text : m'.texts builder = m.texts builder ++ Written.textAll w args style units
  others : wide = false → ∀ b, b ≠ builder → m'.texts b = m.texts b
  choices : m'.choices = left

namespace Effect

variable {w : World α} {args : String → Value α} {style : BindStyle} {n n' : Numbering}
  {wide : Bool} {builder : String} {units others : List (Written α)} {left left' : List (Choice α)}
  {m m' m'' : Machine α}

theorem refl (h : m.choices = left) : Effect w args style n wide builder [] left m m where
  keeps := .refl n m
  puts := by simp [Written.boundsAll]
  appended := by simp [Written.boundsAll]
  text := by simp [Written.textAll]
  others _ _ _ := rfl
  choices := h

theorem trans (h : Effect w args style n wide builder units left m m')
    (h' : Effect w args style n' wide builder others left' m' m'')
    (hn : n.indices ≤ n'.indices) :
    Effect w args style n wide builder (units ++ others) left' m m'' where
  keeps := h.keeps.trans h'.keeps hn
  puts := by simp [h'.puts, h.puts, recorded_append]
  appended := by simp [h'.appended, h.appended, recorded_append]
  text := by rw [h'.text, h.text, Written.textAll_append, List.append_assoc]
  others hw b hb := (h'.others hw b hb).trans (h.others hw b hb)
  choices := h'.choices

end Effect

theorem Statement.execAll_append (w : World α) (a b : List Statement) (m : Machine α) :
    execAll w (a ++ b) m = (execAll w a m).bind (execAll w b) := by
  induction a generalizing m with
  | nil => rfl
  | cons s rest ih =>
    simp only [List.cons_append, execAll, Option.bind_assoc]
    exact Option.bind_congr fun next _ => ih next

/-! ## SQL clauses -/

/-- The text of a unit of an operand. -/
def Atom.text (w : World α) (m : Machine α) : Atom → List Char
  | char c => [c]
  | key k => m.key w k
  | quote _ expr => w.quote (w.eval m.read expr)

theorem flatMap_operand_eq (w : World α) (m : Machine α) (operands : List Operand) :
    operands.flatMap (m.operand w) =
      (operands.flatMap Operand.atoms).flatMap (Atom.text w m) := by
  rw [List.flatMap_assoc]
  refine List.flatMap_congr fun o _ => ?_
  cases o with
  | text cs => simp [Machine.operand, Operand.atoms, Atom.text, List.flatMap_map]
  | key k | quote receiver expr => simp [Machine.operand, Operand.atoms, Atom.text]

theorem exec_bindings (w : World α) (style : BindStyle) (bs : List Binding) (m : Machine α) :
    Statement.execAll w (bs.map (Binding.statement style)) m = some { m with
      puts := m.puts ++ recorded style .named
        (bs.map fun b => (m.key w b.key.key, w.eval m.read b.expr))
      appended := m.appended ++ recorded style .positional
        (bs.map fun b => w.eval m.read b.expr) } := by
  induction bs generalizing m with
  | nil => simp [Statement.execAll]
  | cons b rest ih =>
    cases style with
    | named | positional =>
      simp only [List.map_cons, Statement.execAll, Binding.statement, Statement.exec,
        Option.bind_some, ih, recorded, reduceCtorEq, ↓reduceIte, List.append_nil,
        List.append_assoc, List.singleton_append]
      rfl

/-- The key that a statement prints is the key of the run. -/
theorem key_eq (w : World α) {args : String → Value α} {n : Numbering} {around : List (Pass α)}
    {m : Machine α} (hf : Follows args n around m) (hn : Numbers args around m) (b : Binding)
    (hb : b.key = ⟨b.expr, n.loopKey?⟩) :
    m.key w b.key.key = (⟨b, around⟩ : Bound α).key w args := by
  rw [hb]
  cases around with
  | nil =>
    have hl : n.loops = [] := hf.loops
    simp [BindKey.key, Numbering.loopKey?, hl, Machine.key, Bound.key]
  | cons p outer =>
    have hl : n.loops = (p.id, p.index.name) :: outer.map fun p => (p.id, p.index.name) := hf.loops
    have hnames : (((p.index.name :: outer.map fun p => p.index.name).reverse).map m.read) =
        (p :: outer).reverse.map (Pass.number args (p :: outer)) := by
      rw [← List.map_cons (f := fun p : Pass α => p.index.name), ← List.map_reverse, List.map_map]
      exact List.map_congr_left fun q hq => hn q (List.mem_reverse.1 hq)
    simp only [BindKey.key, Numbering.loopKey?, hl, Machine.key, Bound.key, List.map_cons,
      List.map_map, Function.comp_def]
    rw [← hnames]

/-- The text of a SQL clause is that of its marks. -/
theorem text_marks (w : World α) {args : String → Value α} {opts : Options} {n : Numbering}
    {around : List (Pass α)} {m : Machine α} {marks : List Mark} (hf : Follows args n around m)
    (hb : ∀ b, .bound b ∈ marks → b.key = ⟨b.expr, n.loopKey?⟩)
    (hq : ∀ expr, .quoted expr ∈ marks → Readable (ParamRef.ofPath expr).root)
    (hn : opts.bindStyle = .named → ∀ b, .bound b ∈ marks → Numbers args around m) :
    (marks.flatMap (Mark.atoms opts)).flatMap (Atom.text w m) =
      Written.textAll w args opts.bindStyle (marks.map (Mark.written around)) := by
  induction marks with
  | nil => rfl
  | cons mark rest ih =>
    rw [List.flatMap_cons, List.flatMap_append, List.map_cons, Written.textAll,
      ih (fun b h => hb b (List.mem_cons_of_mem _ h)) (fun e h => hq e (List.mem_cons_of_mem _ h))
        (fun hs b h => hn hs b (List.mem_cons_of_mem _ h))]
    congr 1
    cases mark with
    | char c => rfl
    | bound b =>
      cases hs : opts.bindStyle with
      | positional => simp [Mark.atoms, hs, Atom.text, Mark.written, Written.text,
          Written.placeholder]
      | named =>
        have hk := key_eq w hf (hn hs b List.mem_cons_self) b (hb b List.mem_cons_self)
        simp only [Mark.written, Written.text, Written.placeholder, ← hk]
        cases he : b.key.key with
        | plain name =>
          simp [Mark.atoms, hs, he, Atom.text, List.flatMap_map, Machine.key]
        | formatted name loopId indices =>
          simp [Mark.atoms, hs, he, Atom.text]
    | quoted expr =>
      have he := w.eval_congr (hf.vars _ (hq expr List.mem_cons_self))
      simp [Mark.atoms, Atom.text, Mark.written, Written.text, he]

section Sql

variable {fragments : List Fragment}

theorem mem_bindingsOf_of_settled {b : Binding} (h : .bound b ∈ settled fragments) :
    b ∈ bindingsOf fragments := by
  rw [← bindings_settled]
  exact List.mem_filterMap.2 ⟨_, h, rfl⟩

theorem quote_mem_of_settled {expr : String} (h : .quoted expr ∈ settled fragments) :
    .quote expr ∈ fragments := by
  have hq : expr ∈ quotesOf fragments := by
    rw [← filterMap_quote_marks, ← filterMap_settled (fun _ _ => rfl)]
    exact List.mem_filterMap.2 ⟨_, h, rfl⟩
  obtain ⟨f, hf, he⟩ := List.mem_filterMap.1 hq
  cases f with
  | quote e =>
    obtain rfl := Option.some.inj he
    exact hf
  | _ => cases he

theorem mem_of_mem_bindingsOf {b : Binding} (h : b ∈ bindingsOf fragments) :
    .bind b ∈ fragments := by
  obtain ⟨f, hf, he⟩ := List.mem_filterMap.1 h
  cases f with
  | bind d =>
    obtain rfl := Option.some.inj he
    exact hf
  | _ => cases he

/-- A numbered fragment binds under its own expression, inside the loops that are open. -/
theorem key_of_number {scope : Option LoopKey}
    (h : fragments.map (Fragment.number scope) = fragments) {b : Binding}
    (hb : b ∈ bindingsOf fragments) : b.key = ⟨b.expr, scope⟩ := by
  have hall := List.map_inj_left.1 (h.trans (List.map_id _).symm)
  have he : Fragment.bind ⟨b.expr, ⟨b.expr, scope⟩⟩ = .bind b := hall _ (mem_of_mem_bindingsOf hb)
  rw [Fragment.bind.injEq] at he
  rw [← he]

/-- The statements of a SQL clause bind its values and write its text. -/
theorem exec_sqlStatements (w : World α) {args : String → Value α} (opts : Options)
    {n : Numbering} (wide : Bool) (builder : String) {around : List (Pass α)} {m : Machine α}
    {left : List (Choice α)} (hf : Follows args n around m)
    (hnum : fragments.map (Fragment.number n.loopKey?) = fragments)
    (hclean : ∀ f ∈ fragments, f.Clean)
    (hn : opts.bindStyle = .named → bindingsOf fragments ≠ [] → Numbers args around m)
    (hc : m.choices = left) :
    ∃ m', Statement.execAll w (sqlStatements opts builder fragments) m = some m' ∧
      Effect w args opts.bindStyle n wide builder
        ((settled fragments).map (Mark.written around)) left m m' := by
  have hblank : ∀ b ∈ bindingsOf fragments, b.key.TightEnd :=
    fun b hb => (hclean _ (mem_of_mem_bindingsOf hb)).1.tightEnd
  unfold sqlStatements
  split
  · next ho =>
    refine ⟨m, rfl, ?_⟩
    rw [(settled_eq_nil_iff opts hblank).2 ho]
    exact .refl hc
  · next ho =>
    rw [Statement.execAll_append, exec_bindings, Option.bind_some]
    refine ⟨_, rfl, ?_⟩
    have hbounds : Written.boundsAll ((settled fragments).map (Mark.written around)) =
        (bindingsOf fragments).map fun b => (⟨b, around⟩ : Bound α) := by
      rw [boundsAll_map_written, bindings_settled]
    have hvalue : ∀ b ∈ bindingsOf fragments,
        w.eval m.read b.expr = (⟨b, around⟩ : Bound α).value w args := fun b hb =>
      w.eval_congr (hf.vars _ (hclean _ (mem_of_mem_bindingsOf hb)).2)
    have htext : (operandsOf opts fragments).flatMap (m.operand w) =
        Written.textAll w args opts.bindStyle ((settled fragments).map (Mark.written around)) := by
      rw [flatMap_operand_eq, atoms_operandsOf opts hblank]
      refine text_marks w hf (fun b hb => key_of_number hnum (mem_bindingsOf_of_settled hb))
        (fun e he => hclean _ (quote_mem_of_settled he)) fun hs b hb => hn hs ?_
      exact List.ne_nil_of_mem (mem_bindingsOf_of_settled hb)
    refine ⟨⟨rfl, fun _ _ => rfl⟩, ?_, ?_, ?_, ?_, hc⟩
    · rw [hbounds, List.map_map]
      cases hs : opts.bindStyle with
      | positional => rfl
      | named =>
        refine congrArg (m.puts ++ ·) (List.map_congr_left fun b hb => ?_)
        have hk := key_eq w hf (hn hs (List.ne_nil_of_mem hb)) b (key_of_number hnum hb)
        simp only [Function.comp_apply, ← hk, hvalue b hb]
    · rw [hbounds, List.map_map]
      cases hs : opts.bindStyle with
      | named => rfl
      | positional =>
        exact congrArg (m.appended ++ ·) (List.map_congr_left fun b hb => hvalue b hb)
    · rw [← htext]
      exact Function.update_self _ _ _
    · intro _ b hb
      exact Function.update_of_ne hb _ _

end Sql

/-! ## Work and its code -/

/-- The statements in the body of a loop. A counter steps behind them. -/
def loopBody (numbered : Bool) (index : LoopIndex) (body : List Statement) : List Statement :=
  match numbered, index with
  | true, .counter name => body ++ [.stepCounter name]
  | _, _ => body

/-- The state in which a loop starts. -/
def Machine.startLoop (numbered : Bool) (index : LoopIndex) (m : Machine α) : Machine α :=
  match numbered, index with
  | true, .counter name => m.assign name (.int 0)
  | _, _ => m

namespace Work

/-- The state behind the code of what is left to run. -/
def exec (opts : Options) (w : World α) : Work α → Machine α → Option (Machine α)
  | clauses cs => Statement.execAll w (Clause.statementsAll opts cs)
  | branches bs => Alternative.execAll w (Branch.alternatives opts bs)
  | passes _ range index body _ pairs =>
    let numbered := isNumbered opts body
    Machine.passes (loopVariable numbered range index) range.value
      (Statement.execAll w (loopBody numbered index (Clause.statementsAll opts body))) pairs

def Clean : Work α → Prop
  | clauses cs => Clause.AllClean cs
  | branches bs => Branch.AllClean bs
  | passes _ range _ body _ _ => range.Unreserved ∧ Clause.AllClean body

def Grammatical (wide : Bool) : Work α → Prop
  | clauses cs => Clause.AllGrammatical wide cs
  | branches bs => Branch.AllGrammatical wide bs
  | passes _ _ _ body _ _ => Clause.AllGrammatical false body

def bindings : Work α → List Binding
  | clauses cs => Clause.bindingsAll cs
  | branches bs => Branch.bindingsAll bs
  | passes _ _ _ body _ _ => Clause.bindingsAll body

/-- The counter of a loop has counted the turns before. -/
def Counted (opts : Options) (m : Machine α) : Work α → Prop
  | passes _ _ index body turn _ => isNumbered opts body = true →
    ∀ name, index = .counter name → m.globals name = .int turn
  | _ => True

end Work

theorem Clause.any_hasBindings_iff {cs : List Clause} :
    cs.any Clause.hasBindings = true ↔ Clause.bindingsAll cs ≠ [] := by
  rw [Clause.bindingsAll_eq_flatMap, List.any_eq_true, Ne, List.flatMap_eq_nil_iff]
  simp [Clause.hasBindings]

theorem isNumbered_iff {opts : Options} {body : List Clause} :
    isNumbered opts body = true ↔ opts.bindStyle = .named ∧ Clause.bindingsAll body ≠ [] := by
  rw [isNumbered, Bool.and_eq_true, beq_iff_eq, Clause.any_hasBindings_iff]

/-- A state from which the code of the work follows its runs. -/
structure Ready (opts : Options) (args : String → Value α) (n : Numbering) (wide : Bool)
    (builder : String) (around : List (Pass α)) (work : Work α) (m : Machine α) : Prop where
  numbered : work.Numbered n builder
  clean : work.Clean
  grammatical : work.Grammatical wide
  /-- Blocks are joined into the statement itself. -/
  main : wide = true → builder = Reserved.sqlBuilder
  follows : Follows args n around m
  numbers : opts.bindStyle = .named → work.bindings ≠ [] → Numbers args around m
  counted : work.Counted opts m

section Cases

variable {w : World α} {args : String → Value α} {opts : Options} {n n' : Numbering}
  {wide : Bool} {builder : String} {around : List (Pass α)} {units others : List (Written α)}
  {left left' : List (Choice α)} {m m' m'' : Machine α}

/-- Choices that were made do not matter for what follows. -/
theorem Effect.ofChoices {style : BindStyle} {choices : List (Choice α)}
    (h : Effect w args style n wide builder units left { m with choices } m') :
    Effect w args style n wide builder units left m m' :=
  ⟨⟨h.keeps.locals, h.keeps.globals⟩, h.puts, h.appended, h.text, h.others, h.choices⟩

theorem Follows.ofChoices (h : Follows args n around m) (choices : List (Choice α)) :
    Follows args n around { m with choices } :=
  h.keep ⟨rfl, fun _ _ => rfl⟩ (.refl n)

/-- The rest of a list of clauses is ready behind the first one. -/
theorem Ready.tail {c : Clause} {rest : List Clause}
    (h : Ready opts args n wide builder around (.clauses (c :: rest)) m)
    (ho : Effect w args opts.bindStyle n wide builder units left m m') :
    Ready opts args (c.number n builder).2 wide builder around (.clauses rest) m' where
  numbered := h.numbered.tail
  clean := h.clean.2
  grammatical := h.grammatical.2
  main := h.main
  follows := h.follows.keep ho.keeps (Clause.grows_number n builder c)
  numbers hs hb := (h.numbers hs fun he => hb (List.append_eq_nil_iff.1 he).2).keep ho.keeps
    h.follows.known
  counted := trivial

/-- One clause and then the rest. -/
theorem effect_cons {c : Clause} {rest : List Clause}
    (h : Ready opts args n wide builder around (.clauses (c :: rest)) m)
    (hhead : ∃ m', Statement.execAll w (c.statements opts) m = some m' ∧
      Effect w args opts.bindStyle n wide builder units left m m')
    (htail : ∀ m', Ready opts args (c.number n builder).2 wide builder around (.clauses rest) m' →
      m'.choices = left → ∃ m'', (Work.clauses rest).exec opts w m' = some m'' ∧
        Effect w args opts.bindStyle (c.number n builder).2 wide builder others left' m' m'') :
    ∃ m'', (Work.clauses (c :: rest)).exec opts w m = some m'' ∧
      Effect w args opts.bindStyle n wide builder (units ++ others) left' m m'' := by
  obtain ⟨m', hm', ho⟩ := hhead
  obtain ⟨m'', hm'', ho'⟩ := htail m' (h.tail ho) ho.choices
  refine ⟨m'', ?_, ho.trans ho' (Clause.grows_number n builder c).indices⟩
  rw [Work.exec, Clause.statementsAll, Statement.execAll_append, hm', Option.bind_some]
  exact hm''

/-! ## Branches -/

theorem Ready.branch {own cond : String} {body rest : List Clause} {otherwise : List Branch}
    (h : Ready opts args n wide builder around
      (.clauses (.branch own cond body otherwise :: rest)) m) :
    Ready opts args n wide builder around
      (.branches (.mk (some cond) body :: otherwise)) m where
  numbered := h.numbered.branch
  clean := h.clean.1
  grammatical := by
    obtain ⟨hchain, hbody, hothers⟩ := h.grammatical.1
    exact ⟨⟨hchain, hbody⟩, by simp, hothers⟩
  main := h.main
  follows := h.follows
  numbers hs hb := h.numbers hs fun he => hb (List.append_eq_nil_iff.1 he).1
  counted := trivial

theorem Ready.firstBranch {cond : Option String} {body : List Clause} {rest : List Branch}
    (h : Ready opts args n wide builder around (.branches (.mk cond body :: rest)) m)
    (choices : List (Choice α)) :
    Ready opts args n wide builder around (.clauses body) { m with choices } where
  numbered := h.numbered.firstBranch
  clean := h.clean.1
  grammatical := h.grammatical.1.2
  main := h.main
  follows := h.follows.ofChoices choices
  numbers hs hb := (h.numbers hs fun he => hb (List.append_eq_nil_iff.1 he).1).keep
    ⟨rfl, fun _ _ => rfl⟩ h.follows.known
  counted := trivial

theorem Ready.nextBranch {cond : Option String} {body : List Clause} {rest : List Branch}
    (h : Ready opts args n wide builder around (.branches (.mk cond body :: rest)) m)
    (choices : List (Choice α)) :
    Ready opts args (Clause.numberAll n builder body).2 wide builder around (.branches rest)
      { m with choices } where
  numbered := h.numbered.nextBranch
  clean := h.clean.2
  grammatical := h.grammatical.2.2
  main := h.main
  follows := h.follows.keep ⟨rfl, fun _ _ => rfl⟩ (Clause.grows_numberAll n builder body)
  numbers hs hb := (h.numbers hs fun he => hb (List.append_eq_nil_iff.1 he).2).keep
    ⟨rfl, fun _ _ => rfl⟩ h.follows.known
  counted := trivial

/-! ## Blocks -/

/-- The text of a block is collected in its own builder and joined into the statement. -/
theorem effect_join {kind : JoinKind} {own target : String} {body rest : List Clause}
    (h : Ready opts args n wide builder around (.clauses (.join kind own target body :: rest)) m)
    (hc : m.choices = left')
    (hbody : ∀ m', Ready opts args (n.nextJoin kind).2 false own around (.clauses body) m' →
      m'.choices = left' → ∃ m'', (Work.clauses body).exec opts w m' = some m'' ∧
        Effect w args opts.bindStyle (n.nextJoin kind).2 false own units left m' m'') :
    ∃ m', Statement.execAll w ((Clause.join kind own target body).statements opts) m = some m' ∧
      Effect w args opts.bindStyle n wide builder [.block kind units] left m m' := by
  obtain ⟨hown, htarget, hnumbered⟩ := h.numbered.join
  obtain ⟨hwide, hchain, hgrammatical⟩ := h.grammatical.1
  have hne : builder ≠ own := by
    rw [h.main hwide, hown]
    exact (builder_ne_sqlBuilder n kind).symm
  obtain ⟨m', hm', ho⟩ := hbody { m with texts := Function.update m.texts own [] }
    { numbered := hnumbered
      clean := h.clean.1
      grammatical := hgrammatical
      main := by simp
      follows := h.follows.keep ⟨rfl, fun _ _ => rfl⟩ (n.grows_nextJoin kind)
      numbers := fun hs hb => (h.numbers hs fun he => hb (List.append_eq_nil_iff.1 he).1).keep
        ⟨rfl, fun _ _ => rfl⟩ h.follows.known
      counted := trivial } hc
  have htexts : m'.texts own = Written.textAll w args opts.bindStyle units := by
    rw [ho.text]
    simp
  have hbuilder : m'.texts builder = m.texts builder := by
    rw [ho.others rfl builder hne]
    exact Function.update_of_ne hne _ _
  refine ⟨m'.write target (w.join kind (m'.texts own)), ?_, ?_⟩
  · rw [Clause.statements, Statement.execAll, Statement.exec, Option.bind_some,
      Statement.execAll_append]
    rw [Work.exec] at hm'
    rw [hm', Option.bind_some, Statement.execAll, Statement.exec, Option.bind_some,
      Statement.execAll]
  · have hg := n.grows_nextJoin kind
    refine ⟨⟨ho.keeps.locals, fun name hname => ?_⟩, ?_, ?_, ?_, ?_, ho.choices⟩
    · exact ho.keeps.globals name fun k hk => hname k (hg.indices.trans hk)
    · simpa [Written.boundsAll, Written.bounds] using ho.puts
    · simpa [Written.boundsAll, Written.bounds] using ho.appended
    · rw [htarget, Machine.texts_write_self, hbuilder, htexts]
      simp [Written.textAll, Written.text]
    · intro hw
      rw [hw] at hwide
      cases hwide

/-! ## Loops -/

theorem exec_loopStatements (w : World α) (numbered : Bool) (range : ForRange)
    (index : LoopIndex) (body : List Statement) (m : Machine α) :
    Statement.execAll w (loopStatements numbered range index body) m =
      (m.startLoop numbered index).range?.bind fun (pairs, m) =>
        m.passes (loopVariable numbered range index) range.value
          (Statement.execAll w (loopBody numbered index body)) pairs := by
  have hsingle : ∀ (s : Statement) (m : Machine α), Statement.execAll w [s] m = s.exec w m := by
    intro s m
    simp [Statement.execAll]
  cases numbered with
  | false => exact hsingle _ m
  | true =>
    cases index with
    | declared name | synthetic name => exact hsingle _ m
    | counter name =>
      simp only [loopStatements]
      rw [Statement.execAll, Statement.exec, Option.bind_some, hsingle]
      rfl

theorem Machine.startLoop_eq (numbered : Bool) (index : LoopIndex) (m : Machine α) :
    m.startLoop numbered index = { m with globals := (m.startLoop numbered index).globals } := by
  unfold Machine.startLoop
  split <;> rfl

/-- Where a loop starts nothing has changed but its own counter, which is new. -/
theorem keeps_startLoop {range : ForRange} {index : LoopIndex}
    (hi : n.loopIndex range = (index, n')) (numbered : Bool) (choices : List (Choice α)) :
    m.Keeps n { m.startLoop numbered index with choices } := by
  unfold Machine.startLoop
  split
  · next name =>
    refine ⟨rfl, fun other ho => Function.update_of_ne ?_ _ _⟩
    rcases Numbering.of_loopIndex hi with ⟨-, he, -⟩ | ⟨-, -, he, -⟩ | ⟨-, -, he, -⟩
    · cases he
      exact ho _ le_rfl
    · cases he
    · cases he
  · exact ⟨rfl, fun _ _ => rfl⟩

/-- The turns of a loop, from where it starts. -/
theorem effect_loop {own : String} {id : Nat} {range : ForRange} {index : LoopIndex}
    {body rest : List Clause} {pairs : List (Value α × Value α)} {choices : List (Choice α)}
    (h : Ready opts args n wide builder around
      (.clauses (.loop id own range index body :: rest)) m)
    (hc : m.choices = .range pairs :: choices)
    (hpasses : ∀ m', Ready opts args n.nextLoop.2 wide builder around
      (.passes id range index body 0 pairs) m' → m'.choices = choices →
      ∃ m'', (Work.passes id range index body 0 pairs).exec opts w m' = some m'' ∧
        Effect w args opts.bindStyle n.nextLoop.2 wide builder units left m' m'') :
    ∃ m', Statement.execAll w ((Clause.loop id own range index body).statements opts) m = some m' ∧
      Effect w args opts.bindStyle n wide builder units left m m' := by
  obtain ⟨n', hi, hbody⟩ := h.numbered.loop 0 pairs
  have hkeeps : m.Keeps n { m.startLoop (isNumbered opts body) index with choices } :=
    ⟨(keeps_startLoop hi _ choices).locals, (keeps_startLoop hi _ choices).globals⟩
  have hstart := m.startLoop_eq (isNumbered opts body) index
  obtain ⟨m', hm', ho⟩ := hpasses { m.startLoop (isNumbered opts body) index with choices }
    { numbered := ⟨n', hi, hbody⟩
      clean := h.clean.1
      grammatical := h.grammatical.1.2
      main := h.main
      follows := h.follows.keep hkeeps n.grows_nextLoop
      numbers := fun hs hb => (h.numbers hs fun he => hb (List.append_eq_nil_iff.1 he).1).keep
        hkeeps h.follows.known
      counted := by
        intro hb name he
        rw [hb, he]
        exact Function.update_self _ _ _ } rfl
  refine ⟨m', ?_, ?_⟩
  · have hrange : (m.startLoop (isNumbered opts body) index).range? =
        some (pairs, { m.startLoop (isNumbered opts body) index with choices }) := by
      rw [hstart]
      simp [Machine.range?, hc]
    rw [Clause.statements, exec_loopStatements, hrange]
    exact hm'
  · rw [hstart] at ho hkeeps
    have hg := n.grows_nextLoop
    exact ⟨⟨ho.keeps.locals, fun name hname => (ho.keeps.globals name fun k hk =>
      hname k (hg.indices.trans hk)).trans (hkeeps.globals name hname)⟩, ho.puts, ho.appended,
      ho.text, ho.others, ho.choices⟩

/-- The turn that is next, its variables bound. -/
theorem Ready.pass {id : Nat} {range : ForRange} {index : LoopIndex} {body : List Clause}
    {turn : Nat} {pair : Value α × Value α} {pairs : List (Value α × Value α)}
    (h : Ready opts args n wide builder around
      (.passes id range index body turn (pair :: pairs)) m)
    (hi : n.loopIndex range = (index, n'))
    (hbody : (Clause.numberAll (n'.pushLoop id index.name) builder body).1 = body) :
    Ready opts args (n'.pushLoop id index.name) false builder
      (⟨id, range, index, turn, pair⟩ :: around) (.clauses body)
      (m.enter (loopVariable (isNumbered opts body) range index) range.value pair) where
  numbered := hbody
  clean := h.clean.2
  grammatical := h.grammatical
  main := by simp
  follows := h.follows.enter h.clean.1 hi _ id turn pair
  numbers hs hb := by
    have hnum : isNumbered opts body = true := isNumbered_iff.2 ⟨hs, hb⟩
    have := (h.numbers hs hb).enter h.follows h.clean.1 hi id turn (h.counted hnum) pair
    rwa [← hnum] at this
  counted := trivial

/-- The counter of a loop steps behind the body. -/
def Machine.step (numbered : Bool) (index : LoopIndex) (m : Machine α) : Machine α :=
  match numbered, index with
  | true, .counter name => m.assign name (m.globals name).next
  | _, _ => m

theorem execAll_loopBody (w : World α) (numbered : Bool) (index : LoopIndex)
    (body : List Statement) (m : Machine α) :
    Statement.execAll w (loopBody numbered index body) m =
      (Statement.execAll w body m).map (Machine.step numbered index) := by
  unfold loopBody
  split
  · next name =>
    rw [Statement.execAll_append, Option.map_eq_bind]
    rfl
  · next hne =>
    have hstep : Machine.step (α := α) numbered index = id := by
      funext m
      unfold Machine.step
      split
      · next name => exact absurd rfl (hne name rfl)
      · rfl
    rw [hstep, Option.map_id]
    rfl

/-- Stepping a counter changes that counter alone. -/
theorem Machine.step_eq (numbered : Bool) (index : LoopIndex) (m : Machine α) :
    m.step numbered index = { m with globals := (m.step numbered index).globals } ∧
      ∀ name, index ≠ .counter name → (m.step numbered index).globals name = m.globals name := by
  unfold Machine.step
  split
  · next other =>
    refine ⟨rfl, fun name hne => Function.update_of_ne ?_ _ _⟩
    rintro rfl
    exact hne rfl
  · exact ⟨rfl, fun _ _ => rfl⟩

/-- One turn, and then the others. -/
theorem effect_pass {id : Nat} {range : ForRange} {index : LoopIndex} {body : List Clause}
    {turn : Nat} {pair : Value α × Value α} {pairs : List (Value α × Value α)}
    (h : Ready opts args n wide builder around
      (.passes id range index body turn (pair :: pairs)) m)
    (hbody : ∀ n' m', Ready opts args n' false builder
      (⟨id, range, index, turn, pair⟩ :: around) (.clauses body) m' → m'.choices = m.choices →
      ∃ m'', (Work.clauses body).exec opts w m' = some m'' ∧
        Effect w args opts.bindStyle n' false builder units left m' m'')
    (hrest : ∀ m', Ready opts args n wide builder around
      (.passes id range index body (turn + 1) pairs) m' → m'.choices = left →
      ∃ m'', (Work.passes id range index body (turn + 1) pairs).exec opts w m' = some m'' ∧
        Effect w args opts.bindStyle n wide builder others left' m' m'') :
    ∃ m'', (Work.passes id range index body turn (pair :: pairs)).exec opts w m = some m'' ∧
      Effect w args opts.bindStyle n wide builder (units ++ others) left' m m'' := by
  obtain ⟨n', hi, hnum⟩ := h.numbered
  have hn : n.indices ≤ n'.indices := by
    have := (n.grows_loopIndex range).indices
    rwa [hi] at this
  obtain ⟨m', hm', ho⟩ := hbody _ _ (h.pass hi hnum) rfl
  obtain ⟨hstep, hglobals⟩ := m'.step_eq (isNumbered opts body) index
  -- The counter of this loop is older than what the body changes.
  have hcounter : ∀ name, index = .counter name → name = Reserved.loopIndex n.indices ∧
      m'.globals name = m.globals name := by
    rintro name rfl
    rcases Numbering.of_loopIndex hi with ⟨-, he, hn'⟩ | ⟨-, -, he, -⟩ | ⟨-, -, he, -⟩
    · obtain rfl := LoopIndex.counter.inj he
      refine ⟨rfl, ho.keeps.globals _ fun k hk hname => ?_⟩
      rw [← Reserved.loopIndex_inj hname, hn'] at hk
      exact absurd hk (Nat.not_succ_le_self _)
    · cases he
    · cases he
  have heffect : Effect w args opts.bindStyle n wide builder units left m
      { m'.step (isNumbered opts body) index with locals := m.locals } := by
    rw [hstep]
    refine ⟨⟨rfl, fun name hname => ?_⟩, ho.puts, ho.appended, ho.text, fun _ => ho.others rfl,
      ho.choices⟩
    have hne : index ≠ .counter name := fun he => hname _ le_rfl (hcounter name he).1
    exact (hglobals name hne).trans (ho.keeps.globals name fun k hk => hname k (hn.trans hk))
  obtain ⟨m'', hm'', ho'⟩ := hrest _
    { numbered := ⟨n', hi, hnum⟩
      clean := h.clean
      grammatical := h.grammatical
      main := h.main
      follows := h.follows.keep heffect.keeps (.refl n)
      numbers := fun hs hb => (h.numbers hs hb).keep heffect.keeps h.follows.known
      counted := by
        intro hb name he
        have hstepped : (m'.step (isNumbered opts body) index).globals name =
            (m'.globals name).next := by
          rw [hb, he]
          exact Function.update_self _ _ _
        rw [hstepped, (hcounter name he).2, h.counted hb name he]
        rfl } heffect.choices
  refine ⟨m'', ?_, heffect.trans ho' le_rfl⟩
  simp only [Work.exec] at hm' hm'' ⊢
  simp only [Machine.passes, execAll_loopBody, hm', Option.map_some, Option.bind_some]
  exact hm''

end Cases

/-- The code of a clause tree follows every run of it: it makes the same choices, adds the text of
the run, and records the bound values in order. -/
theorem Runs.follow {around : List (Pass α)} {work : Work α} {choices : List (Choice α)}
    {units : List (Written α)} (h : Runs around work choices units) (w : World α)
    (args : String → Value α) (opts : Options) {n : Numbering} {wide : Bool} {builder : String}
    {m : Machine α} {left : List (Choice α)}
    (hr : Ready opts args n wide builder around work m) (hc : m.choices = choices ++ left) :
    ∃ m', work.exec opts w m = some m' ∧
      Effect w args opts.bindStyle n wide builder units left m m' := by
  induction h generalizing n wide builder m left with
  | done => exact ⟨m, rfl, .refl hc⟩
  | @sql around own fragments rest choices units hrest ih =>
    have hn := (List.cons.inj hr.numbered).1
    rw [Clause.number, Clause.sql.injEq] at hn
    refine effect_cons hr ?_ fun m' hr' hc' => ih hr' hc'
    obtain ⟨m', hm', ho⟩ := exec_sqlStatements w opts wide own hr.follows hn.2
      hr.clean.1 (fun hs hb => hr.numbers hs fun he => hb (List.append_eq_nil_iff.1 he).1) hc
    exact ⟨m', hm', hn.1 ▸ ho⟩
  | @branch around own cond body otherwise rest choices more units others hb hrest ihb ih =>
    rw [List.append_assoc] at hc
    refine effect_cons hr ?_ fun m' hr' hc' => ih hr' hc'
    obtain ⟨m', hm', ho⟩ := ihb hr.branch hc
    refine ⟨m', ?_, ho⟩
    rw [Clause.statements, Statement.execAll, Statement.exec]
    rw [Work.exec, Branch.alternatives, Branch.alternative, Alternative.execAll] at hm'
    rw [hm', Option.bind_some, Statement.execAll]
  | @join around kind own target body rest choices more units others hb hrest ihb ih =>
    rw [List.append_assoc] at hc
    exact effect_cons hr (effect_join hr hc fun m' hr' hc' => ihb hr' hc')
      fun m' hr' hc' => ih hr' hc'
  | @loop around id own range index body rest pairs choices more units others hp hb hrest ihb ih =>
    rw [List.cons_append, List.append_assoc] at hc
    exact effect_cons hr (effect_loop hr hc fun m' hr' hc' => ihb hr' hc')
      fun m' hr' hc' => ih hr' hc'
  | noBranch => exact ⟨m, rfl, .refl hc⟩
  | otherwise hb ih =>
    obtain ⟨m', hm', ho⟩ := ih (hr.firstBranch m.choices) hc
    exact ⟨m', hm', ho⟩
  | @taken around cond body rest choices units hb ih =>
    obtain ⟨m', hm', ho⟩ := ih (hr.firstBranch (choices ++ left)) rfl
    refine ⟨m', ?_, ho.ofChoices⟩
    have ht : m.test? = some (true, { m with choices := choices ++ left }) := by
      simp [Machine.test?, hc]
    rw [Work.exec, Branch.alternatives, Branch.alternative, Alternative.execAll, ht]
    exact hm'
  | @passed around cond body rest choices units hrest ih =>
    obtain ⟨m', hm', ho⟩ := ih (hr.nextBranch (choices ++ left)) rfl
    refine ⟨m', ?_, ?_⟩
    · have ht : m.test? = some (false, { m with choices := choices ++ left }) := by
        simp [Machine.test?, hc]
      rw [Work.exec, Branch.alternatives, Branch.alternative, Alternative.execAll, ht]
      exact hm'
    · exact ((Effect.refl rfl).trans ho (Clause.grows_numberAll _ _ body).indices).ofChoices
  | noPass => exact ⟨m, rfl, .refl hc⟩
  | @pass around id range index body turn pair pairs choices more units others hb hrest ihb ih =>
    rw [List.append_assoc] at hc
    exact effect_pass hr (fun n' m' hr' hc' => ihb hr' (hc'.trans hc)) fun m' hr' hc' => ih hr' hc'

end QueryGen
