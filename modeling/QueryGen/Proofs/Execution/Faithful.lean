import QueryGen.Method.Basic
import QueryGen.Proofs.Execution.Clean
import QueryGen.Proofs.Execution.Reach

/-!
# Named and positional binding

- `exec_methodStatements`: the code of a whole method along a run of its tree, in either style.
- `Agrees`, `Clause.Faithful`: both styles bind the same values, in one run and in every run.
- `faithful_of_separated`, `separated_of_faithful`: they do where the keys of the tree are
  separated, and nowhere else.
- `compile_faithful_iff`: so it is for compiled templates. `Hiding` is one that binds a wrong
  value.
-/

namespace QueryGen

open Template (BindStyle Options)

variable {α : Type}

/-! ## Whole methods -/

/-- The state in which a method starts. -/
def Machine.start (args : String → Value α) (choices : List (Choice α)) : Machine α :=
  { globals := args, choices }

theorem execAll_methodStatements (w : World α) (opts : Options) (tree : List Clause)
    (args : String → Value α) (choices : List (Choice α)) :
    Statement.execAll w (methodStatements opts tree) (.start args choices) =
      Statement.execAll w (Clause.statementsAll opts tree) { Machine.start args choices with
        texts := Function.update (fun _ => []) Reserved.sqlBuilder [] } := by
  unfold methodStatements declareBindings
  split
  · cases opts.bindStyle <;> rfl
  · rfl

/-- The code of a method follows every run of its tree. -/
theorem exec_methodStatements (w : World α) (args : String → Value α) (opts : Options)
    {tree : List Clause} {choices : List (Choice α)} {units : List (Written α)}
    (hn : (Clause.numberAll {} Reserved.sqlBuilder tree).1 = tree)
    (hc : Clause.AllClean tree) (hg : Clause.AllGrammatical true tree)
    (h : Runs [] (.clauses tree) choices units) :
    ∃ m, Statement.execAll w (methodStatements opts tree) (.start args choices) = some m ∧
      m.puts = recorded opts.bindStyle .named
        ((Written.boundsAll units).map fun b => (b.key w args, b.value w args)) ∧
      m.appended = recorded opts.bindStyle .positional
        ((Written.boundsAll units).map fun b => b.value w args) ∧
      m.texts Reserved.sqlBuilder = Written.textAll w args opts.bindStyle units := by
  have hready : Ready opts args {} true Reserved.sqlBuilder [] (.clauses tree)
      { Machine.start args choices with
        texts := Function.update (fun _ => []) Reserved.sqlBuilder [] } :=
    { numbered := hn
      clean := hc
      grammatical := hg
      main := fun _ => rfl
      follows := ⟨rfl, by simp, fun _ _ => rfl, fun _ _ => rfl⟩
      numbers := fun _ _ => by simp [Numbers]
      counted := trivial }
  obtain ⟨m, hm, he⟩ := h.follow w args opts hready (List.append_nil choices).symm
  refine ⟨m, ?_, he.puts, he.appended, ?_⟩
  · rw [execAll_methodStatements]
    exact hm
  · rw [he.text]
    simp

/-! ## Two styles -/

/-- The states behind the code of one run in both styles: the same text but for placeholders, and
the same values behind these. -/
structure Agrees (w : World α) (args : String → Value α) (units : List (Written α))
    (named positional : Machine α) : Prop where
  namedText : named.texts Reserved.sqlBuilder = Written.textAll w args .named units
  positionalText : positional.texts Reserved.sqlBuilder = Written.textAll w args .positional units
  /-- The keys that were written, looked up in the map, have the values of the list. -/
  values : ((Written.boundsAll units).map fun b => named.lookup (b.key w args)) =
    positional.appended.map some
  /-- No key was used in other turns again. -/
  apart : ∀ b ∈ Written.boundsAll units, ∀ d ∈ Written.boundsAll units,
    b.key w args = d.key w args → b.around = d.around

/-- In every run of a tree, named and positional binding give the same bound values. -/
def Clause.Faithful (receiver : String) (tree : List Clause) : Prop :=
  ∀ (α : Type) (w : World α) (args : String → Value α) (choices : List (Choice α))
    (units : List (Written α)), Runs [] (.clauses tree) choices units →
    ∃ named positional,
      Statement.execAll w (methodStatements ⟨.named, receiver⟩ tree) (.start args choices) =
        some named ∧
      Statement.execAll w (methodStatements ⟨.positional, receiver⟩ tree) (.start args choices) =
        some positional ∧
      Agrees w args units named positional

/-- The last value put under a key is that of every value under the key, when they are equal. -/
theorem lookup_reverse_map {β γ δ : Type} [BEq γ] [LawfulBEq γ] {key : β → γ} {value : β → δ}
    {bs : List β} {b : β} (hb : b ∈ bs) (h : ∀ d ∈ bs, key d = key b → value d = value b) :
    (bs.map fun d => (key d, value d)).reverse.lookup (key b) = some (value b) := by
  have hsome : ((bs.map fun d => (key d, value d)).reverse.lookup (key b)).isSome = true :=
    List.lookup_isSome_iff.2 ⟨_, List.mem_reverse.2 (List.mem_map_of_mem hb), by simp⟩
  obtain ⟨v, hv⟩ := Option.isSome_iff_exists.1 hsome
  obtain ⟨front, back, hl, -⟩ := List.lookup_eq_some_iff.1 hv
  have hmem : (key b, v) ∈ (bs.map fun d => (key d, value d)).reverse := by simp [hl]
  obtain ⟨d, hd, he⟩ := List.mem_map.1 (List.mem_reverse.1 hmem)
  rw [Prod.mk.injEq] at he
  rw [hv, ← he.2, h d hd he.1]

theorem faithful_of_separated {tree : List Clause} (receiver : String)
    (hn : (Clause.numberAll {} Reserved.sqlBuilder tree).1 = tree)
    (hc : Clause.AllClean tree) (hg : Clause.AllGrammatical true tree)
    (hs : Clause.Separated tree) : Clause.Faithful receiver tree := by
  intro α w args choices units h
  obtain ⟨named, hnamed, hputs, -, hntext⟩ :=
    exec_methodStatements w args ⟨.named, receiver⟩ hn hc hg h
  obtain ⟨positional, hpositional, -, happended, hptext⟩ :=
    exec_methodStatements w args ⟨.positional, receiver⟩ hn hc hg h
  have hkeys : ∀ b ∈ Written.boundsAll units, ∀ d ∈ Written.boundsAll units,
      b.key w args = d.key w args → b.around = d.around ∧ b.binding.expr = d.binding.expr :=
    fun b hb d hd => around_eq_of_key_eq hn hs w args h hb hd
  refine ⟨named, positional, hnamed, hpositional, hntext, hptext, ?_,
    fun b hb d hd hk => (hkeys b hb d hd hk).1⟩
  rw [happended, recorded, if_pos rfl, List.map_map]
  refine List.map_congr_left fun b hb => ?_
  rw [Machine.lookup, hputs, recorded, if_pos rfl]
  refine lookup_reverse_map hb fun d hd hk => ?_
  obtain ⟨haround, hexpr⟩ := hkeys d hd b hb hk
  rw [Bound.value, Bound.value, haround, hexpr]

theorem separated_of_faithful {tree : List Clause} {receiver : String}
    (hn : (Clause.numberAll {} Reserved.sqlBuilder tree).1 = tree)
    (hg : Clause.AllGrammatical true tree) (hf : Clause.Faithful receiver tree) :
    Clause.Separated tree := by
  by_contra hs
  obtain ⟨w⟩ : Nonempty (World Empty) :=
    ⟨⟨Empty.elim, fun v _ => v, fun _ => [], fun _ text => text⟩⟩
  obtain ⟨choices, units, hr, b, hbm, d, hdm, hk, hne⟩ := exists_key_eq hn hg hs w fun _ => .int 0
  obtain ⟨named, positional, -, -, ha⟩ := hf Empty w (fun _ => .int 0) choices units hr
  exact hne (ha.apart b hbm d hdm hk)

/-! ## Compiled templates -/

/-- Named and positional binding give the same bound values in every run of a template exactly
where the keys of its tree are separated: every loop shows its index variable to the bindings in
it, and no name that is bound outside loops is the key of a binding in a loop. The parameters are
those of a checked method. -/
theorem compile_faithful_iff {template : String} {scope : Template.Scope} {opts : Options}
    {c : Compiled} (h : compile template scope opts = .ok c)
    (hp : ∀ p ∈ scope.params, Reserved.isReserved p.name = false) :
    Clause.Faithful opts.receiver c.clauses ↔ Clause.Separated c.clauses := by
  obtain ⟨-, sections, ht, tree, hb, rfl⟩ := compile_eq_ok_iff.1 h
  have hn := numberAll_of_buildClauses hb
  have hg := (isBody_of_buildClauses hb).2
  constructor
  · exact separated_of_faithful hn hg
  · exact faithful_of_separated opts.receiver hn (allClean_of_buildClauses hp ht hb) hg

namespace Nesting

/-- A value outside loops, and one inside two loops with indices of different names. -/
def tree : List Clause :=
  [.sql "generateSQL" [.text "a = ", .bind ⟨"a", ⟨"a", none⟩⟩],
    .loop 0 "generateSQL" ⟨"i", "g", "groups", .slice (.slice (.simple "int"))⟩ (.declared "i")
      [.loop 1 "generateSQL" ⟨"j", "v", "g", .slice (.simple "int")⟩ (.declared "j")
        [.sql "generateSQL" [.text " ", .bind ⟨"v", ⟨"v", some ⟨1, ["i", "j"]⟩⟩⟩]]]]

theorem compile_eq :
    compile "a = @a {{for i, g := range groups}}{{for j, v := range g}} @v {{end}}{{end}}"
      ⟨[⟨"a", .simple "int", false⟩, ⟨"groups", .slice (.slice (.simple "int")), false⟩], "t",
        .empty⟩ ⟨.named, "u"⟩ = .ok (render ⟨.named, "u"⟩ tree) := by
  refine compile_ofList [.literal "a = ", .data ⟨"a", .method, .simple "int"⟩,
    .loop ⟨"i", "g", "groups", .slice (.slice (.simple "int"))⟩,
    .loop ⟨"j", "v", "g", .slice (.simple "int")⟩, .literal " ",
    .data ⟨"v", .loop, .simple "int"⟩, .close, .close] rfl ?tokens ?tree
  case tokens => decide +kernel
  case tree => rfl

theorem separated : Clause.Separated tree := by
  refine ⟨by decide, fun p hp hl => ?_⟩
  rintro ⟨f, outer, numbers, -, -, htext⟩
  have hexprs : ∀ p ∈ Clause.meetsAll tree, p.1.loops = [] →
      p.1.binding.expr = "a" ∧ p.2.binding.expr = "v" := by decide
  obtain ⟨ha, hv⟩ := hexprs p hp hl
  rw [ha, hv] at htext
  exact absurd (congrArg List.head? htext) (by simp [printNumbers])

/-- Loops whose indices have different names are bound alike in both styles. -/
theorem compile_faithful_nested :
    ∃ c, compile "a = @a {{for i, g := range groups}}{{for j, v := range g}} @v {{end}}{{end}}"
        ⟨[⟨"a", .simple "int", false⟩, ⟨"groups", .slice (.slice (.simple "int")), false⟩], "t",
          .empty⟩ ⟨.named, "u"⟩ = .ok c ∧
      Clause.Faithful "u" c.clauses :=
  ⟨_, compile_eq, (compile_faithful_iff compile_eq (by decide)).2 separated⟩

end Nesting

/-! ## A hidden index -/

namespace Hiding

/-- The range of the outer loop. -/
def outer : ForRange := ⟨"i", "g", "groups", .slice (.slice (.simple "int"))⟩

/-- The range of the inner loop, which declares the index of the outer one again. -/
def inner : ForRange := ⟨"i", "v", "g", .slice (.simple "int")⟩

def position : Binding := ⟨"i", ⟨"i", some ⟨0, ["i"]⟩⟩⟩

def innerPosition : Binding := ⟨"i", ⟨"i", some ⟨1, ["i", "i"]⟩⟩⟩

def value : Binding := ⟨"v", ⟨"v", some ⟨1, ["i", "i"]⟩⟩⟩

def tree : List Clause :=
  [.loop 0 "generateSQL" outer (.declared "i")
    [.sql "generateSQL" [.text " ", .bind position],
      .loop 1 "generateSQL" inner (.declared "i")
        [.sql "generateSQL" [.text " ", .bind innerPosition, .text " ", .bind value]]]]

def world : World Empty := ⟨Empty.elim, fun v _ => v, fun _ => [], fun _ text => text⟩

/-- Two groups of one value each, 7 and 8. -/
def choices : List (Choice Empty) :=
  [.range [(.int 0, .int 0), (.int 1, .int 0)], .range [(.int 0, .int 7)],
    .range [(.int 0, .int 8)]]

/-- The turn of a group. -/
def group (n : Nat) : Pass Empty := ⟨0, outer, .declared "i", n, (.int n, .int 0)⟩

/-- The values that are bound for a group, and for its value `v`. -/
def bounds (n : Nat) (v : Int) : List (Bound Empty) :=
  [⟨position, [group n]⟩,
    ⟨innerPosition, [⟨1, inner, .declared "i", 0, (.int 0, .int v)⟩, group n]⟩,
    ⟨value, [⟨1, inner, .declared "i", 0, (.int 0, .int v)⟩, group n]⟩]

theorem compile_eq :
    compile "{{for i, g := range groups}} @i {{for i, v := range g}} @i @v {{end}}{{end}}"
      ⟨[⟨"groups", .slice (.slice (.simple "int")), false⟩], "t", .empty⟩ ⟨.named, "u"⟩ =
        .ok (render ⟨.named, "u"⟩ tree) := by
  refine compile_ofList [.loop outer, .literal " ", .data ⟨"i", .loop, .simple "int"⟩,
    .loop inner, .literal " ", .data ⟨"i", .loop, .simple "int"⟩, .literal " ",
    .data ⟨"v", .loop, .simple "int"⟩, .close, .close] rfl ?tokens ?tree
  case tokens => decide +kernel
  case tree => rfl

theorem exists_runs :
    ∃ units, Runs [] (.clauses tree) choices units ∧
      Written.boundsAll units = bounds 0 7 ++ bounds 1 8 := by
  have hone : ∀ value : Value Empty, inner.Admits [((.int 0 : Value Empty), value)] :=
    fun _ _ => ⟨[0], by simp, rfl⟩
  have htwo : outer.Admits [((.int 0 : Value Empty), (.int 0 : Value Empty)), (.int 1, .int 0)] :=
    fun _ => ⟨[0, 1], by simp, rfl⟩
  refine ⟨_, .loop htwo
    (.pass (.sql (.loop (hone (.int 7)) (.pass (.sql .done) .noPass) .done))
      (.pass (.sql (.loop (hone (.int 8)) (.pass (.sql .done) .noPass) .done)) .noPass)) .done, ?_⟩
  cbv

/-- Where a loop hides the index of the loop around it, the value of the second group overwrites
that of the first one. -/
theorem not_faithful_of_hidden_index :
    ∃ c, compile "{{for i, g := range groups}} @i {{for i, v := range g}} @i @v {{end}}{{end}}"
        ⟨[⟨"groups", .slice (.slice (.simple "int")), false⟩], "t", .empty⟩ ⟨.named, "u"⟩ = .ok c ∧
      ¬Clause.Faithful "u" c.clauses := by
  refine ⟨_, compile_eq, fun hf => ?_⟩
  obtain ⟨units, hrun, hbounds⟩ := exists_runs
  obtain ⟨named, positional, hnamed, hpositional, ha⟩ := hf Empty world (fun _ => .int 0) _ _ hrun
  have hkeys : (Statement.execAll world (methodStatements ⟨.named, "u"⟩ tree)
      (.start (fun _ => .int 0) choices)).map (fun m =>
        (bounds 0 7 ++ bounds 1 8).map fun b => m.lookup (b.key world fun _ => .int 0)) =
      some [some (.int 0), some (.int 0), some (.int 8),
        some (.int 1), some (.int 0), some (.int 8)] := by
    cbv
  have hlist : (Statement.execAll world (methodStatements ⟨.positional, "u"⟩ tree)
      (.start (fun _ => .int 0) choices)).map Machine.appended =
      some [.int 0, .int 0, .int 7, .int 1, .int 0, .int 8] := by
    cbv
  have hvalues := ha.values
  simp only [render] at hnamed hpositional
  rw [hnamed, Option.map_some, Option.some.injEq] at hkeys
  rw [hpositional, Option.map_some, Option.some.injEq] at hlist
  rw [hbounds, hkeys, hlist] at hvalues
  simp at hvalues

end Hiding

end QueryGen
