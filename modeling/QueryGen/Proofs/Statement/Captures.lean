import QueryGen.Output.QueryFile
import QueryGen.Proofs.Clause.Annotations
import QueryGen.Proofs.Method.Names
import QueryGen.Proofs.Statement.Hygiene

/-!
# Names that hide what generated code refers to

A generated body refers to packages, predeclared names and helper functions. They stand outside the
method, so a receiver, a parameter or a loop variable of the same name hides them.

- `Statement.globals`: what a statement refers to outside the method.
- `Statement.Uncaptured`: nothing that a statement refers to is hidden by given names or by the
  variables of loops around it.
- `FreeAt`, `Clause.uncaptured_statementsAll`: that the statements of a tree are free is said by its
  bindings and its blocks alone, by induction on the tree.
- `Compiled.Needs`, `QueryMethod.runGlobals`: what a body refers to, and in which cases.
- `QueryMethod.uncaptured_iff`: names that generated code declares are taken by nobody. Names from
  outside the method are not kept clear of, and exactly those that the body needs must not be taken.
-/

namespace QueryGen

open Template (BindStyle Options Scope)

/-! ## Names from outside a method -/

/-- The names from outside the method that a key is printed with. -/
def Key.globals (k : Key) : List String := if k.isFormatted then ["fmt"] else []

/-- The names from outside the method in an operand. -/
def Operand.globals : Operand → List String
  | key k => k.globals
  | _ => []

/-- The packages, predeclared names and helper functions that a statement refers to outside
conditions and ranges, and outside the blocks in it. -/
def Statement.globals : Statement → List String
  | .declareMap => ["make", "string"]
  | .declareBuilder _ => ["strings"]
  | .put key _ => key.globals
  | .append _ => ["append"]
  | .write _ operands => operands.flatMap Operand.globals
  | .join kind _ _ => [kind.helper]
  | _ => []

mutual

/-- No name from outside the method that a statement refers to, at any depth, is one of `names` or a
variable of a loop around that place. -/
def Statement.Uncaptured (names : List String) : Statement → Prop
  | .branch _ body alternatives =>
    Statement.AllUncaptured names body ∧ Alternative.AllUncaptured names alternatives
  | .loop index value _ body => Statement.AllUncaptured (loopDeclares index value ++ names) body
  | s => ∀ name ∈ s.globals, name ∉ names

/-- The same for statements. -/
def Statement.AllUncaptured (names : List String) : List Statement → Prop
  | [] => True
  | s :: rest => s.Uncaptured names ∧ Statement.AllUncaptured names rest

/-- The same for alternatives. -/
def Alternative.AllUncaptured (names : List String) : List Alternative → Prop
  | [] => True
  | .mk _ body :: rest =>
    Statement.AllUncaptured names body ∧ Alternative.AllUncaptured names rest

end

namespace Statement

variable {names : List String}

theorem allUncaptured_iff {ss : List Statement} :
    AllUncaptured names ss ↔ ∀ s ∈ ss, s.Uncaptured names := by
  induction ss with
  | nil => simp [AllUncaptured]
  | cons s rest ih => simp [AllUncaptured, ih]

theorem allUncaptured_append {a b : List Statement} :
    AllUncaptured names (a ++ b) ↔ AllUncaptured names a ∧ AllUncaptured names b := by
  simp only [allUncaptured_iff, List.forall_mem_append]

/-- A counter refers to nothing outside. -/
theorem allUncaptured_loopStatements (numbered : Bool) (range : ForRange) (index : LoopIndex)
    (body : List Statement) :
    AllUncaptured names (loopStatements numbered range index body) ↔
      AllUncaptured (loopDeclares (loopVariable numbered range index) range.value ++ names)
        body := by
  unfold loopStatements loopVariable
  split <;> simp [AllUncaptured, Uncaptured, allUncaptured_append, globals]

end Statement

/-! ## SQL clauses -/

/-- The name that the statements of a bound value refer to, if it is bound inside a loop. -/
def Template.BindStyle.global : BindStyle → String
  | named => "fmt"
  | positional => "append"

theorem Template.BindStyle.readable_global (style : BindStyle) : Readable style.global := by
  cases style <;> exact ⟨by decide, by decide⟩

/-- What the statement of a bound value refers to. A key is formatted inside loops only. -/
theorem Binding.mem_globals_statement {style : BindStyle} {b : Binding} {name : String} :
    name ∈ (b.statement style).globals ↔
      name = style.global ∧ (style = .named → b.key.scope.isSome = true) := by
  cases style with
  | positional => simp [Binding.statement, Statement.globals, BindStyle.global]
  | named =>
    rw [Binding.statement, Statement.globals, Key.globals, BindKey.isFormatted_key]
    cases b.key.scope <;> simp [BindStyle.global]

theorem mem_globals_write {opts : Options} {fragments : List Fragment} {builder name : String} :
    name ∈ (Statement.write builder (operandsOf opts fragments)).globals ↔
      name = "fmt" ∧ FormatsKeys opts (bindingsOf fragments) := by
  rw [← usesFormat_operandsOf, Statement.globals, List.mem_flatMap, List.any_eq_true,
    and_comm (a := name = "fmt"), ← exists_and_right]
  refine exists_congr fun o => ?_
  rw [and_assoc]
  refine and_congr_right fun _ => ?_
  cases o with
  | key k => by_cases hk : k.isFormatted <;> simp [Operand.globals, Key.globals,
      Operand.usesFormat, hk]
  | text cs | quote receiver expr => simp [Operand.globals, Operand.usesFormat]

/-- The text of a clause formats no key that its bindings do not format. -/
theorem uncaptured_sqlStatements {opts : Options} {fragments : List Fragment} {names : List String}
    (builder : String) (h : ∀ b ∈ bindingsOf fragments, b.key.TightEnd) :
    Statement.AllUncaptured names (sqlStatements opts builder fragments) ↔
      ∀ b ∈ bindingsOf fragments, ∀ name ∈ (b.statement opts.bindStyle).globals,
        name ∉ names := by
  have hplain : ∀ b : Binding, (b.statement opts.bindStyle).Uncaptured names ↔
      ∀ name ∈ (b.statement opts.bindStyle).globals, name ∉ names := by
    intro b
    unfold Binding.statement
    cases opts.bindStyle <;> rfl
  unfold sqlStatements
  split
  · next hn => simp [bindingsOf_eq_nil h hn, Statement.AllUncaptured]
  · simp only [Statement.allUncaptured_iff, List.forall_mem_append, List.forall_mem_map, hplain,
      List.forall_mem_singleton, and_iff_left_iff_imp]
    intro hb name hname
    obtain ⟨rfl, hs, b, hmem, hscope⟩ := mem_globals_write.1 hname
    exact hb b hmem _ (Binding.mem_globals_statement.2 ⟨by rw [hs]; rfl, fun _ => hscope⟩)

/-! ## Trees -/

/-- The variables that a loop declares for its body, where that binds values. -/
def Frame.declares (style : BindStyle) (f : Frame) : List String :=
  loopDeclares (loopVariable (style == .named) f.range f.index) f.range.value

/-- The names that are visible inside loops, besides those that generated code declares. -/
def visible (style : BindStyle) (loops : List Frame) (names : List String) : List String :=
  loops.flatMap (Frame.declares style) ++ names

/-- The statements of bound values refer to nothing that is hidden at their sites, and those of
`where` and `set` blocks to nothing that is hidden by `here`. -/
structure FreeAt (style : BindStyle) (names here : List String) (sites : List Site)
    (sections : List Section) : Prop where
  sites : ∀ s ∈ sites, ∀ name ∈ (s.binding.statement style).globals,
    name ∉ visible style s.loops names
  joins : ∀ kind, .join kind ∈ sections → "strings" ∉ here ∧ kind.helper ∉ here

theorem freeAt_append {style : BindStyle} {names here : List String} {sites sites' : List Site}
    {sections sections' : List Section} :
    FreeAt style names here (sites ++ sites') (sections ++ sections') ↔
      FreeAt style names here sites sections ∧ FreeAt style names here sites' sections' := by
  constructor
  · intro h
    have hs := List.forall_mem_append.1 h.sites
    exact ⟨⟨hs.1, fun kind hk => h.joins kind (List.mem_append_left _ hk)⟩,
      ⟨hs.2, fun kind hk => h.joins kind (List.mem_append_right _ hk)⟩⟩
  · rintro ⟨h, h'⟩
    exact ⟨List.forall_mem_append.2 ⟨h.sites, h'.sites⟩,
      fun kind hk => (List.mem_append.1 hk).elim (h.joins kind) (h'.joins kind)⟩

/-- Other sections do not count. -/
theorem freeAt_congr {style : BindStyle} {names here : List String} {sites : List Site}
    {sections sections' : List Section}
    (h : ∀ kind, .join kind ∈ sections ↔ .join kind ∈ sections') :
    FreeAt style names here sites sections ↔ FreeAt style names here sites sections' :=
  ⟨fun hf => ⟨hf.sites, fun kind hk => hf.joins kind ((h kind).2 hk)⟩,
    fun hf => ⟨hf.sites, fun kind hk => hf.joins kind ((h kind).1 hk)⟩⟩

mutual

theorem Clause.join_notMem_flatten {c : Clause} (h : c.Grammatical false) (kind : JoinKind) :
    .join kind ∉ c.flatten := by
  match c with
  | .sql _ fragments =>
    rw [Clause.flatten, List.mem_map]
    rintro ⟨f, -, hf⟩
    cases f <;> cases hf
  | .branch _ cond body otherwise =>
    simp [Clause.flatten, Clause.join_notMem_flattenAll h.2.1 kind,
      Branch.join_notMem_flattenAll h.2.2 kind]
  | .join _ _ _ body => exact absurd h.1 Bool.false_ne_true
  | .loop _ _ range _ body =>
    simp [Clause.flatten, Clause.join_notMem_flattenAll h.2 kind]

/-- There is no `where` or `set` in a body that is not wide. -/
theorem Clause.join_notMem_flattenAll {cs : List Clause} (h : Clause.AllGrammatical false cs)
    (kind : JoinKind) : .join kind ∉ Clause.flattenAll cs := by
  match cs with
  | [] => exact List.not_mem_nil
  | c :: rest =>
    rw [Clause.flattenAll, List.mem_append, not_or]
    exact ⟨Clause.join_notMem_flatten h.1 kind, Clause.join_notMem_flattenAll h.2 kind⟩

theorem Branch.join_notMem_flattenAll {bs : List Branch} (h : Branch.AllGrammatical false bs)
    (kind : JoinKind) : .join kind ∉ Branch.flattenAll bs := by
  match bs with
  | [] => exact List.not_mem_nil
  | .mk cond body :: rest =>
    simp [Branch.flattenAll, Branch.flatten, Clause.join_notMem_flattenAll h.1.2 kind,
      Branch.join_notMem_flattenAll h.2.2 kind]

end

mutual

theorem Clause.bindings_sites (loops : List Frame) (c : Clause) :
    (c.sites loops).map Site.binding = c.bindings := by
  match c with
  | .sql _ fragments => simp [Clause.sites, Clause.bindings, Function.comp_def]
  | .branch _ cond body otherwise =>
    rw [Clause.sites, Clause.bindings, List.map_append, Clause.bindings_sitesAll loops body,
      Branch.bindings_sitesAll loops otherwise]
  | .join _ _ _ body => exact Clause.bindings_sitesAll loops body
  | .loop _ _ range index body => exact Clause.bindings_sitesAll (_ :: loops) body

/-- The sites of clauses are those of their bindings. -/
theorem Clause.bindings_sitesAll (loops : List Frame) (cs : List Clause) :
    (Clause.sitesAll loops cs).map Site.binding = Clause.bindingsAll cs := by
  match cs with
  | [] => rfl
  | c :: rest =>
    rw [Clause.sitesAll, Clause.bindingsAll, List.map_append, Clause.bindings_sites loops c,
      Clause.bindings_sitesAll loops rest]

theorem Branch.bindings_sitesAll (loops : List Frame) (bs : List Branch) :
    (Branch.sitesAll loops bs).map Site.binding = Branch.bindingsAll bs := by
  match bs with
  | [] => rfl
  | .mk cond body :: rest =>
    rw [Branch.sitesAll, Branch.bindingsAll, Branch.bindings, List.map_append,
      Clause.bindings_sitesAll loops body, Branch.bindings_sitesAll loops rest]

end

theorem Clause.sitesAll_eq_nil_iff {loops : List Frame} {cs : List Clause} :
    Clause.sitesAll loops cs = [] ↔ Clause.bindingsAll cs = [] := by
  rw [← Clause.bindings_sitesAll loops cs, List.map_eq_nil_iff]

mutual

theorem Clause.uncaptured_statements (opts : Options) {wide : Bool} (loops : List Frame)
    (names : List String) {c : Clause} (hg : c.Grammatical wide)
    (ht : ∀ b ∈ c.bindings, b.key.TightEnd) :
    Statement.AllUncaptured (visible opts.bindStyle loops names) (c.statements opts) ↔
      FreeAt opts.bindStyle names (visible opts.bindStyle loops names) (c.sites loops)
        c.flatten := by
  match c with
  | .sql builder fragments =>
    rw [Clause.statements, uncaptured_sqlStatements builder ht]
    refine ⟨fun h => ⟨List.forall_mem_map.2 h, fun kind hk => ?_⟩,
      fun h => List.forall_mem_map.1 h.sites⟩
    obtain ⟨f, -, hf⟩ := List.mem_map.1 hk
    cases f <;> cases hf
  | .branch _ cond body otherwise =>
    rw [Clause.bindings, List.forall_mem_append] at ht
    have hbody := Clause.uncaptured_statementsAll opts loops names hg.2.1 ht.1
    have hotherwise := Branch.uncaptured_alternatives opts loops names hg.2.2 ht.2
    rw [Clause.statements, Statement.AllUncaptured, Statement.AllUncaptured, and_true,
      Statement.Uncaptured, hbody, hotherwise, ← freeAt_append, Clause.sites]
    exact freeAt_congr fun kind => by simp [Clause.flatten]
  | .join kind own target body =>
    have hbody := Clause.uncaptured_statementsAll opts loops names hg.2.2 ht
    rw [Clause.statements, Statement.AllUncaptured, Statement.allUncaptured_append, hbody]
    simp only [Statement.AllUncaptured, Statement.Uncaptured, Statement.globals,
      List.forall_mem_singleton, and_true]
    constructor
    · rintro ⟨hstrings, hsites, hhelper⟩
      refine ⟨hsites.sites, fun k hk => ?_⟩
      simp only [Clause.flatten, List.mem_cons, List.mem_append, Section.join.injEq,
        List.not_mem_nil, reduceCtorEq, or_false] at hk
      rcases hk with rfl | hk
      · exact ⟨hstrings, hhelper⟩
      · exact hsites.joins k hk
    · intro h
      have hown := h.joins kind List.mem_cons_self
      exact ⟨hown.1, ⟨h.sites, fun k hk =>
        absurd hk (Clause.join_notMem_flattenAll hg.2.2 k)⟩, hown.2⟩
  | .loop id own range index body =>
    have hnone : ∀ kind, .join kind ∉ Clause.flattenAll body :=
      Clause.join_notMem_flattenAll hg.2
    have hjoins : ∀ kind, .join kind ∉ (Clause.loop id own range index body).flatten := by
      intro kind
      simp [Clause.flatten, hnone kind]
    rw [Clause.statements, Statement.allUncaptured_loopStatements]
    by_cases hb : Clause.bindingsAll body = []
    · -- no name is given to an index, but nothing in the body refers to anything
      have hbody := Clause.uncaptured_statementsAll opts []
        (loopDeclares (loopVariable (isNumbered opts body) range index) range.value ++
          visible opts.bindStyle loops names) hg.2 ht
      refine iff_of_true (hbody.2 ⟨?_, fun kind hk => absurd hk (hnone kind)⟩)
        ⟨?_, fun kind hk => absurd hk (hjoins kind)⟩
      · simp [Clause.sitesAll_eq_nil_iff.2 hb]
      · simp [Clause.sites, Clause.sitesAll_eq_nil_iff.2 hb]
    · have hnumbered : isNumbered opts body = (opts.bindStyle == .named) := by
        rw [Bool.eq_iff_iff, isNumbered_iff, beq_iff_eq]
        exact and_iff_left hb
      have hbody := Clause.uncaptured_statementsAll opts (⟨id, range, index⟩ :: loops) names
        hg.2 ht
      rw [visible, List.flatMap_cons, List.append_assoc] at hbody
      rw [hnumbered]
      refine hbody.trans ⟨fun h => ⟨h.sites, fun kind hk => absurd hk (hjoins kind)⟩,
        fun h => ⟨h.sites, fun kind hk => absurd hk (hnone kind)⟩⟩

/-- Whether statements of clauses are free is said by their bindings and their blocks. -/
theorem Clause.uncaptured_statementsAll (opts : Options) {wide : Bool} (loops : List Frame)
    (names : List String) {cs : List Clause} (hg : Clause.AllGrammatical wide cs)
    (ht : ∀ b ∈ Clause.bindingsAll cs, b.key.TightEnd) :
    Statement.AllUncaptured (visible opts.bindStyle loops names) (Clause.statementsAll opts cs) ↔
      FreeAt opts.bindStyle names (visible opts.bindStyle loops names)
        (Clause.sitesAll loops cs) (Clause.flattenAll cs) := by
  match cs with
  | [] => exact iff_of_true trivial ⟨by simp [Clause.sitesAll], by simp [Clause.flattenAll]⟩
  | c :: rest =>
    rw [Clause.bindingsAll, List.forall_mem_append] at ht
    rw [Clause.statementsAll, Statement.allUncaptured_append,
      Clause.uncaptured_statements opts loops names hg.1 ht.1,
      Clause.uncaptured_statementsAll opts loops names hg.2 ht.2,
      ← freeAt_append]
    rfl

theorem Branch.uncaptured_alternatives (opts : Options) {wide : Bool} (loops : List Frame)
    (names : List String) {bs : List Branch} (hg : Branch.AllGrammatical wide bs)
    (ht : ∀ b ∈ Branch.bindingsAll bs, b.key.TightEnd) :
    Alternative.AllUncaptured (visible opts.bindStyle loops names)
        (Branch.alternatives opts bs) ↔
      FreeAt opts.bindStyle names (visible opts.bindStyle loops names)
        (Branch.sitesAll loops bs) (Branch.flattenAll bs) := by
  match bs with
  | [] => exact iff_of_true trivial ⟨by simp [Branch.sitesAll], by simp [Branch.flattenAll]⟩
  | .mk cond body :: rest =>
    rw [Branch.bindingsAll, List.forall_mem_append] at ht
    rw [Branch.alternatives, Branch.alternative, Alternative.AllUncaptured,
      Clause.uncaptured_statementsAll opts loops names hg.1.2 ht.1,
      Branch.uncaptured_alternatives opts loops names hg.2.2 ht.2,
      ← freeAt_append, Branch.sitesAll]
    exact freeAt_congr fun kind => by simp [Branch.flattenAll, Branch.flatten]

end

/-! ## Sites of a method -/

mutual

theorem Clause.scope_of_mem_sites {builder : String} {loops : List Frame} {c : Clause}
    (h : c.Placed builder loops) {s : Site} (hs : s ∈ c.sites loops) :
    s.binding.key.scope = Frame.scope s.loops := by
  match c with
  | .sql _ fragments =>
    obtain ⟨b, hb, rfl⟩ := List.mem_map.1 hs
    exact h.2 b hb
  | .branch _ cond body otherwise =>
    rcases List.mem_append.1 hs with hs | hs
    · exact Clause.scope_of_mem_sitesAll h.2.1 hs
    · exact Branch.scope_of_mem_sitesAll h.2.2 hs
  | .join _ _ _ body | .loop _ _ range index body => exact Clause.scope_of_mem_sitesAll h.2 hs

/-- Keys are told apart by the loops around their sites. -/
theorem Clause.scope_of_mem_sitesAll {builder : String} {loops : List Frame} {cs : List Clause}
    (h : Clause.AllPlaced builder loops cs) {s : Site} (hs : s ∈ Clause.sitesAll loops cs) :
    s.binding.key.scope = Frame.scope s.loops := by
  match cs with
  | [] => cases hs
  | c :: rest =>
    rcases List.mem_append.1 hs with hs | hs
    · exact Clause.scope_of_mem_sites h.1 hs
    · exact Clause.scope_of_mem_sitesAll h.2 hs

theorem Branch.scope_of_mem_sitesAll {builder : String} {loops : List Frame} {bs : List Branch}
    (h : Branch.AllPlaced builder loops bs) {s : Site} (hs : s ∈ Branch.sitesAll loops bs) :
    s.binding.key.scope = Frame.scope s.loops := by
  match bs with
  | [] => cases hs
  | .mk cond body :: rest =>
    rcases List.mem_append.1 hs with hs | hs
    · exact Clause.scope_of_mem_sitesAll h.1 hs
    · exact Branch.scope_of_mem_sitesAll h.2 hs

end

theorem Frame.isSome_scope_iff {loops : List Frame} :
    (Frame.scope loops).isSome = true ↔ loops ≠ [] := by
  cases loops <;> simp [Frame.scope]

section Numbered

variable {tree : List Clause} {s : Site}

/-- Exactly the bindings inside loops have keys that are formatted. -/
theorem isSome_scope_of_numbered (hn : (Clause.numberAll {} Reserved.sqlBuilder tree).1 = tree)
    (hs : s ∈ Clause.sitesAll [] tree) :
    s.binding.key.scope.isSome = true ↔ s.loops ≠ [] := by
  have hinside : Numbering.Inside {} [] := rfl
  have hplaced := Clause.allPlaced_numberAll hinside Reserved.sqlBuilder tree
  rw [hn] at hplaced
  rw [Clause.scope_of_mem_sitesAll hplaced hs, Frame.isSome_scope_iff]

/-- The names that are visible at a site, those apart that nobody reads. An index that is generated
in the place of a discarded one hides nothing. -/
theorem mem_visible_iff (hn : (Clause.numberAll {} Reserved.sqlBuilder tree).1 = tree)
    (hs : s ∈ Clause.sitesAll [] tree) {style : BindStyle} {names : List String} {name : String}
    (hname : Readable name) :
    name ∈ visible style s.loops names ↔
      (∃ f ∈ s.loops, name ∈ f.range.variables) ∨ name ∈ names := by
  obtain ⟨inner, hinner, hproper⟩ := Clause.within_of_mem_sitesAll hn hs
  rw [List.append_nil] at hinner
  rw [visible, List.mem_append, List.mem_flatMap, hinner]
  refine or_congr_left (exists_congr fun f => and_congr_right fun hf => ?_)
  obtain ⟨n, n', hi⟩ := (hproper f hf).2.2
  rw [Frame.declares, ForRange.variables, mem_loopDeclares, mem_loopDeclares,
    loopVariable_of_readable hi _ hname]

/-- The statements of bound values are free where no loop around one of them takes the name that
binding refers to, and no given name is it, if a statement refers to it at all. -/
theorem free_sites_iff (hn : (Clause.numberAll {} Reserved.sqlBuilder tree).1 = tree)
    {style : BindStyle} {names : List String} :
    (∀ s ∈ Clause.sitesAll [] tree, ∀ name ∈ (s.binding.statement style).globals,
        name ∉ visible style s.loops names) ↔
      ((∃ b ∈ Clause.bindingsAll tree, style = .named → b.key.scope.isSome = true) →
          style.global ∉ names) ∧
        ∀ s ∈ Clause.sitesAll [] tree, ∀ f ∈ s.loops, style.global ∉ f.range.variables := by
  have hvisible : ∀ s ∈ Clause.sitesAll [] tree, style.global ∉ visible style s.loops names ↔
      (∀ f ∈ s.loops, style.global ∉ f.range.variables) ∧ style.global ∉ names := by
    intro s hs
    rw [mem_visible_iff hn hs style.readable_global]
    push Not
    rfl
  rw [← Clause.bindings_sitesAll [] tree]
  constructor
  · intro h
    have hsite : ∀ s ∈ Clause.sitesAll [] tree,
        (style = .named → s.binding.key.scope.isSome = true) →
        (∀ f ∈ s.loops, style.global ∉ f.range.variables) ∧ style.global ∉ names :=
      fun s hs hscope => (hvisible s hs).1
        (h s hs _ (Binding.mem_globals_statement.2 ⟨rfl, hscope⟩))
    refine ⟨?_, fun s hs f hf => (hsite s hs fun _ => ?_).1 f hf⟩
    · rintro ⟨b, hb, hscope⟩
      obtain ⟨s, hs, rfl⟩ := List.mem_map.1 hb
      exact (hsite s hs hscope).2
    · exact (isSome_scope_of_numbered hn hs).2 (List.ne_nil_of_mem hf)
  · rintro ⟨hnames, hloops⟩ s hs name hname
    obtain ⟨rfl, hscope⟩ := Binding.mem_globals_statement.1 hname
    exact (hvisible s hs).2
      ⟨hloops s hs, hnames ⟨s.binding, List.mem_map_of_mem hs, hscope⟩⟩

end Numbered

/-! ## Methods -/

/-- The names that the container of bound values takes. -/
def Template.BindStyle.containerGlobals : BindStyle → List String
  | named => ["make", "string"]
  | positional => ["append"]

/-- A name from outside the method that the statements of a compiled template need. -/
inductive Compiled.Needs (c : Compiled) : String → Prop
  /-- The text is assembled in a builder. -/
  | builder : c.Needs "strings"
  | container {name : String} : c.hasParams = true → name ∈ c.bindStyle.containerGlobals →
    c.Needs name
  | format : c.needsFormat = true → c.Needs "fmt"
  | helper {kind : JoinKind} : .join kind ∈ Clause.flattenAll c.clauses → c.Needs kind.helper

theorem forall_needs_iff {opts : Options} {tree : List Clause} {p : String → Prop} :
    (∀ name, (render opts tree).Needs name → p name) ↔
      p "strings" ∧
      (Clause.bindingsAll tree ≠ [] → ∀ name ∈ opts.bindStyle.containerGlobals, p name) ∧
      (FormatsKeys opts (Clause.bindingsAll tree) → p "fmt") ∧
      ∀ kind, .join kind ∈ Clause.flattenAll tree → p kind.helper := by
  rw [← hasParams_render opts, ← needsFormat_render]
  constructor
  · exact fun h => ⟨h _ .builder, fun hp name hname => h _ (.container hp hname),
      fun hf => h _ (.format hf), fun kind hk => h _ (.helper hk)⟩
  · rintro ⟨hbuilder, hcontainer, hformat, hhelper⟩ name hneeds
    cases hneeds with
    | builder => exact hbuilder
    | container hp hname => exact hcontainer hp _ hname
    | format hf => exact hformat hf
    | helper hk => exact hhelper _ hk

/-- The declaration of the container and the statements that fill it refer to what the container
takes, and to what formats keys. -/
theorem uncaptured_container_iff {opts : Options} {bindings : List Binding} {names : List String} :
    (bindings ≠ [] → (declareBindings opts.bindStyle).Uncaptured names) ∧
        ((∃ b ∈ bindings, opts.bindStyle = .named → b.key.scope.isSome = true) →
          opts.bindStyle.global ∉ names) ↔
      (bindings ≠ [] → ∀ name ∈ opts.bindStyle.containerGlobals, name ∉ names) ∧
        (FormatsKeys opts bindings → "fmt" ∉ names) := by
  unfold FormatsKeys
  cases opts.bindStyle with
  | named =>
    simp only [true_and, forall_const]
    rfl
  | positional =>
    have hnil : (∃ b, b ∈ bindings) ↔ bindings ≠ [] :=
      ⟨fun ⟨_, hb⟩ => List.ne_nil_of_mem hb, List.exists_mem_of_ne_nil _⟩
    simp [declareBindings, Statement.Uncaptured, Statement.globals, BindStyle.global,
      BindStyle.containerGlobals, hnil]

/-- Nothing that a method's statements refer to is hidden, exactly if no name that they need is
among the given ones, and no loop around a bound value takes the name that binding it needs. -/
theorem uncaptured_methodStatements (opts : Options) {tree : List Clause} (names : List String)
    (hn : (Clause.numberAll {} Reserved.sqlBuilder tree).1 = tree)
    (hg : Clause.AllGrammatical true tree)
    (ht : ∀ b ∈ Clause.bindingsAll tree, b.key.TightEnd) :
    Statement.AllUncaptured names (methodStatements opts tree) ↔
      (∀ name, (render opts tree).Needs name → name ∉ names) ∧
        ∀ s ∈ Clause.sitesAll [] tree, ∀ f ∈ s.loops,
          opts.bindStyle.global ∉ f.range.variables := by
  have htree := Clause.uncaptured_statementsAll opts [] names hg ht
  rw [visible, List.flatMap_nil, List.nil_append] at htree
  have hdeclared : Statement.AllUncaptured names
      (if tree.any Clause.hasBindings then [declareBindings opts.bindStyle] else []) ↔
        (Clause.bindingsAll tree ≠ [] → (declareBindings opts.bindStyle).Uncaptured names) := by
    rw [← Clause.any_hasBindings_iff]
    split <;> simp [*, Statement.AllUncaptured]
  have hbuilder : (Statement.declareBuilder Reserved.sqlBuilder).Uncaptured names ↔
      "strings" ∉ names := by
    simp [Statement.Uncaptured, Statement.globals]
  rw [methodStatements, Statement.allUncaptured_append, Statement.AllUncaptured, hdeclared,
    hbuilder, htree, forall_needs_iff]
  constructor
  · rintro ⟨hcontainer, hstrings, hfree⟩
    obtain ⟨hbound, hloops⟩ := (free_sites_iff hn).1 hfree.sites
    obtain ⟨htaken, hformat⟩ := uncaptured_container_iff.1 ⟨hcontainer, hbound⟩
    exact ⟨⟨hstrings, htaken, hformat, fun kind hk => (hfree.joins kind hk).2⟩, hloops⟩
  · rintro ⟨⟨hstrings, htaken, hformat, hhelpers⟩, hloops⟩
    obtain ⟨hcontainer, hbound⟩ := uncaptured_container_iff.2 ⟨htaken, hformat⟩
    exact ⟨hcontainer, hstrings, (free_sites_iff hn).2 ⟨hbound, hloops⟩,
      fun kind hk => ⟨hstrings, hhelpers kind hk⟩⟩

namespace QueryMethod

/-- The names that a method has from its configuration and its declaration. -/
def given (receiver : String) (m : QueryMethod) : List String := receiver :: m.params.map (·.name)

/-- What the lines refer to that run the statement of a method and set its results. -/
def runGlobals (m : QueryMethod) : List String :=
  "gorm" :: m.rowsAffected?.toList.flatMap (·.type.qualifiers)

/-- Nothing that the body of a method refers to is hidden by its receiver, its parameters or the
variables of its loops. -/
structure Uncaptured (receiver : String) (m : QueryMethod) (c : Compiled) : Prop where
  block : Statement.AllUncaptured (m.given receiver) c.block
  run : ∀ name ∈ m.runGlobals, name ∉ m.given receiver

/-- A template that is compiled for a checked method takes no name that generated code declares.
Names from outside the method are not kept clear of: nothing that the body refers to is hidden,
exactly if the receiver and the parameters take no name that the body needs, and no loop around a
bound value takes the name that binding it needs. -/
theorem uncaptured_iff {interface table : String} {declared : Method} {ctx : MethodContext}
    {m : QueryMethod} {structs : StructRegistry} {compiled : Compiled} {c : Config}
    (hc : c.check = .ok ())
    (hb : build interface declared { ctx with receiver := c.receiver } = .ok m)
    (h : m.compile table structs c.options = .ok compiled) :
    (∀ name ∈ m.given c.receiver, Reserved.isReserved name = false) ∧
      (∀ range, .loop range ∈ Clause.flattenAll compiled.clauses → range.Unreserved) ∧
      (m.Uncaptured c.receiver compiled ↔
        (∀ name, compiled.Needs name ∨ name ∈ m.runGlobals → name ∉ m.given c.receiver) ∧
          ∀ s ∈ Clause.sitesAll [] compiled.clauses, ∀ f ∈ s.loops,
            compiled.bindStyle.global ∉ f.range.variables) := by
  obtain ⟨-, sections, ht, tree, hbuild, rfl⟩ := compile_eq_ok_iff.1 (mapError_eq_ok_iff.1 h)
  have hparams := unreserved_of_build hb
  refine ⟨?given, ?loops, ?captures⟩
  case given =>
    exact List.forall_mem_cons.2 ⟨(receiver_of_check hc).2, List.forall_mem_map.2 hparams⟩
  case loops =>
    intro range hrange
    change .loop range ∈ Clause.flattenAll tree at hrange
    rw [flattenAll_of_buildClauses hbuild] at hrange
    obtain ⟨s, hs, hbare⟩ := List.mem_map.1 hrange
    have hclean := s.clean_bare.2 (Template.clean_of_tokenize hparams ht s hs)
    rwa [hbare] at hclean
  case captures =>
    have hblock := uncaptured_methodStatements c.options
      (m.given c.receiver) (numberAll_of_buildClauses hbuild) (isBody_of_buildClauses hbuild).2
      fun b hmem => (named_of_buildClauses ht hbuild b hmem).tightEnd
    constructor
    · intro hfree
      obtain ⟨hneeds, hloops⟩ := hblock.1 hfree.block
      exact ⟨fun name hname => hname.elim (hneeds name) (hfree.run name), hloops⟩
    · rintro ⟨hneeds, hloops⟩
      exact ⟨hblock.2 ⟨fun name hname => hneeds name (.inl hname), hloops⟩,
        fun name hname => hneeds name (.inr hname)⟩

end QueryMethod

namespace Shadows

def declared (doc : String) (params : List Param) : Method :=
  { Touch.declared params with doc }

def checked (doc : String) (params : List Param) : QueryMethod :=
  { Touch.checked params "err" with doc := ⟨.template, doc⟩ }

def ids : Param := ⟨"ids", .slice (.simple "int64"), false⟩

/-- The loop of a variable over `ids`. -/
def overIds (value : String) : ForRange := ⟨"_", value, "ids", .slice (.simple "int64")⟩

/-- The clause that binds the variable of the first loop. -/
def compared (builder value : String) : Clause :=
  .sql builder [.text " id = ", .bind ⟨value, ⟨value, some ⟨0, ["forIndex0"]⟩⟩⟩, .text " or "]

def filtered : String :=
  "update @@table set seen = 1 {{where}} {{for _, id := range ids}} id = @id or {{end}} {{end}}"

def filteredTree : List Clause :=
  [.sql "generateSQL" [.text "update users set seen = 1 "],
    .join .filter "whereSQL0" "generateSQL"
      [.loop 0 "whereSQL0" (overIds "id") (.synthetic "forIndex0") [compared "whereSQL0" "id"]]]

theorem compile_filtered :
    (checked filtered [ids]).compile "users" .empty ⟨.named, "u"⟩ =
      .ok (render ⟨.named, "u"⟩ filteredTree) := by
  refine mapError_eq_ok_iff.2 (compile_ofList [
    .literal "update users set seen = 1 ", .join .filter, .loop (overIds "id"), .literal " id = ",
    .data ⟨"id", .loop, .simple "int64"⟩, .literal " or ", .close, .close] rfl ?tokens ?tree)
  case tokens => decide +kernel
  case tree => rfl

/-- A block, a container of bound values and a formatted key, and no name in the way. -/
theorem uncaptured_filtered :
    (Touch.config "u").check = .ok () ∧
      QueryMethod.build "Querier" (declared filtered [ids]) (Touch.context "u") =
        .ok (checked filtered [ids]) ∧
      (checked filtered [ids]).Uncaptured "u" (render ⟨.named, "u"⟩ filteredTree) := by
  have hc : (Touch.config "u").check = .ok () := by decide +kernel
  have hb : QueryMethod.build "Querier" (declared filtered [ids]) (Touch.context "u") =
      .ok (checked filtered [ids]) := by decide +kernel
  have hneeds : ∀ name, (render ⟨.named, "u"⟩ filteredTree).Needs name ∨
      name ∈ (checked filtered [ids]).runGlobals →
        name ∉ (checked filtered [ids]).given (Touch.config "u").receiver := by
    rintro name (hneeds | hrun)
    · cases hneeds with
      | builder | format => decide
      | @helper kind => cases kind <;> decide
      | container _ hname =>
        have hfree : ∀ name ∈ BindStyle.containerGlobals .named, name ∉ ["u", "ids"] := by decide
        exact hfree name hname
    · obtain rfl : name = "gorm" := List.mem_singleton.1 hrun
      decide
  exact ⟨hc, hb, (@QueryMethod.uncaptured_iff _ _ _ (Touch.context "u") _ _ _ (Touch.config "u")
    hc hb compile_filtered).2.2.2 ⟨hneeds, by decide⟩⟩

def tag : Param := ⟨"strings", .simple "string", false⟩

def tagged : String := "update @@table set seen = 1 where tag = @strings"

def taggedTree : List Clause :=
  [.sql "generateSQL" [.text "update users set seen = 1 where tag = ",
    .bind ⟨"strings", ⟨"strings", none⟩⟩]]

def looped : String :=
  "update @@table set seen = 1 {{for _, fmt := range ids}} id = @fmt or {{end}}"

def loopedTree : List Clause :=
  [.sql "generateSQL" [.text "update users set seen = 1 "],
    .loop 0 "generateSQL" (overIds "fmt") (.synthetic "forIndex0")
      [compared "generateSQL" "fmt"]]

/-- A parameter `strings` hides the package of the builder, and a loop variable `fmt` the package
that formats keys. -/
theorem packages_hidden :
    (Touch.config "u").check = .ok () ∧
      (QueryMethod.build "Querier" (declared tagged [tag]) (Touch.context "u") =
          .ok (checked tagged [tag]) ∧
        (checked tagged [tag]).compile "users" .empty ⟨.named, "u"⟩ =
          .ok (render ⟨.named, "u"⟩ taggedTree) ∧
        ¬(checked tagged [tag]).Uncaptured "u" (render ⟨.named, "u"⟩ taggedTree)) ∧
      QueryMethod.build "Querier" (declared looped [ids]) (Touch.context "u") =
          .ok (checked looped [ids]) ∧
        (checked looped [ids]).compile "users" .empty ⟨.named, "u"⟩ =
          .ok (render ⟨.named, "u"⟩ loopedTree) ∧
        ¬(checked looped [ids]).Uncaptured "u" (render ⟨.named, "u"⟩ loopedTree) := by
  refine ⟨by decide +kernel, ⟨by decide +kernel, ?tagged, fun h => ?strings⟩, by decide +kernel,
    ?looped, fun h => ?fmt⟩
  case tagged =>
    refine mapError_eq_ok_iff.2 (compile_ofList [
      .literal "update users set seen = 1 where tag = ",
      .data ⟨"strings", .method, .simple "string"⟩] rfl ?tokens ?tree)
    case tokens => decide +kernel
    case tree => rfl
  case looped =>
    refine mapError_eq_ok_iff.2 (compile_ofList [
      .literal "update users set seen = 1 ", .loop (overIds "fmt"), .literal " id = ",
      .data ⟨"fmt", .loop, .simple "int64"⟩, .literal " or ", .close] rfl ?tokens ?tree)
    case tokens => decide +kernel
    case tree => rfl
  case strings =>
    -- the container is declared first, then the builder
    have hbuilder : (Statement.declareBuilder "generateSQL").Uncaptured ["u", "strings"] :=
      h.block.2.1
    exact hbuilder "strings" List.mem_cons_self (by decide)
  case fmt =>
    -- the loop stands behind the container, the builder and the first text
    have hput : (Statement.put (.formatted "fmt" 0 ["forIndex0"]) "fmt").Uncaptured
        ["forIndex0", "fmt", "u", "ids"] := h.block.2.2.2.1.1
    exact hput "fmt" List.mem_cons_self (by decide)

end Shadows

end QueryGen
