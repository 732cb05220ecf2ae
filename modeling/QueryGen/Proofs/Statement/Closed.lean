import Mathlib
import QueryGen.Proofs.Execution.Clean
import QueryGen.Proofs.Statement.Scopes

/-!
# Statements of a tree are closed

- `Fragment.inserts`, `filter_operandsOf`: trimming text keeps every operand that is no text.
- `Clause.ReadsIn`: what references begin with, by the loops around them. A tree that was read
  against a scope reads its parameters and loop variables only (`readsIn_of_buildClauses`).
- `Prepared`: what has to be declared before the statements of a clause.
- `Clause.inScope_statementsAll`: the statements of a numbered tree are in scope, by induction on
  the tree.
- `inScope_methodStatements`: so are the statements of a method.
-/

namespace QueryGen

open Template (BindStyle Options Scope)

/-! ## Operands of a SQL clause -/

/-- The operand that a fragment is written as, if it is no text. -/
def Fragment.inserts (opts : Options) : Fragment → List Operand
  | text _ => []
  | bind b =>
    match opts.bindStyle, b.key.key with
    | .named, .formatted name loopId indices => [.key (.formatted name loopId indices)]
    | _, _ => []
  | quote expr => [.quote opts.receiver expr]

section Inserts

variable {operands : List Operand}

theorem filter_addText (cs : List Char) (operands : List Operand) :
    (addText cs operands).filter (!·.isText) = operands.filter (!·.isText) := by
  fun_induction addText cs operands with
  | case1 => rfl
  | case2 last => rfl
  | case3 o rest _ ih => simp only [List.filter_cons, ih]

theorem filter_addFragment (opts : Options) (operands : List Operand) (f : Fragment) :
    (addFragment opts operands f).filter (!·.isText) =
      operands.filter (!·.isText) ++ f.inserts opts := by
  cases f with
  | text t => simp [addFragment, filter_addText, Fragment.inserts]
  | quote expr => simp [addFragment, Fragment.inserts, Operand.isText]
  | bind b =>
    cases hs : opts.bindStyle with
    | positional => simp [addFragment, addPlaceholder, filter_addText, Fragment.inserts, hs]
    | named =>
      cases hk : b.key.key with
      | plain name =>
        simp only [addFragment, addPlaceholder, filter_addText, Fragment.inserts, hs, hk,
          List.append_nil]
      | formatted name loopId indices =>
        simp only [addFragment, addPlaceholder, Fragment.inserts, hs, hk, List.filter_append,
          filter_addText]
        rfl

theorem filter_foldl (opts : Options) (fragments : List Fragment) (operands : List Operand) :
    (fragments.foldl (addFragment opts) operands).filter (!·.isText) =
      operands.filter (!·.isText) ++ fragments.flatMap (Fragment.inserts opts) := by
  induction fragments generalizing operands with
  | nil => simp
  | cons f rest ih => simp [ih, filter_addFragment]

theorem filter_trimFirst (operands : List Operand) :
    (trimFirst operands).filter (!·.isText) = operands.filter (!·.isText) := by
  unfold trimFirst
  split <;> simp [Operand.isText]

theorem filter_trimLast (operands : List Operand) :
    (trimLast operands).filter (!·.isText) = operands.filter (!·.isText) := by
  fun_induction trimLast operands with
  | case1 => rfl
  | case2 cs => rfl
  | case3 o rest _ ih => simp only [List.filter_cons, ih]

/-- Nothing but text is lost when blanks are trimmed. -/
theorem filter_operandsOf (opts : Options) (fragments : List Fragment) :
    (operandsOf opts fragments).filter (!·.isText) =
      fragments.flatMap (Fragment.inserts opts) := by
  have hkeep : ∀ operands : List Operand,
      (operands.filter (· ≠ .text [])).filter (!·.isText) = operands.filter (!·.isText) := by
    intro operands
    rw [List.filter_filter]
    refine List.filter_congr fun o _ => ?_
    cases o <;> simp [Operand.isText]
  have htrim := filter_foldl opts fragments []
  rw [← filter_trimFirst, ← filter_trimLast, ← hkeep] at htrim
  unfold operandsOf
  simp only []
  split
  · next hn =>
    rw [hn] at htrim
    simpa using htrim
  · simpa [filter_addText] using htrim

end Inserts

/-! ## What references begin with -/

/-- The variables of a loop. -/
def ForRange.variables (r : ForRange) : List String := loopDeclares r.index r.value

/-- A reference begins with one of the names. -/
def Fragment.ReadsIn (names : List String) : Fragment → Prop
  | text _ => True
  | bind b => exprRoot b.expr ∈ names
  | quote expr => exprRoot expr ∈ names

mutual

/-- The references in a clause begin with one of the names or a variable of a loop around them. -/
def Clause.ReadsIn (names : List String) : Clause → Prop
  | .sql _ fragments => ∀ f ∈ fragments, f.ReadsIn names
  | .branch _ _ body otherwise =>
    Clause.AllReadIn names body ∧ Branch.AllReadIn names otherwise
  | .join _ _ _ body => Clause.AllReadIn names body
  | .loop _ _ range _ body => Clause.AllReadIn (range.variables ++ names) body

/-- The same for clauses. -/
def Clause.AllReadIn (names : List String) : List Clause → Prop
  | [] => True
  | c :: rest => c.ReadsIn names ∧ Clause.AllReadIn names rest

/-- The same for branches. -/
def Branch.AllReadIn (names : List String) : List Branch → Prop
  | [] => True
  | .mk _ body :: rest => Clause.AllReadIn names body ∧ Branch.AllReadIn names rest

end

/-- The reference of a section begins with one of the names. -/
def Section.ReadsIn (names : List String) : Section → Prop
  | data ref => ref.root ∈ names
  | quoted ref => ref.root ∈ names
  | _ => True

theorem Section.readsIn_bare (names : List String) (s : Section) :
    s.bare.ReadsIn names ↔ s.ReadsIn names := by
  cases s <;> rfl

/-- The variables of loops, and names behind them. -/
def variablesOf (loops : List ForRange) (names : List String) : List String :=
  loops.flatMap ForRange.variables ++ names

mutual

theorem Clause.length_scopes (around : List ForRange) (c : Clause) :
    (c.scopes around).length = c.flatten.length := by
  match c with
  | .sql _ fragments => simp [Clause.scopes, Clause.flatten]
  | .branch _ cond body otherwise =>
    simp [Clause.scopes, Clause.flatten, Clause.length_scopesAll, Branch.length_scopesAll]
  | .join _ _ _ body | .loop _ _ _ _ body =>
    simp [Clause.scopes, Clause.flatten, Clause.length_scopesAll]

theorem Clause.length_scopesAll (around : List ForRange) (cs : List Clause) :
    (Clause.scopesAll around cs).length = (Clause.flattenAll cs).length := by
  match cs with
  | [] => rfl
  | c :: rest =>
    simp [Clause.scopesAll, Clause.flattenAll, Clause.length_scopes, Clause.length_scopesAll]

theorem Branch.length_scopesAll (around : List ForRange) (bs : List Branch) :
    (Branch.scopesAll around bs).length = (Branch.flattenAll bs).length := by
  match bs with
  | [] => rfl
  | .mk _ body :: rest =>
    simp [Branch.scopesAll, Branch.flattenAll, Branch.flatten, Clause.length_scopesAll,
      Branch.length_scopesAll]

end

section Reads

variable {names : List String}

mutual

theorem Clause.readsIn_of_scopes {around : List ForRange} {c : Clause}
    (h : ∀ p ∈ (c.scopes around).zip c.flatten, p.2.ReadsIn (variablesOf p.1 names)) :
    c.ReadsIn (variablesOf around names) := by
  match c with
  | .sql _ fragments =>
    intro f hf
    have hs := h (around, f.section) (by
      simp only [Clause.scopes, Clause.flatten, List.zip_map', List.mem_map]
      exact ⟨f, hf, rfl⟩)
    cases f <;> exact hs
  | .branch _ cond body otherwise =>
    simp only [Clause.scopes, Clause.flatten, List.zip_cons_cons, List.forall_mem_cons] at h
    rw [List.zip_append (Clause.length_scopesAll around body), List.forall_mem_append,
      List.zip_append (Branch.length_scopesAll around otherwise), List.forall_mem_append] at h
    exact ⟨Clause.allReadIn_of_scopes h.2.1, Branch.allReadIn_of_scopes h.2.2.1⟩
  | .join _ _ _ body =>
    simp only [Clause.scopes, Clause.flatten, List.zip_cons_cons, List.forall_mem_cons] at h
    rw [List.zip_append (Clause.length_scopesAll around body), List.forall_mem_append] at h
    exact Clause.allReadIn_of_scopes h.2.1
  | .loop _ _ range _ body =>
    simp only [Clause.scopes, Clause.flatten, List.zip_cons_cons, List.forall_mem_cons] at h
    rw [List.zip_append (Clause.length_scopesAll (range :: around) body),
      List.forall_mem_append] at h
    have hbody := Clause.allReadIn_of_scopes h.2.1
    rwa [variablesOf, List.flatMap_cons, List.append_assoc] at hbody

/-- References that are in the scopes of their sections are in those of the tree. -/
theorem Clause.allReadIn_of_scopes {around : List ForRange} {cs : List Clause}
    (h : ∀ p ∈ (Clause.scopesAll around cs).zip (Clause.flattenAll cs),
      p.2.ReadsIn (variablesOf p.1 names)) :
    Clause.AllReadIn (variablesOf around names) cs := by
  match cs with
  | [] => trivial
  | c :: rest =>
    rw [Clause.scopesAll, Clause.flattenAll, List.zip_append (c.length_scopes around),
      List.forall_mem_append] at h
    exact ⟨Clause.readsIn_of_scopes h.1, Clause.allReadIn_of_scopes h.2⟩

theorem Branch.allReadIn_of_scopes {around : List ForRange} {bs : List Branch}
    (h : ∀ p ∈ (Branch.scopesAll around bs).zip (Branch.flattenAll bs),
      p.2.ReadsIn (variablesOf p.1 names)) :
    Branch.AllReadIn (variablesOf around names) bs := by
  match bs with
  | [] => trivial
  | .mk _ body :: rest =>
    simp only [Branch.scopesAll, Branch.flattenAll, Branch.flatten, List.cons_append,
      List.zip_cons_cons, List.forall_mem_cons] at h
    rw [List.zip_append (Clause.length_scopesAll around body), List.forall_mem_append] at h
    exact ⟨Clause.allReadIn_of_scopes h.2.1, Branch.allReadIn_of_scopes h.2.2⟩

end

end Reads

theorem mem_loopDeclares {index value name : String} :
    name ∈ loopDeclares index value ↔ (name = index ∨ name = value) ∧ name ≠ "_" := by
  simp [loopDeclares]

/-- A reference that means something begins with a variable of a loop or with a parameter. -/
theorem readsIn_of_sectionResolved {scope : Scope} {loops : List ForRange} {s : Section}
    (h : Template.SectionResolved scope loops s) :
    s.ReadsIn (variablesOf loops (scope.params.map (·.name))) := by
  have href : ∀ ref, Template.ParamRefResolved scope loops ref →
      ref.root ∈ variablesOf loops (scope.params.map (·.name)) := by
    intro ref hr
    obtain ⟨root, ht, -⟩ := hr.type
    generalize ref.source = origin at ht
    cases ht with
    | @loop inner outer r hl hn hb =>
      refine List.mem_append_left _ (List.mem_flatMap.2 ⟨r, by simp [hl], ?_⟩)
      exact mem_loopDeclares.2 ⟨hb.2.symm.imp Eq.symm Eq.symm, hb.1⟩
    | @method p hn hp =>
      refine List.mem_append_right _ (List.mem_map.2 ⟨p, List.mem_of_find?_eq_some hp, ?_⟩)
      simpa using List.find?_some hp
  cases s with
  | data ref | quoted ref => exact href ref h
  | _ => trivial

/-- A tree reads variables of loops and parameters only. -/
theorem readsIn_of_buildClauses {template source : String} {scope : Scope}
    {receiver : Option String} {sections : List Section} {tree : List Clause}
    (ht : Template.tokenize template scope receiver = .ok sections)
    (hb : buildClauses sections source = .ok tree) :
    Clause.AllReadIn (scope.params.map (·.name)) tree := by
  change Clause.AllReadIn (variablesOf [] (scope.params.map (·.name))) tree
  refine Clause.allReadIn_of_scopes fun p hp => ?_
  rw [flattenAll_of_buildClauses hb, List.zip_map_right, List.mem_map] at hp
  obtain ⟨⟨loops, s⟩, hmem, rfl⟩ := hp
  rw [← scopesOf_of_buildClauses hb] at hmem
  have hs := (List.forall₂_iff_zip.1 (Template.resolved_of_tokenize ht)).2 hmem
  exact (s.readsIn_bare _).2 (readsIn_of_sectionResolved hs)

/-! ## What is declared before a clause -/

/-- What is there before the statements of clauses: their builder, the receiver and the names that
references begin with. Where the clauses bind values, the container of values is there too, and the
index variables of the loops around where these are printed in keys. -/
structure Prepared (opts : Options) (n : Numbering) (builder : String) (names : List String)
    (binds : Prop) (env : List String) : Prop where
  builder : builder ∈ env
  receiver : opts.receiver ∈ env
  names : names ⊆ env
  bindings : binds → Reserved.bindings ∈ env
  indices : binds → opts.bindStyle = .named → ∀ l ∈ n.loops, l.2 ∈ env

namespace Prepared

variable {opts : Options} {n n' : Numbering} {builder : String} {names env : List String}
  {binds binds' : Prop}

theorem imp {m : Numbering} (h : Prepared opts n builder names binds env) (hb : binds' → binds)
    (hl : m.loops = n.loops) : Prepared opts m builder names binds' env :=
  { h with
    bindings := fun hb' => h.bindings (hb hb')
    indices := fun hb' hs => hl ▸ h.indices (hb hb') hs }

theorem mono (h : Prepared opts n builder names binds env) {env' : List String}
    (he : env ⊆ env') : Prepared opts n builder names binds env' where
  builder := he h.builder
  receiver := he h.receiver
  names := List.Subset.trans h.names he
  bindings hb := he (h.bindings hb)
  indices hb hs l hl := he (h.indices hb hs l hl)

/-- In a loop there are its variables too. A loop whose body binds values under names is numbered,
and a counter is declared before it. -/
theorem enter {id : Nat} {range : ForRange} {index : LoopIndex} {numbered : Bool}
    (h : Prepared opts n builder names binds env) (hi : n.loopIndex range = (index, n'))
    (hn : binds → opts.bindStyle = .named → numbered = true)
    (hc : ∀ name, numbered = true → index = .counter name → name ∈ env) :
    Prepared opts (n'.pushLoop id index.name) builder (range.variables ++ names) binds
      (loopDeclares (loopVariable numbered range index) range.value ++ env) where
  builder := List.mem_append_right _ h.builder
  receiver := List.mem_append_right _ h.receiver
  names := by
    refine List.append_subset.2 ⟨fun name hname => List.mem_append_left _ ?_,
      List.Subset.trans h.names (List.subset_append_right _ _)⟩
    obtain ⟨hname, hne⟩ := mem_loopDeclares.1 hname
    refine mem_loopDeclares.2 ⟨hname.imp_left fun he => ?_, hne⟩
    rcases Numbering.of_loopIndex hi with ⟨-, rfl, -⟩ | ⟨-, hd, rfl, -⟩ | ⟨-, -, rfl, -⟩
    · cases numbered <;> exact he
    · exact absurd (he.trans hd) hne
    · cases numbered <;> exact he
  bindings hb := List.mem_append_right _ (h.bindings hb)
  indices hb hs := by
    obtain rfl := hn hb hs
    have hloops : n'.loops = n.loops := by
      have hg := (n.grows_loopIndex range).loops
      rwa [hi] at hg
    refine List.forall_mem_cons.2 ⟨?_, fun l hl => ?_⟩
    · rcases Numbering.of_loopIndex hi with ⟨-, rfl, -⟩ | ⟨-, -, rfl, -⟩ | ⟨-, hd, rfl, -⟩
      · exact List.mem_append_right _ (hc _ rfl rfl)
      · exact List.mem_append_left _
          (mem_loopDeclares.2 ⟨.inl rfl, Reserved.loopIndex_ne_discard _⟩)
      · exact List.mem_append_left _ (mem_loopDeclares.2 ⟨.inl rfl, hd⟩)
    · rw [hloops] at hl
      exact List.mem_append_right _ (h.indices hb hs l hl)

end Prepared

/-! ## Statements of clauses -/

theorem allInScope_of_forall {env : List String} {ss : List Statement}
    (h : ∀ s ∈ ss, s.InScope env) : Statement.AllInScope env ss := by
  induction ss with
  | nil => trivial
  | cons s rest ih =>
    obtain ⟨hs, hrest⟩ := List.forall_mem_cons.1 h
    exact ⟨hs, (ih hrest).mono (List.subset_append_right _ _)⟩

section Statements

variable {opts : Options} {n : Numbering} {builder : String} {names env : List String}

/-- Keys are printed with the index variables of the loops around. -/
theorem mem_loops_of_mem_variables {name x : String}
    (h : x ∈ (BindKey.key ⟨name, n.loopKey?⟩).variables) : ∃ l ∈ n.loops, l.2 = x := by
  unfold Numbering.loopKey? at h
  split at h
  · cases h
  · next hl =>
    simp only [BindKey.key, Key.variables, List.mem_reverse] at h
    exact List.mem_map.1 h

/-- Every fragment of a numbered SQL clause reads what is there. -/
theorem mem_of_mem_inserts {fragments : List Fragment}
    (h : Prepared opts n builder names
      (bindingsOf (fragments.map (Fragment.number n.loopKey?)) ≠ []) env)
    (hr : ∀ f ∈ fragments, f.ReadsIn names) :
    ∀ f ∈ fragments.map (Fragment.number n.loopKey?), ∀ o ∈ f.inserts opts,
      ∀ x ∈ o.variables, x ∈ env := by
  intro f hf o ho x hx
  obtain ⟨g, hg, rfl⟩ := List.mem_map.1 hf
  cases g with
  | text t => cases ho
  | quote expr =>
    obtain rfl := List.mem_singleton.1 ho
    rcases List.mem_cons.1 hx with rfl | hx
    · exact h.receiver
    · obtain rfl := List.mem_singleton.1 hx
      exact h.names (hr _ hg)
  | bind b =>
    have hb : bindingsOf (fragments.map (Fragment.number n.loopKey?)) ≠ [] :=
      List.ne_nil_of_mem (List.mem_filterMap.2 ⟨_, hf, rfl⟩)
    simp only [Fragment.number, Fragment.inserts] at ho
    split at ho
    · next hs hk =>
      obtain rfl := List.mem_singleton.1 ho
      rw [Operand.variables, ← hk] at hx
      obtain ⟨l, hl, rfl⟩ := mem_loops_of_mem_variables hx
      exact h.indices hb hs l hl
    · cases ho

/-- The statements of a SQL clause name what is there. -/
theorem inScope_sqlStatements {fragments : List Fragment}
    (h : Prepared opts n builder names
      (bindingsOf (fragments.map (Fragment.number n.loopKey?)) ≠ []) env)
    (hr : ∀ f ∈ fragments, f.ReadsIn names) :
    Statement.AllInScope env
      (sqlStatements opts builder (fragments.map (Fragment.number n.loopKey?))) := by
  unfold sqlStatements
  split
  · trivial
  refine allInScope_of_forall (List.forall_mem_append.2 ⟨fun s hs => ?_, ?_⟩)
  · obtain ⟨b, hb, rfl⟩ := List.mem_map.1 hs
    have hbinds := List.ne_nil_of_mem hb
    obtain ⟨f, hf, hfb⟩ := List.mem_filterMap.1 hb
    obtain ⟨g, hg, rfl⟩ := List.mem_map.1 hf
    cases g with
    | text t | quote expr => cases hfb
    | bind d =>
      obtain rfl := Option.some.inj hfb
      have hroot : exprRoot d.expr ∈ env := h.names (hr _ hg)
      unfold Binding.statement
      split
      · next hs =>
        refine List.forall_mem_cons.2 ⟨h.bindings hbinds, List.forall_mem_cons.2 ⟨hroot, ?_⟩⟩
        intro x hx
        obtain ⟨l, hl, rfl⟩ := mem_loops_of_mem_variables hx
        exact h.indices hbinds hs l hl
      · exact List.forall_mem_cons.2 ⟨h.bindings hbinds, by simpa using hroot⟩
  · rw [List.forall_mem_singleton]
    refine List.forall_mem_cons.2 ⟨h.builder, fun x hx => ?_⟩
    obtain ⟨o, ho, hx⟩ := List.mem_flatMap.1 hx
    cases htext : o.isText with
    | true => cases o <;> simp_all [Operand.isText, Operand.variables]
    | false =>
      have hmem : o ∈ (operandsOf opts (fragments.map (Fragment.number n.loopKey?))).filter
          (!·.isText) := List.mem_filter.2 ⟨ho, by simp [htext]⟩
      rw [filter_operandsOf, List.mem_flatMap] at hmem
      obtain ⟨f, hf, ho⟩ := hmem
      exact mem_of_mem_inserts h hr f hf o ho x hx

/-- A loop declares a counter before it, and its variables in front of its body. -/
theorem inScope_loopStatements {numbered : Bool} {range : ForRange} {index : LoopIndex}
    {body : List Statement}
    (h : ∀ env', env ⊆ env' → (∀ name, numbered = true → index = .counter name → name ∈ env') →
      Statement.AllInScope (loopDeclares (loopVariable numbered range index) range.value ++ env')
        body) :
    Statement.AllInScope env (loopStatements numbered range index body) := by
  cases index with
  | declared name =>
    have hbody := h env (List.Subset.refl env) fun name _ hc => by cases hc
    cases numbered <;> exact ⟨hbody, trivial⟩
  | synthetic name =>
    have hbody := h env (List.Subset.refl env) fun name _ hc => by cases hc
    cases numbered <;> exact ⟨hbody, trivial⟩
  | counter name =>
    cases numbered with
    | false =>
      have hbody := h env (List.Subset.refl env) fun name hn => absurd hn Bool.false_ne_true
      exact ⟨hbody, trivial⟩
    | true =>
      have hbody := h (name :: env) (List.subset_cons_self _ _) fun name' _ hc => by
        cases hc
        exact List.mem_cons_self
      refine ⟨fun x hx => absurd hx List.not_mem_nil,
        Statement.AllInScope.append hbody ⟨?_, trivial⟩, trivial⟩
      refine List.forall_mem_singleton.2 (List.mem_append_right _ (List.mem_append_right _ ?_))
      exact List.mem_cons_self

end Statements

mutual

theorem Clause.inScope_number {opts : Options} {n : Numbering} {builder : String}
    {names env : List String} {c : Clause} (hr : c.ReadsIn names)
    (h : Prepared opts n builder names ((c.number n builder).1.bindings ≠ []) env) :
    Statement.AllInScope env ((c.number n builder).1.statements opts) := by
  match c with
  | .sql _ fragments => exact inScope_sqlStatements h hr
  | .branch _ cond body otherwise =>
    refine ⟨⟨Clause.allInScope_number hr.1 (h.imp (fun hb he => hb ?_) rfl),
      Branch.allInScope_number hr.2 (h.imp (fun hb he => hb ?_) ?_)⟩, trivial⟩
    · exact (List.append_eq_nil_iff.1 he).1
    · exact (List.append_eq_nil_iff.1 he).2
    · exact (Clause.grows_numberAll n builder body).loops
  | .join kind _ _ body =>
    have hown : Prepared opts (n.nextJoin kind).2 (n.nextJoin kind).1 names _
        ((n.nextJoin kind).1 :: env) :=
      { (h.imp id (n.grows_nextJoin kind).loops).mono (List.subset_cons_self _ _) with
        builder := List.mem_cons_self }
    refine ⟨fun x hx => (nomatch hx), Statement.AllInScope.append
      (Clause.allInScope_number hr hown) ⟨?_, trivial⟩⟩
    refine List.forall_mem_cons.2 ⟨List.mem_append_right _ (List.mem_cons_of_mem _ h.builder),
      List.forall_mem_singleton.2 (List.mem_append_right _ List.mem_cons_self)⟩
  | .loop _ _ range _ body =>
    refine inScope_loopStatements fun env' he hc => Clause.allInScope_number hr ?_
    exact ((h.mono he).imp (m := n.nextLoop.2) id rfl).enter rfl
      (fun hb hs => isNumbered_iff.2 ⟨hs, hb⟩) hc

/-- The statements of numbered clauses name what is there before them, or declare it. -/
theorem Clause.allInScope_number {opts : Options} {n : Numbering} {builder : String}
    {names env : List String} {cs : List Clause} (hr : Clause.AllReadIn names cs)
    (h : Prepared opts n builder names
      (Clause.bindingsAll (Clause.numberAll n builder cs).1 ≠ []) env) :
    Statement.AllInScope env (Clause.statementsAll opts (Clause.numberAll n builder cs).1) := by
  match cs with
  | [] => trivial
  | c :: rest =>
    refine Statement.AllInScope.append
      (Clause.inScope_number hr.1 (h.imp (fun hb he => hb ?_) rfl))
      ((Clause.allInScope_number hr.2 (h.imp (fun hb he => hb ?_) ?_)).mono
        (List.subset_append_right _ _))
    · exact (List.append_eq_nil_iff.1 he).1
    · exact (List.append_eq_nil_iff.1 he).2
    · exact (c.grows_number n builder).loops

theorem Branch.allInScope_number {opts : Options} {n : Numbering} {builder : String}
    {names env : List String} {bs : List Branch} (hr : Branch.AllReadIn names bs)
    (h : Prepared opts n builder names
      (Branch.bindingsAll (Branch.numberAll n builder bs).1 ≠ []) env) :
    Alternative.AllInScope env (Branch.alternatives opts (Branch.numberAll n builder bs).1) := by
  match bs with
  | [] => trivial
  | .mk cond body :: rest =>
    refine ⟨Clause.allInScope_number hr.1 (h.imp (fun hb he => hb ?_) rfl),
      Branch.allInScope_number hr.2 (h.imp (fun hb he => hb ?_) ?_)⟩
    · exact (List.append_eq_nil_iff.1 he).1
    · exact (List.append_eq_nil_iff.1 he).2
    · exact (Clause.grows_numberAll n builder body).loops

end

/-- The statements of a method name the receiver and what references begin with. Everything else
they declare before. -/
theorem inScope_methodStatements {opts : Options} {names : List String} {tree : List Clause}
    (hn : (Clause.numberAll {} Reserved.sqlBuilder tree).1 = tree)
    (hr : Clause.AllReadIn names tree) :
    Statement.AllInScope (opts.receiver :: names) (methodStatements opts tree) := by
  have htree : ∀ env, opts.receiver :: names ⊆ env →
      (Clause.bindingsAll tree ≠ [] → Reserved.bindings ∈ env) →
      Statement.AllInScope (Reserved.sqlBuilder :: env) (Clause.statementsAll opts tree) := by
    intro env he hb
    have hp : Prepared opts {} Reserved.sqlBuilder names (Clause.bindingsAll tree ≠ [])
        (Reserved.sqlBuilder :: env) :=
      { builder := List.mem_cons_self
        receiver := List.mem_cons_of_mem _ (he List.mem_cons_self)
        names := fun name hname => List.mem_cons_of_mem _ (he (List.mem_cons_of_mem _ hname))
        bindings := fun hne => List.mem_cons_of_mem _ (hb hne)
        indices := fun _ _ l hl => nomatch hl }
    have hs := Clause.allInScope_number hr (hn.symm ▸ hp)
    rwa [hn] at hs
  unfold methodStatements
  split
  · cases opts.bindStyle
    all_goals
      refine ⟨fun x hx => (nomatch hx), fun x hx => (nomatch hx), htree _ ?_ fun _ => ?_⟩
      · exact List.subset_cons_self _ _
      · exact List.mem_cons_self
  · next hb =>
    refine ⟨fun x hx => (nomatch hx), htree _ (List.Subset.refl _) fun hne => ?_⟩
    exact absurd (Clause.any_hasBindings_iff.2 hne) hb

end QueryGen
