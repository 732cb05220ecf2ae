import Mathlib.Data.List.ReduceOption
import QueryGen.Proofs.Execution.Faithful
import QueryGen.Proofs.Execution.Joining
import QueryGen.Proofs.Execution.Positional

/-!
# Question marks of positional code

A positional placeholder is a `?`, and so is any other `?` of a text. How many there are in the
code, and which value belongs to each of them in the text that is run.

- `Statement.literals`, `literalOf`: the string literals of a statement, and the template text of a
  SQL clause.
- `Mark.question?`, `count_literals`: every `?` of a SQL clause is a placeholder or template text.
- `Written.traced`: the text of a run, each character with the value whose placeholder it is.
- `questions`: the values behind the `?` of such a text.
- `reduceOption_questions`, `none_mem_questions_iff`: placeholders stand in the order of the values,
  and any other `?` is stray: template text, or part of a quoted identifier.
- `compile_questions`: the `?` of compiled templates. `Documents` has some with and without stray
  ones.
-/

namespace QueryGen

open Template (BindStyle Options Scope)

variable {α : Type}

/-! ## String literals -/

/-- The source text of the string literals of an operand. -/
def Operand.literals : Operand → List Char
  | text cs => Go.quoteText cs
  | key k => k.expr.toList
  | quote _ _ => []

/-- The source text of the string literals that a statement writes. -/
def Statement.literals : Statement → List Char
  | .write _ operands => operands.flatMap Operand.literals
  | _ => []

def Statement.isAppend : Statement → Bool
  | .append _ => true
  | _ => false

/-- The template text of a fragment. -/
def Fragment.literal : Fragment → List Char
  | text t => t.toList
  | _ => []

/-- The template text of a SQL clause. -/
def literalOf (fragments : List Fragment) : List Char := fragments.flatMap Fragment.literal

/-- The string literal of a unit of an operand. -/
def Atom.literal : Atom → List Char
  | char c => Go.quoteChar c
  | key k => k.expr.toList
  | quote _ _ => []

/-- The `?` that a mark is written as, with the value whose placeholder it is. -/
def Mark.question? : Mark → Option (Option Binding)
  | char c => if c = '?' then some none else none
  | bound b => some (some b)
  | quoted _ => none

theorem notMem_hex4 (n : Nat) : '?' ∉ Go.hex4 n := by
  intro h
  obtain ⟨d, hd, he⟩ := List.mem_map.1 h
  have hlt : d < 16 := by
    simp only [List.mem_cons, List.not_mem_nil, or_false] at hd
    omega
  have hdigit : ∀ d < 16, Nat.digitChar d ≠ '?' := by decide
  exact hdigit d hlt he

/-- A `?` is no blank, so trimming drops none. -/
theorem question?_of_isBlank (c : Char) (h : Text.isBlank c = true) :
    (Mark.char c).question? = none := by
  have hne : c ≠ '?' := fun he => absurd (he ▸ h) (by decide)
  rw [Mark.question?, if_neg hne]

/-- Escapes have no `?`. -/
theorem count_quoteChar (c : Char) : (Go.quoteChar c).count '?' = [c].count '?' := by
  unfold Go.quoteChar
  split
  · rfl
  · rfl
  · rfl
  · rfl
  · rfl
  · split
    · next hc =>
      have hne : c ≠ '?' := fun he => absurd (he ▸ hc) (by decide)
      rw [List.count_cons_of_ne (by decide), List.count_cons_of_ne (by decide),
        List.count_eq_zero.2 (notMem_hex4 _), List.count_eq_zero.2 (by simpa using hne.symm)]
    · rfl

theorem count_literals_operands (operands : List Operand) :
    (operands.flatMap Operand.literals).count '?' =
      ((operands.flatMap Operand.atoms).flatMap Atom.literal).count '?' := by
  induction operands with
  | nil => rfl
  | cons o rest ih =>
    rw [List.flatMap_cons, List.flatMap_cons, List.flatMap_append, List.count_append,
      List.count_append, ih]
    congr 1
    cases o with
    | text cs => simp [Operand.literals, Operand.atoms, Go.quoteText, List.flatMap_map, Atom.literal]
    | key k | quote receiver expr => simp [Operand.literals, Operand.atoms, Atom.literal]

/-! ## Question marks of a SQL clause -/

theorem count_literals_marks (receiver : String) (marks : List Mark) :
    ((marks.flatMap (Mark.atoms ⟨.positional, receiver⟩)).flatMap Atom.literal).count '?' =
      (marks.filterMap Mark.question?).length := by
  induction marks with
  | nil => rfl
  | cons m rest ih =>
    rw [List.flatMap_cons, List.flatMap_append, List.count_append, ih]
    cases m with
    | char c =>
      have hc : ((Mark.atoms ⟨.positional, receiver⟩ (.char c)).flatMap Atom.literal).count '?' =
          [c].count '?' := by
        simpa [Mark.atoms, Atom.literal] using count_quoteChar c
      rw [hc]
      by_cases h : c = '?'
      · simp [h, Mark.question?, Nat.add_comm]
      · simp [h, Mark.question?]
    | bound b =>
      have hb : ((Mark.atoms ⟨.positional, receiver⟩ (.bound b)).flatMap Atom.literal).count '?' =
          1 := rfl
      rw [hb]
      simp [Mark.question?, Nat.add_comm]
    | quoted expr =>
      rw [List.filterMap_cons_none rfl]
      exact Nat.zero_add _

theorem length_question_chars (cs : List Char) :
    ((cs.map Mark.char).filterMap Mark.question?).length = cs.count '?' := by
  rw [List.filterMap_map, List.length_filterMap_eq_countP]
  refine List.countP_congr fun c _ => ?_
  by_cases hc : c = '?' <;> simp [Mark.question?, hc]

/-- A SQL clause has a `?` for each of its values, and those of its text. -/
theorem length_questions (fragments : List Fragment) :
    ((fragments.flatMap Fragment.marks).filterMap Mark.question?).length =
      (bindingsOf fragments).length + (literalOf fragments).count '?' := by
  induction fragments with
  | nil => rfl
  | cons f rest ih =>
    rw [List.flatMap_cons, List.filterMap_append, List.length_append, ih, literalOf, literalOf,
      List.flatMap_cons, List.count_append]
    cases f with
    | text t =>
      have ht := length_question_chars t.toList
      rw [bindingsOf_text, Fragment.literal, Fragment.marks, ht]
      omega
    | bind b =>
      have hb : ((Fragment.bind b).marks.filterMap Mark.question?).length = 1 := rfl
      have hl : (Fragment.bind b).literal = [] := rfl
      rw [bindingsOf_bind, List.length_cons, hb, hl, List.count_nil]
      omega
    | quote expr =>
      have he : ((Fragment.quote expr).marks.filterMap Mark.question?).length = 0 := rfl
      have hl : (Fragment.quote expr).literal = [] := rfl
      rw [bindingsOf_quote, he, hl, List.count_nil]
      omega

section Clause

variable {fragments : List Fragment} (receiver builder : String)

theorem countP_isAppend (bs : List Binding) :
    (bs.map (Binding.statement .positional)).countP Statement.isAppend = bs.length := by
  rw [List.countP_map]
  exact List.countP_eq_length.2 fun b _ => rfl

theorem literals_bindings (bs : List Binding) :
    (bs.map (Binding.statement .positional)).flatMap Statement.literals = [] := by
  rw [List.flatMap_map]
  exact List.flatMap_eq_nil_iff.2 fun b _ => rfl

/-- The string literals of a SQL clause have a `?` for each value that its statements append, and
those of its template text. -/
theorem count_literals (h : ∀ b ∈ bindingsOf fragments, b.Named) :
    ((sqlStatements ⟨.positional, receiver⟩ builder fragments).flatMap
        Statement.literals).count '?' =
      (sqlStatements ⟨.positional, receiver⟩ builder fragments).countP Statement.isAppend +
        (literalOf fragments).count '?' := by
  have hblank : ∀ b ∈ bindingsOf fragments, b.key.TightEnd :=
    fun b hb => (h b hb).tightEnd
  have hsettled : ((settled fragments).filterMap Mark.question?).length =
      (bindingsOf fragments).length + (literalOf fragments).count '?' := by
    rw [filterMap_settled question?_of_isBlank, length_questions]
  unfold sqlStatements
  split
  · next ho =>
    rw [(settled_eq_nil_iff _ hblank).2 ho, bindingsOf_eq_nil hblank ho] at hsettled
    simpa using hsettled
  · next ho =>
    have hwritten := count_literals_operands (operandsOf ⟨.positional, receiver⟩ fragments)
    rw [atoms_operandsOf _ hblank, count_literals_marks, hsettled] at hwritten
    rw [List.flatMap_append, literals_bindings, List.nil_append, List.flatMap_singleton,
      Statement.literals, hwritten, List.countP_append, countP_isAppend]
    rfl

end Clause

/-! ## The text of a run, and where it comes from -/

/-- Blocks are joined by the helper functions of the package. -/
def World.Joins (w : World α) : Prop := ∀ kind text, w.join kind text = kind.joined id id text

namespace Written

variable (w : World α) (args : String → Value α)

mutual

/-- The text that positional code writes for a unit, each character with the value whose
placeholder it is. -/
def traced : Written α → List (Char × Option (Bound α))
  | char c => [(c, none)]
  | bound b => [('?', some b)]
  | quoted expr around => (w.quote (w.eval (readIn args around) expr)).map fun c => (c, none)
  | block kind inner => kind.joined Prod.fst (fun c => (c, none)) (tracedAll inner)

/-- The text that positional code writes for units. -/
def tracedAll : List (Written α) → List (Char × Option (Bound α))
  | [] => []
  | u :: rest => u.traced ++ tracedAll rest

end

mutual

/-- The units that a unit is made of, those of blocks instead of the blocks. -/
def leaves : Written α → List (Written α)
  | block _ inner => leavesAll inner
  | u => [u]

def leavesAll : List (Written α) → List (Written α)
  | [] => []
  | u :: rest => u.leaves ++ leavesAll rest

end

variable {w} {args}

mutual

theorem map_fst_traced (hw : w.Joins) (u : Written α) :
    (u.traced w args).map Prod.fst = u.text w args .positional := by
  match u with
  | char c => rfl
  | bound b => rfl
  | quoted expr around => simp [traced, text, Function.comp_def]
  | block kind inner =>
    rw [traced, text, JoinKind.map_joined fun _ => rfl, map_fst_tracedAll hw inner, hw]

/-- Without what it carries, the text is the one that is written. -/
theorem map_fst_tracedAll (hw : w.Joins) (units : List (Written α)) :
    (tracedAll w args units).map Prod.fst = textAll w args .positional units := by
  match units with
  | [] => rfl
  | u :: rest =>
    rw [tracedAll, textAll, List.map_append, map_fst_traced hw u, map_fst_tracedAll hw rest]

end

end Written

/-! ## Question marks of a run -/

/-- What is behind the `?` of a text: the value whose placeholder it is, if it is one. -/
def questions (text : List (Char × Option (Bound α))) : List (Option (Bound α)) :=
  (text.filter fun x => x.1 = '?').map Prod.snd

theorem questions_append (a b : List (Char × Option (Bound α))) :
    questions (a ++ b) = questions a ++ questions b := by
  simp [questions]

/-- Joining a block leaves every `?` in its place. -/
theorem questions_joined (kind : JoinKind) (text : List (Char × Option (Bound α))) :
    questions (kind.joined Prod.fst (fun c => (c, none)) text) = questions text := by
  rw [questions, JoinKind.filter_joined (fun _ => rfl) (by simp)]
  rfl

theorem questions_plain (cs : List Char) :
    questions (cs.map fun c => (c, (none : Option (Bound α)))) =
      List.replicate (cs.count '?') none := by
  induction cs with
  | nil => rfl
  | cons c rest ih =>
    rw [List.map_cons, ← List.singleton_append, questions_append, ih]
    by_cases hc : c = '?'
    · subst hc
      rw [List.count_cons_self, List.replicate_succ]
      rfl
    · simp [questions, hc]

namespace Written

variable {w : World α} {args : String → Value α}

/-- A unit with a `?` that is no placeholder: template text, or a quoted identifier. -/
def IsStray (w : World α) (args : String → Value α) : Written α → Prop
  | char c => c = '?'
  | quoted expr around => '?' ∈ w.quote (w.eval (readIn args around) expr)
  | _ => False

mutual

theorem reduceOption_questions_traced (u : Written α) :
    (questions (u.traced w args)).reduceOption = u.bounds := by
  match u with
  | char c =>
    have hc : questions [(c, (none : Option (Bound α)))] = List.replicate ([c].count '?') none :=
      questions_plain [c]
    rw [traced, hc, List.reduceOption_replicate_none]
    rfl
  | bound b => rfl
  | quoted expr around =>
    rw [traced, questions_plain, List.reduceOption_replicate_none]
    rfl
  | block kind inner =>
    rw [traced, bounds, questions_joined, reduceOption_questions inner]

/-- The placeholders of a text stand in the order of the values. -/
theorem reduceOption_questions (units : List (Written α)) :
    (questions (tracedAll w args units)).reduceOption = boundsAll units := by
  match units with
  | [] => rfl
  | u :: rest =>
    rw [tracedAll, boundsAll, questions_append, List.reduceOption_append,
      reduceOption_questions_traced u, reduceOption_questions rest]

end

mutual

theorem none_mem_questions_traced_iff (u : Written α) :
    none ∈ questions (u.traced w args) ↔ ∃ v ∈ u.leaves, v.IsStray w args := by
  match u with
  | char c =>
    by_cases hc : c = '?' <;> simp [traced, questions, leaves, IsStray, hc]
  | bound b => simp [traced, questions, leaves, IsStray]
  | quoted expr around =>
    rw [traced, questions_plain, List.mem_replicate, and_iff_left rfl, Ne, List.count_eq_zero,
      not_not]
    simp [leaves, IsStray]
  | block kind inner =>
    rw [traced, leaves, questions_joined, none_mem_questions_iff inner]

/-- What is no placeholder is a stray `?`. -/
theorem none_mem_questions_iff (units : List (Written α)) :
    none ∈ questions (tracedAll w args units) ↔ ∃ v ∈ leavesAll units, v.IsStray w args := by
  match units with
  | [] => simp [tracedAll, questions, leavesAll]
  | u :: rest =>
    rw [tracedAll, leavesAll, questions_append, List.mem_append, none_mem_questions_traced_iff u,
      none_mem_questions_iff rest]
    simp only [List.mem_append, or_and_right, exists_or]

end

end Written

/-! ## Where a question mark comes from -/

/-- The SQL clauses of what is left to run. -/
def Work.sqls : Work α → List (List Fragment)
  | clauses cs => Clause.sqlsAll cs
  | branches bs => Branch.sqlsAll bs
  | passes _ _ _ body _ _ => Clause.sqlsAll body

theorem mem_literalOf_of_settled {fragments : List Fragment} (h : .char '?' ∈ settled fragments) :
    '?' ∈ literalOf fragments := by
  have hm : none ∈ (fragments.flatMap Fragment.marks).filterMap Mark.question? := by
    rw [← filterMap_settled question?_of_isBlank]
    exact List.mem_filterMap.2 ⟨_, h, rfl⟩
  obtain ⟨m, hm, hq⟩ := List.mem_filterMap.1 hm
  obtain ⟨f, hf, hmf⟩ := List.mem_flatMap.1 hm
  refine List.mem_flatMap.2 ⟨f, hf, ?_⟩
  cases f with
  | text t =>
    obtain ⟨c, hc, rfl⟩ := List.mem_map.1 hmf
    by_cases he : c = '?'
    · exact he ▸ hc
    · simp [Mark.question?, he] at hq
  | bind b =>
    obtain rfl := List.mem_singleton.1 hmf
    cases hq
  | quote expr =>
    obtain rfl := List.mem_singleton.1 hmf
    cases hq

namespace Written

theorem leavesAll_append (a b : List (Written α)) :
    leavesAll (a ++ b) = leavesAll a ++ leavesAll b := by
  induction a with
  | nil => rfl
  | cons u rest ih => rw [List.cons_append, leavesAll, leavesAll, ih, List.append_assoc]

theorem leavesAll_map_written (around : List (Pass α)) (marks : List Mark) :
    leavesAll (marks.map (Mark.written around)) = marks.map (Mark.written around) := by
  induction marks with
  | nil => rfl
  | cons m rest ih =>
    rw [List.map_cons, leavesAll, ih]
    cases m <;> rfl

end Written

/-- A `?` that a run writes itself is template text. -/
theorem Runs.char_notMem {around : List (Pass α)} {work : Work α} {choices : List (Choice α)}
    {units : List (Written α)} (h : Runs around work choices units)
    (hl : ∀ fragments ∈ work.sqls, '?' ∉ literalOf fragments) :
    .char '?' ∉ Written.leavesAll units := by
  induction h with
  | done | noBranch | noPass => exact List.not_mem_nil
  | @sql around builder fragments rest choices units hr ih =>
    obtain ⟨hhead, htail⟩ := List.forall_mem_append.1 hl
    rw [Written.leavesAll_append, List.mem_append, not_or, Written.leavesAll_map_written]
    refine ⟨fun hc => ?_, ih htail⟩
    obtain ⟨m, hm, he⟩ := List.mem_map.1 hc
    cases m with
    | char c =>
      obtain rfl := Written.char.inj he
      exact hhead fragments (List.mem_singleton_self _) (mem_literalOf_of_settled hm)
    | bound b | quoted expr => cases he
  | branch hb hr ihb ih | loop hp hb hr ihb ih =>
    obtain ⟨hhead, htail⟩ := List.forall_mem_append.1 hl
    rw [Written.leavesAll_append, List.mem_append, not_or]
    exact ⟨ihb hhead, ih htail⟩
  | join hb hr ihb ih =>
    obtain ⟨hhead, htail⟩ := List.forall_mem_append.1 hl
    rw [Written.leavesAll, Written.leaves, List.mem_append, not_or]
    exact ⟨ihb hhead, ih htail⟩
  | otherwise hb ih | taken hb ih => exact ih fun fs hf => hl fs (List.mem_append_left _ hf)
  | passed hr ih => exact ih fun fs hf => hl fs (List.mem_append_right _ hf)
  | pass hb hr ihb ih =>
    rw [Written.leavesAll_append, List.mem_append, not_or]
    exact ⟨ihb hl, ih hl⟩

/-! ## Compiled templates -/

/-- The code of a method along a run of its tree, in positional style. -/
theorem exec_positionalStatements (w : World α) (args : String → Value α) (receiver : String)
    {tree : List Clause} {choices : List (Choice α)} {units : List (Written α)}
    (hn : (Clause.numberAll {} Reserved.sqlBuilder tree).1 = tree)
    (hb : ∀ b ∈ Clause.bindingsAll tree, b.Named) (hg : Clause.AllGrammatical true tree)
    (h : Runs [] (.clauses tree) choices units) :
    ∃ m, Statement.execAll w (methodStatements ⟨.positional, receiver⟩ tree)
        (.start args choices) = some m ∧
      m.appended = (Written.boundsAll units).map (fun b => b.value w args) ∧
      m.texts Reserved.sqlBuilder = Written.textAll w args .positional units := by
  have hinside : Inside args {} true Reserved.sqlBuilder [] (.clauses tree)
      { Machine.start args choices with
        texts := Function.update (fun _ => []) Reserved.sqlBuilder [] } :=
    { numbered := hn
      named := hb
      grammatical := hg
      main := fun _ => rfl
      locals := rfl
      globals := rfl }
  obtain ⟨m, hm, ha⟩ := h.append w args receiver hinside (List.append_nil choices).symm
  refine ⟨m, ?_, ha.appended, ?_⟩
  · rw [execAll_methodStatements]
    exact hm
  · rw [ha.text]
    simp

/-- A list has no gaps exactly where it is the list of what it holds. -/
theorem map_eq_map_some_iff {β γ : Type} (f : β → γ) (l : List (Option β)) :
    l.map (Option.map f) = (l.reduceOption.map f).map some ↔ none ∉ l := by
  constructor
  · intro h hnone
    have hmem : none ∈ (l.reduceOption.map f).map some := h ▸ List.mem_map_of_mem hnone
    obtain ⟨x, -, hx⟩ := List.mem_map.1 hmem
    cases hx
  · intro h
    induction l with
    | nil => rfl
    | cons x rest ih =>
      rw [List.mem_cons, not_or] at h
      obtain ⟨b, rfl⟩ := Option.ne_none_iff_exists'.1 (Ne.symm h.1)
      rw [List.reduceOption_cons_of_some, List.map_cons, ih h.2]
      rfl

/-- Question marks of positional code. The string literals of every SQL clause have a `?` for each
value that is appended for the clause, and those of its template text. In every run the
placeholders stand in the order of the values that were appended, and each `?` of the text belongs
to the value in its place exactly where none is stray. If there is no `?` in template text, only
quoted identifiers have stray ones. -/
theorem compile_questions {template : String} {scope : Scope} {receiver : String} {c : Compiled}
    (h : compile template scope ⟨.positional, receiver⟩ = .ok c) :
    (∀ fragments ∈ Clause.sqlsAll c.clauses, ∀ builder,
      ((sqlStatements ⟨.positional, receiver⟩ builder fragments).flatMap
          Statement.literals).count '?' =
        (sqlStatements ⟨.positional, receiver⟩ builder fragments).countP Statement.isAppend +
          (literalOf fragments).count '?') ∧
    ∀ (α : Type) (w : World α) (args : String → Value α) (choices : List (Choice α))
      (units : List (Written α)), w.Joins → Runs [] (.clauses c.clauses) choices units →
      ∃ m, Statement.execAll w c.block (.start args choices) = some m ∧
        m.texts Reserved.sqlBuilder = (Written.tracedAll w args units).map Prod.fst ∧
        m.appended =
          (questions (Written.tracedAll w args units)).reduceOption.map (fun b => b.value w args) ∧
        ((questions (Written.tracedAll w args units)).map (Option.map fun b => b.value w args) =
          m.appended.map some ↔ ∀ u ∈ Written.leavesAll units, ¬u.IsStray w args) ∧
        ((∀ fragments ∈ Clause.sqlsAll c.clauses, '?' ∉ literalOf fragments) →
          ∀ u ∈ Written.leavesAll units, u.IsStray w args → ∃ expr around, u = .quoted expr around) := by
  obtain ⟨-, sections, ht, tree, hb, rfl⟩ := compile_eq_ok_iff.1 h
  have hnamed := named_of_buildClauses ht hb
  refine ⟨fun fragments hf builder => ?_, fun α w args choices units hw hrun => ?_⟩
  · exact count_literals receiver builder fun b hm =>
      hnamed b (Clause.mem_bindingsAll_of_sqls hf hm)
  · obtain ⟨m, hm, happended, htext⟩ := exec_positionalStatements w args receiver
      (numberAll_of_buildClauses hb) hnamed (isBody_of_buildClauses hb).2 hrun
    have hvalues : m.appended =
        (questions (Written.tracedAll w args units)).reduceOption.map fun b => b.value w args := by
      rw [Written.reduceOption_questions, happended]
    refine ⟨m, hm, ?_, hvalues, ?_, fun hliteral u hu hs => ?_⟩
    · rw [htext, Written.map_fst_tracedAll hw]
    · rw [hvalues, map_eq_map_some_iff, Written.none_mem_questions_iff]
      simp only [not_exists, not_and]
    · cases u with
      | char c =>
        obtain rfl : c = '?' := hs
        exact absurd hu (hrun.char_notMem hliteral)
      | quoted expr around => exact ⟨expr, around, rfl⟩
      | bound b | block kind inner => exact absurd hs id

namespace Documents

def scope : Scope :=
  ⟨[⟨"id", .simple "int", false⟩, ⟨"col", .simple "string", false⟩], "docs", .empty⟩

/-- Helper functions as they are, and a receiver that quotes every identifier as `a?b`. -/
def world : World Empty :=
  ⟨Empty.elim, fun v _ => v, fun _ => "a?b".toList, fun kind text => kind.joined id id text⟩

def args : String → Value Empty := fun _ => .int 7

/-- The text and the values of a method that is run without a choice. -/
def outcome (c : Compiled) : Option (String × List (Value Empty)) :=
  (Statement.execAll world c.block (.start args [])).map fun m =>
    (.ofList (m.texts Reserved.sqlBuilder), m.appended)

def binding : Binding := ⟨"id", ⟨"id", none⟩⟩

def filtered : List Clause :=
  [.sql "generateSQL" [.text "select * from docs "],
    .join .filter "whereSQL0" "generateSQL" [.sql "whereSQL0" [.text "and id = ", .bind binding]]]

/-- What is written for it. -/
def units : List (Written Empty) :=
  (settled [.text "select * from docs "]).map (Mark.written []) ++
    [.block .filter ((settled [.text "and id = ", .bind binding]).map (Mark.written []))]

/-- The `?` of a `where` block belongs to its value, behind the connector that is dropped. -/
theorem questions_filtered :
    ∃ c, compile "select * from @@table {{where}}and id = @id{{end}}" scope ⟨.positional, "u"⟩ =
        .ok c ∧
      outcome c = some ("select * from docs WHERE id = ? ", [.int 7]) ∧
      Runs [] (.clauses c.clauses) [] units ∧
        (questions (Written.tracedAll world args units)).map
          (Option.map fun b => b.value world args) = [some (.int 7)] := by
  have hc : compile "select * from @@table {{where}}and id = @id{{end}}" scope ⟨.positional, "u"⟩ =
      .ok (render ⟨.positional, "u"⟩ filtered) := by
    refine compile_ofList [.literal "select * from docs ", .join .filter,
      .literal "and id = ", .data ⟨"id", .method, .simple "int"⟩, .close] rfl ?tokens ?tree
    case tokens => decide +kernel
    case tree => rfl
  have hout : outcome (render ⟨.positional, "u"⟩ filtered) =
      some ("select * from docs WHERE id = ? ", [.int 7]) := by
    cbv
  have hrun : Runs [] (.clauses filtered) [] units := .sql (.join (.sql .done) .done)
  have hleaves : Written.leavesAll units = "select * from docs and id = ".toList.map .char ++
      [.bound ⟨binding, []⟩, .char ' '] := by
    cbv
  obtain ⟨-, hruns⟩ := compile_questions hc
  obtain ⟨m, hm, -, -, hiff, hquoted⟩ := hruns Empty world args [] _ (fun _ _ => rfl) hrun
  refine ⟨_, hc, hout, hrun, ?_⟩
  have happended : m.appended = [.int 7] := by
    rw [outcome, hm, Option.map_some, Option.some.injEq, Prod.mk.injEq] at hout
    exact hout.2
  rw [hiff.2 ?_, happended]
  · rfl
  · intro u hu hs
    obtain ⟨expr, around, rfl⟩ := hquoted (by decide) u hu hs
    rw [hleaves] at hu
    simp at hu

/-- Two `?`, one of which is an operator. -/
def operator : List Fragment :=
  [.text "select * from docs where tags ? 'k' and id = ", .bind binding]

/-- No value is bound here. -/
def quoted : List Fragment := [.text "select ", .quote "col", .text " from docs"]

/-- A `?` in template text or in a quoted identifier is no placeholder. -/
theorem questions_of_operator :
    (∃ c, compile "select * from docs where tags ? 'k' and id = @id" scope ⟨.positional, "u"⟩ =
        .ok c ∧
      operator ∈ Clause.sqlsAll c.clauses ∧
      ((sqlStatements ⟨.positional, "u"⟩ "generateSQL" operator).flatMap
        Statement.literals).count '?' = 2 ∧
      (sqlStatements ⟨.positional, "u"⟩ "generateSQL" operator).countP Statement.isAppend = 1 ∧
      outcome c = some ("select * from docs where tags ? 'k' and id = ? ", [.int 7])) ∧
    ∃ c, compile "select @@col from docs" scope ⟨.positional, "u"⟩ = .ok c ∧
      outcome c = some ("select a?b from docs ", []) := by
  constructor
  · refine ⟨render ⟨.positional, "u"⟩ [.sql "generateSQL" operator], ?_, List.mem_singleton_self _,
      by cbv, by cbv, by cbv⟩
    refine compile_ofList [.literal "select * from docs where tags ? 'k' and id = ",
      .data ⟨"id", .method, .simple "int"⟩] rfl ?tokens ?tree
    case tokens => decide +kernel
    case tree => rfl
  · refine ⟨render ⟨.positional, "u"⟩ [.sql "generateSQL" quoted], ?_, by cbv⟩
    refine compile_ofList [.literal "select ",
      .quoted ⟨"col", .method, .simple "string"⟩, .literal " from docs"] rfl ?tokens ?tree
    case tokens => decide +kernel
    case tree => rfl

end Documents

end QueryGen
