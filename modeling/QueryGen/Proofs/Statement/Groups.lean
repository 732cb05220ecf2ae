import QueryGen.Compile
import QueryGen.Proofs.Statement.Written
import QueryGen.Proofs.Template.Scoping

/-!
# The lines that bind and write

A compiled template binds the values that it names, in their order, each right before the text
that holds its placeholder.

- `Line`, `Statement.code`: the lines of statements, by what they do with values and text
  (`linesAll_eq_map_text`).
- `Clause.sqls`: the SQL clauses of a tree from left to right.
- `Grouped`: lines that go through SQL clauses. For each there are the lines that bind its values
  and the write with their placeholders, and nothing when it is blank.
- `grouped_statementsAll`: the lines of a clause tree are grouped, by induction on the tree.
- `compile_ofList`: how a template that is given by its letters is compiled.
- `compile_grouped`: nothing is lost or moved from the sections to the lines.
-/

namespace QueryGen

open Template (BindStyle Options Scope)

/-! ## Lines -/

/-- A line of a method body at a depth. -/
inductive Line where
  | put (depth : Nat) (key : Key) (expr : String)
  | append (depth : Nat) (expr : String)
  | write (depth : Nat) (builder : String) (operands : List Operand)
  /-- A line that neither binds a value nor writes text. -/
  | other (text : String)

def Operand.quote? : Operand → Option String
  | quote _ expr => some expr
  | _ => none

namespace Line

/-- The text of a line. -/
def text : Line → String
  | put depth key expr => indent depth (Reserved.bindings ++ "[" ++ key.expr ++ "] = " ++ expr)
  | append depth expr =>
    indent depth (Reserved.bindings ++ " = append(" ++ Reserved.bindings ++ ", " ++ expr ++ ")")
  | write depth builder operands =>
    indent depth
      (builder ++ ".WriteString(" ++ " + ".intercalate (operands.map Operand.expr) ++ ")")
  | other text => text

/-- The expression whose value is bound. -/
def bound? : Line → Option String
  | put _ _ expr => some expr
  | append _ expr => some expr
  | _ => none

/-- The arguments of the calls that quote identifiers. -/
def quotes : Line → List String
  | write _ _ operands => operands.filterMap Operand.quote?
  | _ => []

end Line

mutual

/-- The lines of a statement at a depth. -/
def Statement.code (depth : Nat) : Statement → List Line
  | .put key expr => [.put depth key expr]
  | .append expr => [.append depth expr]
  | .write builder operands => [.write depth builder operands]
  | .branch cond body alternatives =>
    .other (indent depth ("if " ++ cond ++ " \x7b")) :: (Statement.codeAll (depth + 1) body ++
      Alternative.codeAll depth alternatives ++ [.other (indent depth "\x7d")])
  | .loop index value range body =>
    .other (indent depth (loopHead index value range)) ::
      (Statement.codeAll (depth + 1) body ++ [.other (indent depth "\x7d")])
  | s => (s.lines depth).map .other

/-- The lines of statements at a depth. -/
def Statement.codeAll (depth : Nat) : List Statement → List Line
  | [] => []
  | s :: rest => s.code depth ++ Statement.codeAll depth rest

/-- The lines of alternatives, without the last closing brace. -/
def Alternative.codeAll (depth : Nat) : List Alternative → List Line
  | [] => []
  | .mk cond body :: rest =>
    .other (indent depth (alternativeHead cond)) ::
      (Statement.codeAll (depth + 1) body ++ Alternative.codeAll depth rest)

end

theorem Statement.codeAll_append (depth : Nat) (a b : List Statement) :
    codeAll depth (a ++ b) = codeAll depth a ++ codeAll depth b := by
  induction a with
  | nil => simp [codeAll]
  | cons s rest ih => simp [codeAll, ih]

mutual

theorem Statement.lines_eq_map_text (depth : Nat) (s : Statement) :
    s.lines depth = (s.code depth).map Line.text := by
  match s with
  | .declareMap | .declareList | .declareBuilder _ | .join _ _ _ | .startCounter _
  | .stepCounter _ => simp [Statement.code, Line.text, Statement.lines]
  | .put _ _ | .append _ | .write _ _ => rfl
  | .branch cond body alternatives =>
    simp [Statement.lines, Statement.code, Line.text, Statement.linesAll_eq_map_text,
      Alternative.linesAll_eq_map_text]
  | .loop index value range body =>
    simp [Statement.lines, Statement.code, Line.text, Statement.linesAll_eq_map_text]

/-- The lines are the rendered ones. -/
theorem Statement.linesAll_eq_map_text (depth : Nat) (ss : List Statement) :
    Statement.linesAll depth ss = (Statement.codeAll depth ss).map Line.text := by
  match ss with
  | [] => rfl
  | s :: rest =>
    simp [Statement.linesAll, Statement.codeAll, Statement.lines_eq_map_text,
      Statement.linesAll_eq_map_text]

theorem Alternative.linesAll_eq_map_text (depth : Nat) (as : List Alternative) :
    Alternative.linesAll depth as = (Alternative.codeAll depth as).map Line.text := by
  match as with
  | [] => rfl
  | .mk cond body :: rest =>
    simp [Alternative.linesAll, Alternative.lines, Alternative.codeAll, Line.text,
      Statement.linesAll_eq_map_text, Alternative.linesAll_eq_map_text]

end

/-! ## The SQL clauses of a tree -/

def Fragment.quote? : Fragment → Option String
  | quote expr => some expr
  | _ => none

/-- The expressions that fragments quote, in order. -/
def quotesOf (fragments : List Fragment) : List String := fragments.filterMap Fragment.quote?

mutual

/-- The SQL clauses of a clause, in source order. -/
def Clause.sqls : Clause → List (List Fragment)
  | .sql _ fragments => [fragments]
  | .branch _ _ body otherwise => Clause.sqlsAll body ++ Branch.sqlsAll otherwise
  | .join _ _ _ body => Clause.sqlsAll body
  | .loop _ _ _ _ body => Clause.sqlsAll body

/-- The SQL clauses of clauses, in source order. -/
def Clause.sqlsAll : List Clause → List (List Fragment)
  | [] => []
  | c :: rest => c.sqls ++ Clause.sqlsAll rest

/-- The SQL clauses of branches, in source order. -/
def Branch.sqlsAll : List Branch → List (List Fragment)
  | [] => []
  | .mk _ body :: rest => Clause.sqlsAll body ++ Branch.sqlsAll rest

end

mutual

theorem Clause.bindings_eq_flatMap_sqls (c : Clause) :
    c.bindings = c.sqls.flatMap bindingsOf := by
  match c with
  | .sql _ fragments => simp [Clause.bindings, Clause.sqls]
  | .branch _ _ body otherwise =>
    simp [Clause.bindings, Clause.sqls, Clause.bindingsAll_eq_flatMap_sqlsAll,
      Branch.bindingsAll_eq_flatMap_sqlsAll]
  | .join _ _ _ body | .loop _ _ _ _ body =>
    simp [Clause.bindings, Clause.sqls, Clause.bindingsAll_eq_flatMap_sqlsAll]

theorem Clause.bindingsAll_eq_flatMap_sqlsAll (cs : List Clause) :
    Clause.bindingsAll cs = (Clause.sqlsAll cs).flatMap bindingsOf := by
  match cs with
  | [] => rfl
  | c :: rest =>
    simp [Clause.bindingsAll, Clause.sqlsAll, Clause.bindings_eq_flatMap_sqls,
      Clause.bindingsAll_eq_flatMap_sqlsAll]

theorem Branch.bindingsAll_eq_flatMap_sqlsAll (bs : List Branch) :
    Branch.bindingsAll bs = (Branch.sqlsAll bs).flatMap bindingsOf := by
  match bs with
  | [] => rfl
  | .mk _ body :: rest =>
    simp [Branch.bindingsAll, Branch.bindings, Branch.sqlsAll,
      Clause.bindingsAll_eq_flatMap_sqlsAll, Branch.bindingsAll_eq_flatMap_sqlsAll]

end

theorem Clause.mem_bindingsAll_of_sqls {cs : List Clause} {fragments : List Fragment}
    (hf : fragments ∈ Clause.sqlsAll cs) {b : Binding} (hb : b ∈ bindingsOf fragments) :
    b ∈ Clause.bindingsAll cs := by
  rw [Clause.bindingsAll_eq_flatMap_sqlsAll]
  exact List.mem_flatMap.2 ⟨fragments, hf, hb⟩

/-! ## The sections of a tree -/

/-- The path of a value that is bound. -/
def Section.bound? : Section → Option String
  | data ref => some ref.path
  | _ => none

/-- The path of an identifier that is quoted. -/
def Section.quote? : Section → Option String
  | quoted ref => some ref.path
  | _ => none

section Flatten

variable {f : Section → Option String}

mutual

theorem Clause.filterMap_flatten (hf : ∀ s, s.isSql = false → f s = none) (c : Clause) :
    c.flatten.filterMap f = c.sqls.flatMap fun fs => (fs.map Fragment.section).filterMap f := by
  match c with
  | .sql _ fragments => simp [Clause.flatten, Clause.sqls]
  | .branch _ cond body otherwise =>
    simp [Clause.flatten, Clause.sqls, hf (.branch cond) rfl, hf .close rfl,
      Clause.filterMap_flattenAll hf body, Branch.filterMap_flattenAll hf otherwise]
  | .join kind _ _ body =>
    simp [Clause.flatten, Clause.sqls, hf (.join kind) rfl, hf .close rfl,
      Clause.filterMap_flattenAll hf body]
  | .loop _ _ range _ body =>
    simp [Clause.flatten, Clause.sqls, hf (.loop range) rfl, hf .close rfl,
      Clause.filterMap_flattenAll hf body]

/-- What SQL sections hold is what SQL clauses hold. -/
theorem Clause.filterMap_flattenAll (hf : ∀ s, s.isSql = false → f s = none) (cs : List Clause) :
    (Clause.flattenAll cs).filterMap f =
      (Clause.sqlsAll cs).flatMap fun fs => (fs.map Fragment.section).filterMap f := by
  match cs with
  | [] => rfl
  | c :: rest =>
    simp [Clause.flattenAll, Clause.sqlsAll, Clause.filterMap_flatten hf c,
      Clause.filterMap_flattenAll hf rest]

theorem Branch.filterMap_flattenAll (hf : ∀ s, s.isSql = false → f s = none) (bs : List Branch) :
    (Branch.flattenAll bs).filterMap f =
      (Branch.sqlsAll bs).flatMap fun fs => (fs.map Fragment.section).filterMap f := by
  match bs with
  | [] => rfl
  | .mk cond body :: rest =>
    simp [Branch.flattenAll, Branch.flatten, Branch.sqlsAll, hf (.otherwise cond) rfl,
      Clause.filterMap_flattenAll hf body, Branch.filterMap_flattenAll hf rest]

end

/-- A tree holds what the sections hold that it was built from. -/
theorem filterMap_of_buildClauses (hf : ∀ s, s.isSql = false → f s = none)
    (hbare : ∀ s, f s.bare = f s) {sections : List Section} {source : String}
    {tree : List Clause} (h : buildClauses sections source = .ok tree) :
    sections.filterMap f =
      (Clause.sqlsAll tree).flatMap fun fs => (fs.map Fragment.section).filterMap f := by
  rw [← Clause.filterMap_flattenAll hf, flattenAll_of_buildClauses h, List.filterMap_map]
  exact List.filterMap_congr fun s _ => (hbare s).symm

end Flatten

theorem filterMap_bound_section (fragments : List Fragment) :
    (fragments.map Fragment.section).filterMap Section.bound? =
      (bindingsOf fragments).map Binding.expr := by
  rw [List.filterMap_map, bindingsOf, List.map_filterMap]
  refine List.filterMap_congr fun f _ => ?_
  cases f <;> rfl

theorem filterMap_quote_section (fragments : List Fragment) :
    (fragments.map Fragment.section).filterMap Section.quote? = quotesOf fragments := by
  rw [List.filterMap_map, quotesOf]
  refine List.filterMap_congr fun f _ => ?_
  cases f <;> rfl

/-! ## Quoted identifiers -/

theorem filterMap_quote_marks (fragments : List Fragment) :
    (fragments.flatMap Fragment.marks).filterMap Mark.quote? = quotesOf fragments := by
  induction fragments with
  | nil => rfl
  | cons f rest ih =>
    rw [List.flatMap_cons, List.filterMap_append, ih]
    cases f with
    | text t =>
      have ht : (t.toList.map Mark.char).filterMap Mark.quote? = [] := by
        simp [Mark.quote?, Function.comp_def]
      rw [Fragment.marks, ht]
      rfl
    | bind b | quote expr => rfl

theorem filterMap_quote_atoms (operands : List Operand) :
    (operands.flatMap Operand.atoms).filterMap Atom.quote? =
      operands.filterMap Operand.quote? := by
  induction operands with
  | nil => rfl
  | cons o rest ih =>
    rw [List.flatMap_cons, List.filterMap_append, ih]
    cases o with
    | text cs =>
      have ht : (cs.map Atom.char).filterMap Atom.quote? = [] := by
        simp [Atom.quote?, Function.comp_def]
      rw [Operand.atoms, ht]
      rfl
    | key k | quote receiver expr => rfl

theorem filterMap_quote_written (opts : Options) (marks : List Mark) :
    (marks.flatMap (Mark.atoms opts)).filterMap Atom.quote? = marks.filterMap Mark.quote? := by
  induction marks with
  | nil => rfl
  | cons m rest ih =>
    rw [List.flatMap_cons, List.filterMap_append, ih]
    cases m with
    | char c | quoted expr => rfl
    | bound b =>
      have hb : (Mark.atoms opts (.bound b)).filterMap Atom.quote? = [] := by
        simp only [Mark.atoms]
        split <;> simp [Atom.quote?]
      rw [hb]
      rfl

/-! ## Groups of lines -/

/-- The line that binds a value. -/
def Binding.line (opts : Options) (depth : Nat) (b : Binding) : Line :=
  match opts.bindStyle with
  | .named => .put depth b.key.key b.expr
  | .positional => .append depth b.expr

/-- Lines that go through SQL clauses in order. The lines of a clause bind its values and write its
placeholders, with no other line between them. -/
inductive Grouped (opts : Options) : List (List Fragment) → List Line → Prop where
  | nil : Grouped opts [] []
  | other (text : String) {sqls : List (List Fragment)} {lines : List Line}
      (h : Grouped opts sqls lines) : Grouped opts sqls (.other text :: lines)
  /-- A clause of blanks alone has no lines. -/
  | blank {fragments : List Fragment} (hb : settled fragments = [])
      {sqls : List (List Fragment)} {lines : List Line} (h : Grouped opts sqls lines) :
      Grouped opts (fragments :: sqls) lines
  | write (depth : Nat) (builder : String) {fragments : List Fragment} {operands : List Operand}
      (hb : settled fragments ≠ [])
      (ho : operands.flatMap Operand.atoms = (settled fragments).flatMap (Mark.atoms opts))
      {sqls : List (List Fragment)} {lines : List Line} (h : Grouped opts sqls lines) :
      Grouped opts (fragments :: sqls) ((bindingsOf fragments).map (Binding.line opts depth) ++
        .write depth builder operands :: lines)

namespace Grouped

variable {opts : Options} {sqls more : List (List Fragment)} {lines others : List Line}

theorem append (h : Grouped opts sqls lines) (h' : Grouped opts more others) :
    Grouped opts (sqls ++ more) (lines ++ others) := by
  induction h with
  | nil => exact h'
  | other text _ ih => exact .other text ih
  | blank hb _ ih => exact .blank hb ih
  | write depth builder hb ho _ ih =>
    rw [List.append_assoc, List.cons_append, List.cons_append]
    exact .write depth builder hb ho ih

theorem ofOthers (texts : List String) : Grouped opts [] (texts.map Line.other) := by
  induction texts with
  | nil => exact .nil
  | cons t rest ih => exact .other t ih

/-- The values that the lines bind are those of the clauses, in order. -/
theorem bound (h : Grouped opts sqls lines) :
    lines.filterMap Line.bound? = (sqls.flatMap bindingsOf).map Binding.expr := by
  induction h with
  | nil => rfl
  | other text _ ih => exact ih
  | @blank fragments hb _ _ _ ih =>
    have hn : bindingsOf fragments = [] := by
      rw [← bindings_settled, hb]
      rfl
    rw [ih, List.flatMap_cons, hn, List.nil_append]
  | @write depth builder fragments operands hb ho _ _ _ ih =>
    have hl : ∀ b : Binding, (b.line opts depth).bound? = some b.expr := by
      intro b
      unfold Binding.line
      split <;> rfl
    rw [List.filterMap_append, List.filterMap_cons_none rfl, ih, List.filterMap_map]
    simp [hl]

/-- The identifiers that the lines quote are those of the clauses, in order. -/
theorem quotes (h : Grouped opts sqls lines) :
    lines.flatMap Line.quotes = sqls.flatMap quotesOf := by
  induction h with
  | nil => rfl
  | other text _ ih => exact ih
  | @blank fragments hb _ _ _ ih =>
    have hn : quotesOf fragments = [] := by
      rw [← filterMap_quote_marks, ← filterMap_settled (fun _ _ => rfl), hb]
      rfl
    rw [ih, List.flatMap_cons, hn, List.nil_append]
  | @write depth builder fragments operands hb ho _ _ _ ih =>
    have hl : ((bindingsOf fragments).map (Binding.line opts depth)).flatMap Line.quotes = [] := by
      simp only [List.flatMap_map, List.flatMap_eq_nil_iff]
      intro b _
      unfold Binding.line
      split <;> rfl
    have hq : operands.filterMap Operand.quote? = quotesOf fragments := by
      rw [← filterMap_quote_atoms, ho, filterMap_quote_written, filterMap_settled (fun _ _ => rfl),
        filterMap_quote_marks]
    rw [List.flatMap_append, hl, List.nil_append, List.flatMap_cons, ih, Line.quotes, hq,
      List.flatMap_cons]

end Grouped

/-! ## The lines of a tree -/

/-- The name of every key is the bound expression, and no blank is in it. -/
def Binding.Named (b : Binding) : Prop :=
  b.key.name = b.expr ∧ ∀ c ∈ b.expr.toList, Text.isBlank c = false

theorem Binding.Named.tightEnd {b : Binding} (h : b.Named) : b.key.TightEnd := by
  intro c hc
  rw [h.1] at hc
  exact h.2 c (List.mem_of_getLast? hc)

theorem codeAll_bindings (opts : Options) (depth : Nat) (bs : List Binding) :
    Statement.codeAll depth (bs.map (Binding.statement opts.bindStyle)) =
      bs.map (Binding.line opts depth) := by
  induction bs with
  | nil => rfl
  | cons b rest ih =>
    rw [List.map_cons, Statement.codeAll, ih, List.map_cons]
    unfold Binding.statement Binding.line
    cases opts.bindStyle <;> rfl

theorem grouped_sqlStatements (opts : Options) (depth : Nat) (builder : String)
    {fragments : List Fragment} (h : ∀ b ∈ bindingsOf fragments, b.Named) :
    Grouped opts [fragments] (Statement.codeAll depth (sqlStatements opts builder fragments)) := by
  have hblank : ∀ b ∈ bindingsOf fragments, b.key.TightEnd :=
    fun b hb => (h b hb).tightEnd
  unfold sqlStatements
  split
  · next hn => exact .blank ((settled_eq_nil_iff opts hblank).2 hn) .nil
  · next hn =>
    rw [Statement.codeAll_append, codeAll_bindings]
    exact .write depth builder (fun hs => hn ((settled_eq_nil_iff opts hblank).1 hs))
      (atoms_operandsOf opts hblank) .nil

theorem grouped_loopStatements {opts : Options} {depth : Nat} {sqls : List (List Fragment)}
    {body : List Statement} (h : Grouped opts sqls (Statement.codeAll (depth + 1) body))
    (numbered : Bool) (range : ForRange) (index : LoopIndex) :
    Grouped opts sqls (Statement.codeAll depth (loopStatements numbered range index body)) := by
  have hclose : Grouped opts [] [Line.other (indent depth "\x7d")] := .ofOthers [_]
  unfold loopStatements
  split
  · next name =>
    have hstep : Grouped opts sqls
        (Statement.codeAll (depth + 1) (body ++ [.stepCounter name])) := by
      rw [Statement.codeAll_append]
      simpa [Statement.codeAll, Statement.code, Statement.lines] using
        h.append (.ofOthers [indent (depth + 1) (name ++ "++")])
    simpa [Statement.codeAll, Statement.code, Statement.lines] using
      Grouped.other _ (.other _ (hstep.append hclose))
  · simpa [Statement.codeAll, Statement.code] using Grouped.other _ (h.append hclose)
  · simpa [Statement.codeAll, Statement.code] using Grouped.other _ (h.append hclose)

mutual

theorem Clause.grouped_statements (opts : Options) {c : Clause}
    (h : ∀ b ∈ c.bindings, b.Named) (depth : Nat) :
    Grouped opts c.sqls (Statement.codeAll depth (c.statements opts)) := by
  match c with
  | .sql builder fragments => exact grouped_sqlStatements opts depth builder h
  | .branch _ cond body otherwise =>
    have hb := Clause.grouped_statementsAll opts
      (fun b hb => h b (List.mem_append_left _ hb)) (depth + 1)
    have ho := Branch.grouped_alternatives opts
      (fun b hb => h b (List.mem_append_right _ hb)) depth
    have hclose : Grouped opts [] [Line.other (indent depth "\x7d")] := .ofOthers [_]
    simpa [Clause.statements, Clause.sqls, Statement.codeAll, Statement.code] using
      Grouped.other _ ((hb.append ho).append hclose)
  | .join kind builder target body =>
    have hb := Clause.grouped_statementsAll opts h depth
    have hjoin : Grouped opts [] (((Statement.join kind target builder).lines depth).map
        Line.other) := .ofOthers _
    simpa [Clause.statements, Clause.sqls, Statement.codeAll, Statement.code,
      Statement.codeAll_append, Statement.lines] using Grouped.other _ (hb.append hjoin)
  | .loop _ _ range index body =>
    exact grouped_loopStatements (Clause.grouped_statementsAll opts h (depth + 1)) _ range index

/-- The lines of clauses go through their SQL clauses. -/
theorem Clause.grouped_statementsAll (opts : Options) {cs : List Clause}
    (h : ∀ b ∈ Clause.bindingsAll cs, b.Named) (depth : Nat) :
    Grouped opts (Clause.sqlsAll cs) (Statement.codeAll depth (Clause.statementsAll opts cs)) := by
  match cs with
  | [] => exact .nil
  | c :: rest =>
    rw [Clause.statementsAll, Statement.codeAll_append]
    have hc := Clause.grouped_statements opts (fun b hb => h b (List.mem_append_left _ hb)) depth
    have hrest := Clause.grouped_statementsAll opts
      (fun b hb => h b (List.mem_append_right _ hb)) depth
    exact hc.append hrest

theorem Branch.grouped_alternatives (opts : Options) {bs : List Branch}
    (h : ∀ b ∈ Branch.bindingsAll bs, b.Named) (depth : Nat) :
    Grouped opts (Branch.sqlsAll bs)
      (Alternative.codeAll depth (Branch.alternatives opts bs)) := by
  match bs with
  | [] => exact .nil
  | .mk cond body :: rest =>
    have hb := Clause.grouped_statementsAll opts
      (fun b hb => h b (List.mem_append_left _ hb)) (depth + 1)
    have ho := Branch.grouped_alternatives opts
      (fun b hb => h b (List.mem_append_right _ hb)) depth
    exact .other _ (hb.append ho)

end

theorem grouped_methodStatements (opts : Options) {tree : List Clause}
    (h : ∀ b ∈ Clause.bindingsAll tree, b.Named) :
    Grouped opts (Clause.sqlsAll tree) (Statement.codeAll 0 (methodStatements opts tree)) := by
  have ht := Clause.grouped_statementsAll opts h 0
  unfold methodStatements declareBindings
  rw [Statement.codeAll_append]
  split
  · split <;>
      simpa [Statement.codeAll, Statement.code, Statement.lines] using
        Grouped.other _ (.other _ ht)
  · simpa [Statement.codeAll, Statement.code, Statement.lines] using Grouped.other _ ht

/-! ## Keys of built trees -/

theorem name_of_mem_number {scope : Option LoopKey} {fragments : List Fragment} {b : Binding}
    (h : b ∈ bindingsOf (fragments.map (Fragment.number scope))) : b.key.name = b.expr := by
  obtain ⟨f, hf, hb⟩ := List.mem_filterMap.1 h
  obtain ⟨g, -, rfl⟩ := List.mem_map.1 hf
  cases g with
  | bind d =>
    obtain rfl := Option.some.inj hb
    rfl
  | text t => cases hb
  | quote expr => cases hb

mutual

theorem Clause.name_of_mem_number (n : Numbering) (builder : String) (c : Clause) :
    ∀ b ∈ (c.number n builder).1.bindings, b.key.name = b.expr := by
  intro b hb
  match c with
  | .sql _ fragments => exact QueryGen.name_of_mem_number hb
  | .branch _ cond body otherwise =>
    rcases List.mem_append.1 hb with hb | hb
    · exact Clause.name_of_mem_numberAll _ _ body b hb
    · exact Branch.name_of_mem_numberAll _ _ otherwise b hb
  | .join _ _ _ body | .loop _ _ _ _ body => exact Clause.name_of_mem_numberAll _ _ body b hb

/-- A binding is called what it binds. -/
theorem Clause.name_of_mem_numberAll (n : Numbering) (builder : String) (cs : List Clause) :
    ∀ b ∈ Clause.bindingsAll (Clause.numberAll n builder cs).1, b.key.name = b.expr := by
  intro b hb
  match cs with
  | [] => cases hb
  | c :: rest =>
    rcases List.mem_append.1 hb with hb | hb
    · exact Clause.name_of_mem_number _ _ c b hb
    · exact Clause.name_of_mem_numberAll _ _ rest b hb

theorem Branch.name_of_mem_numberAll (n : Numbering) (builder : String) (bs : List Branch) :
    ∀ b ∈ Branch.bindingsAll (Branch.numberAll n builder bs).1, b.key.name = b.expr := by
  intro b hb
  match bs with
  | [] => cases hb
  | .mk cond body :: rest =>
    rcases List.mem_append.1 hb with hb | hb
    · exact Clause.name_of_mem_numberAll _ _ body b hb
    · exact Branch.name_of_mem_numberAll _ _ rest b hb

end

/-! ## Compiled templates -/

/-- A compilation succeeds when its stages do. -/
theorem compile_eq_ok_iff {template : String} {scope : Scope} {opts : Options} {c : Compiled} :
    compile template scope opts = .ok c ↔ isBlankString template = false ∧
      ∃ sections, Template.tokenize template scope (some opts.receiver) = .ok sections ∧
        ∃ tree, buildClauses sections template = .ok tree ∧ c = render opts tree := by
  unfold compile
  cases hb : isBlankString template with
  | true => simp
  | false =>
    simp only [Bool.false_eq_true, ↓reduceIte, true_and, bind_eq_ok_iff]
    constructor
    · rintro ⟨sections, ht, tree, hb, h⟩
      exact ⟨sections, ht, tree, hb, (Except.ok.inj h).symm⟩
    · rintro ⟨sections, ht, tree, hb, rfl⟩
      exact ⟨sections, ht, tree, hb, rfl⟩

/-- A template that is given by its letters is compiled from its sections and their clauses. -/
theorem compile_ofList {letters : List Char} {scope : Scope} {opts : Options} {tree : List Clause}
    (sections : List Section) (hblank : Text.isBlankText letters = false)
    (htokens : Template.tokenizeLetters letters scope (some opts.receiver) = .ok sections)
    (htree : buildClauses sections (.ofList letters) = .ok tree) :
    compile (.ofList letters) scope opts = .ok (render opts tree) := by
  refine compile_eq_ok_iff.2 ⟨?_, sections, ?_, tree, htree, rfl⟩
  · rw [isBlankString, String.toList_ofList]
    exact hblank
  · rw [Template.tokenize_ofList]
    exact htokens

theorem filterMap_bound_of_buildClauses {sections : List Section} {source : String}
    {tree : List Clause} (h : buildClauses sections source = .ok tree) :
    sections.filterMap Section.bound? = (Clause.bindingsAll tree).map Binding.expr := by
  have hf : ∀ s : Section, s.isSql = false → s.bound? = none := by
    intro s hs
    cases s <;> simp_all [Section.isSql, Section.bound?]
  have hbare : ∀ s : Section, s.bare.bound? = s.bound? := by
    intro s
    cases s <;> rfl
  rw [filterMap_of_buildClauses hf hbare h, Clause.bindingsAll_eq_flatMap_sqlsAll,
    List.map_flatMap]
  exact List.flatMap_congr fun fs _ => filterMap_bound_section fs

theorem filterMap_quote_of_buildClauses {sections : List Section} {source : String}
    {tree : List Clause} (h : buildClauses sections source = .ok tree) :
    sections.filterMap Section.quote? = (Clause.sqlsAll tree).flatMap quotesOf := by
  have hf : ∀ s : Section, s.isSql = false → s.quote? = none := by
    intro s hs
    cases s <;> simp_all [Section.isSql, Section.quote?]
  have hbare : ∀ s : Section, s.bare.quote? = s.quote? := by
    intro s
    cases s <;> rfl
  rw [filterMap_of_buildClauses hf hbare h]
  exact List.flatMap_congr fun fs _ => filterMap_quote_section fs

/-- The keys of a built tree have the names of what is bound. -/
theorem named_of_buildClauses {template source : String} {scope : Scope}
    {receiver : Option String} {sections : List Section} {tree : List Clause}
    (ht : Template.tokenize template scope receiver = .ok sections)
    (hb : buildClauses sections source = .ok tree) :
    ∀ b ∈ Clause.bindingsAll tree, b.Named := by
  intro b hm
  refine ⟨?_, fun c hc => ?_⟩
  · rw [← numberAll_of_buildClauses hb] at hm
    exact Clause.name_of_mem_numberAll _ _ tree b hm
  · have hs : b.expr ∈ sections.filterMap Section.bound? := by
      rw [filterMap_bound_of_buildClauses hb]
      exact List.mem_map_of_mem hm
    obtain ⟨s, hs, he⟩ := List.mem_filterMap.1 hs
    have hn := Template.nameOnly_of_tokenize ht s hs
    cases s with
    | data ref =>
      rw [← Option.some.inj he] at hc
      exact Template.isBlank_of_isNameChar (hn c hc)
    | _ => cases he

/-- Nothing that a template names is lost, doubled or moved. The values that its sections, its
clause tree and its lines bind are the same, as are the identifiers that they quote, and the lines
bind the values of a SQL clause right before they write its placeholders. -/
theorem compile_grouped {template : String} {scope : Scope} {opts : Options} {c : Compiled}
    (h : compile template scope opts = .ok c) :
    ∃ sections, Template.tokenize template scope (some opts.receiver) = .ok sections ∧
      c.statements = (Statement.codeAll 0 c.block).map Line.text ∧
      sections.filterMap Section.bound? = (Clause.bindingsAll c.clauses).map Binding.expr ∧
      (Statement.codeAll 0 c.block).filterMap Line.bound? =
        (Clause.bindingsAll c.clauses).map Binding.expr ∧
      c.bindCount = (sections.filterMap Section.bound?).length ∧
      sections.filterMap Section.quote? = (Clause.sqlsAll c.clauses).flatMap quotesOf ∧
      (Statement.codeAll 0 c.block).flatMap Line.quotes =
        (Clause.sqlsAll c.clauses).flatMap quotesOf ∧
      Grouped opts (Clause.sqlsAll c.clauses) (Statement.codeAll 0 c.block) := by
  obtain ⟨-, sections, ht, tree, hb, rfl⟩ := compile_eq_ok_iff.1 h
  have hbound := filterMap_bound_of_buildClauses hb
  have hg := grouped_methodStatements opts (named_of_buildClauses ht hb)
  refine ⟨sections, ht, Statement.linesAll_eq_map_text 0 _, hbound, ?_, ?_,
    filterMap_quote_of_buildClauses hb, hg.quotes, hg⟩
  · have hlines := hg.bound
    rw [← Clause.bindingsAll_eq_flatMap_sqlsAll] at hlines
    exact hlines
  · rw [hbound, List.length_map]
    rfl

/-- A loop binds its value once in the source text, whatever style is chosen. -/
theorem compile_grouped_loop :
    ∃ c, compile "a = @a {{for i, v := range xs}} @v {{end}}"
        ⟨[⟨"a", .simple "int", false⟩, ⟨"xs", .slice (.simple "string"), false⟩], "t", .empty⟩
        ⟨.positional, "u"⟩ = .ok c ∧
      (Statement.codeAll 0 c.block).filterMap Line.bound? = ["a", "v"] ∧
      Grouped ⟨.positional, "u"⟩ (Clause.sqlsAll c.clauses) (Statement.codeAll 0 c.block) := by
  have hc : compile "a = @a {{for i, v := range xs}} @v {{end}}"
      ⟨[⟨"a", .simple "int", false⟩, ⟨"xs", .slice (.simple "string"), false⟩], "t", .empty⟩
      ⟨.positional, "u"⟩ = .ok (render ⟨.positional, "u"⟩
        [.sql "generateSQL" [.text "a = ", .bind ⟨"a", ⟨"a", none⟩⟩],
          .loop 0 "generateSQL" ⟨"i", "v", "xs", .slice (.simple "string")⟩ (.declared "i")
            [.sql "generateSQL" [.text " ", .bind ⟨"v", ⟨"v", some ⟨0, ["i"]⟩⟩⟩]]]) :=
    compile_ofList [.literal "a = ", .data ⟨"a", .method, .simple "int"⟩,
      .loop ⟨"i", "v", "xs", .slice (.simple "string")⟩, .literal " ",
      .data ⟨"v", .loop, .simple "string"⟩, .close] rfl (by decide +kernel) rfl
  obtain ⟨_, _, _, _, hbound, _, _, _, hg⟩ := compile_grouped hc
  exact ⟨_, hc, hbound, hg⟩

end QueryGen
