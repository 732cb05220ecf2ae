import QueryGen.Proofs.Execution.Names
import QueryGen.Proofs.Statement.Blocks
import QueryGen.Proofs.Statement.Neighbours

/-!
# Blocks mirror clauses

The blocks that are read from the lines of a compiled template are those of its clause tree.

- `Shape`: a clause tree without its SQL: chains of branches, loops, and blocks with a builder.
- `shapes?`: blocks as shapes. The line that opens a block says whether it is a branch or a loop. A
  line that declares a builder begins a joined block, and the line that joins the builder ends it;
  both stand in the same block.
- `Clause.shapes`: the shapes of a clause.
- `Clause.WellNamed`: a clause whose names do not look like other lines. Building gives no others
  (`wellNamed_of_numberAll`).
- `compile_shapes`: the lines of a compiled template are nested, and their shapes are those of its
  tree.
-/

namespace QueryGen

open Template (Options Scope)

/-! ## Shapes -/

mutual

/-- What is left of a clause tree without its SQL. -/
inductive Shape where
  | branch (cond : String) (body : List Shape) (alternatives : List ShapeAlternative)
  /-- A loop with the clause behind `for`. -/
  | loop (clause : String) (body : List Shape)
  | join (kind : JoinKind) (builder target : String) (body : List Shape)

/-- An `else`, or an `else if` when there is a condition. -/
inductive ShapeAlternative where
  | mk (cond : Option String) (body : List Shape)

end

/-- What stands in a text between two others. -/
def between? (front back text : String) : Option String := do
  let rest ← front.toList.isPrefixOf? text.toList
  let inner ← back.toList.isSuffixOf? rest
  return .ofList inner

/-- The builder of a block that a line declares. The builder of the whole text belongs to none. -/
def declared? (text : String) : Option String :=
  (between? "var " " strings.Builder" text).filter (· ≠ Reserved.sqlBuilder)

/-- How a line joins a builder, and into which other one. -/
def joined? (builder text : String) : Option (JoinKind × String) :=
  [JoinKind.filter, .assign].findSome? fun kind =>
    (between? (kind.helper ++ "(&") (", &" ++ builder ++ ")") text).map (kind, ·)

/-- The guard of a line that closes one branch and opens the next. -/
def guard? (head : String) : Option (Option String) :=
  if head = alternativeHead none then some none
  else (between? "\x7d else if " " \x7b" head).map some

/-- What has been read of blocks that stand side by side. -/
structure ShapeReading where
  /-- The builders of open joined blocks, each with what was read before it, the latest first. -/
  joins : List (String × List Shape) := []
  /-- The shapes in the innermost one, the latest first. -/
  reversed : List Shape := []

namespace ShapeReading

/-- Reads a line. Most lines have no shape. -/
def line (r : ShapeReading) (text : String) : ShapeReading :=
  match declared? text, r.joins with
  | some builder, _ => ⟨(builder, r.reversed) :: r.joins, []⟩
  | none, [] => r
  | none, (builder, before) :: others =>
    match joined? builder text with
    | some (kind, target) => ⟨others, .join kind builder target r.reversed.reverse :: before⟩
    | none => r

/-- The reading with further shapes. -/
def extend (r : ShapeReading) (shapes : List Shape) : ShapeReading :=
  { r with reversed := shapes.reverse ++ r.reversed }

/-- The shapes that were read, if every joined block has ended. -/
def finish (r : ShapeReading) : Option (List Shape) :=
  if r.joins.isEmpty then some r.reversed.reverse else none

end ShapeReading

mutual

/-- Reads a block. -/
def readShape (r : ShapeReading) : Block → Option ShapeReading
  | .line text => some (r.line text)
  | .chain arms => do return r.extend [← chainShape? arms]

/-- Reads blocks that stand side by side. -/
def readShapes (r : ShapeReading) : List Block → Option ShapeReading
  | [] => some r
  | b :: rest => do readShapes (← readShape r b) rest

/-- The shape of a chain of blocks: branches or a loop. -/
def chainShape? : List Arm → Option Shape
  | [] => none
  | .mk head body :: rest => do
    let shapes ← (← readShapes {} body).finish
    match between? "if " " \x7b" head with
    | some cond => return .branch cond shapes (← alternatives? rest)
    | none => if rest.isEmpty then return .loop (← between? "for " " \x7b" head) shapes else none

/-- The alternatives in a chain of blocks. -/
def alternatives? : List Arm → Option (List ShapeAlternative)
  | [] => some []
  | .mk head body :: rest => do
    let cond ← guard? head
    let shapes ← (← readShapes {} body).finish
    return .mk cond shapes :: (← alternatives? rest)

end

/-- The shapes of blocks. -/
def shapes? (blocks : List Block) : Option (List Shape) := do (← readShapes {} blocks).finish

/-- The variable in the place of the index of a loop. -/
def LoopIndex.printed (numbered : Bool) (range : ForRange) : LoopIndex → String
  | synthetic name => if numbered then name else range.index
  | _ => range.index

/-- The clause of a loop behind `for`. -/
def loopClause (index value range : String) : String :=
  if index = "_" ∧ value = "_" then "range " ++ range
  else index ++ ", " ++ value ++ " := range " ++ range

mutual

/-- The shapes of a clause. -/
def Clause.shapes (opts : Options) : Clause → List Shape
  | .sql _ _ => []
  | .branch _ cond body otherwise =>
    [.branch cond (Clause.shapesAll opts body) (Branch.shapes opts otherwise)]
  | .join kind builder target body => [.join kind builder target (Clause.shapesAll opts body)]
  | .loop _ _ range index body =>
    [.loop (loopClause (index.printed (isNumbered opts body) range) range.value range.range)
      (Clause.shapesAll opts body)]

/-- The shapes of clauses. -/
def Clause.shapesAll (opts : Options) : List Clause → List Shape
  | [] => []
  | c :: rest => c.shapes opts ++ Clause.shapesAll opts rest

/-- The shapes of branches. -/
def Branch.shapes (opts : Options) : List Branch → List ShapeAlternative
  | [] => []
  | .mk cond body :: rest => .mk cond (Clause.shapesAll opts body) :: Branch.shapes opts rest

end

/-! ## Texts of lines -/

theorem between?_append (front inner back : String) :
    between? front back (front ++ inner ++ back) = some inner := by
  have hfront : front.toList.isPrefixOf? (front ++ inner ++ back).toList =
      some (inner ++ back).toList := by
    rw [List.isPrefixOf?_eq_some_iff_append_eq]
    simp
  have hback : back.toList.isSuffixOf? (inner ++ back).toList = some inner.toList := by
    rw [List.isSuffixOf?_eq_some_iff_append_eq]
    simp
  rw [between?, hfront, Option.bind_eq_bind, Option.bind_some, hback]
  simp

theorem between?_of_isPrefixOf? {front back text : String}
    (h : front.toList.isPrefixOf? text.toList = none) : between? front back text = none := by
  rw [between?, h]
  rfl

theorem between?_eq_none {front back text : String} {c : Char} (hf : front.toList.head? = some c)
    (ht : text.toList.head? ≠ some c) : between? front back text = none := by
  refine between?_of_isPrefixOf? ?_
  rw [← Option.not_isSome_iff_eq_none, List.isSome_isPrefixOf?_eq_isPrefixOf,
    List.isPrefixOf_iff_prefix]
  rintro ⟨rest, hrest⟩
  rw [← hrest, List.head?_append, hf] at ht
  exact ht rfl

/-- A name or a text that begins no line of a block. -/
def Leads (text : String) : Prop := ∃ c ∈ text.toList.head?, c ∉ ['\t', '}', 'v', 'J']

theorem Leads.append {name : String} (h : Leads name) (more : String) : Leads (name ++ more) := by
  obtain ⟨c, hc, hnot⟩ := h
  exact ⟨c, by simp [List.head?_append, Option.mem_def.1 hc], hnot⟩

theorem Leads.ne {text : String} (h : Leads text) {c : Char} (hc : c ∈ ['\t', '}', 'v', 'J']) :
    text.toList.head? ≠ some c := by
  obtain ⟨d, hd, hnot⟩ := h
  intro he
  obtain rfl := Option.some.inj (hd.symm.trans he)
  exact hnot hc

theorem Leads.isPlain {text : String} (h : Leads text) (ho : text.toList.getLast? ≠ some '{') :
    IsPlain text :=
  ⟨h.ne (by simp), h.ne (by simp), ho⟩

theorem Leads.declared?_eq {text : String} (h : Leads text) : declared? text = none := by
  have hb : between? "var " " strings.Builder" text = none :=
    between?_eq_none rfl (h.ne (c := 'v') (by simp))
  rw [declared?, hb]
  rfl

theorem joined?_eq_none {text : String} (h : text.toList.head? ≠ some 'J') (builder : String) :
    joined? builder text = none := by
  have hb : ∀ kind : JoinKind,
      between? (kind.helper ++ "(&") (", &" ++ builder ++ ")") text = none := fun kind =>
    between?_eq_none (by cases kind <;> simp [JoinKind.helper]) h
  simp [joined?, hb]

/-- The line that declares the builder of a block is found. -/
theorem declared?_declareBuilder {builder : String} (h : builder ≠ Reserved.sqlBuilder) :
    declared? ("var " ++ builder ++ " strings.Builder") = some builder := by
  rw [declared?, between?_append]
  simp [h]

/-- The line that joins a builder is found. -/
theorem joined?_join (kind : JoinKind) (target builder : String) :
    joined? builder (kind.helper ++ "(&" ++ target ++ ", &" ++ builder ++ ")") =
      some (kind, target) := by
  have htext : kind.helper ++ "(&" ++ target ++ ", &" ++ builder ++ ")" =
      (kind.helper ++ "(&") ++ target ++ (", &" ++ builder ++ ")") := by
    simp [String.append_assoc]
  rw [htext, joined?]
  cases kind with
  | filter => rw [List.findSome?_cons, between?_append]; rfl
  | assign =>
    have hnone : between? (JoinKind.filter.helper ++ "(&") (", &" ++ builder ++ ")")
        ((JoinKind.assign.helper ++ "(&") ++ target ++ (", &" ++ builder ++ ")")) = none :=
      between?_of_isPrefixOf? (by simp [JoinKind.helper, List.isPrefixOf?])
    rw [List.findSome?_cons, hnone, Option.map_none, List.findSome?_cons, between?_append]
    rfl

theorem loopHead_eq (index value range : String) :
    loopHead index value range = "for " ++ loopClause index value range ++ " \x7b" := by
  unfold loopHead loopClause
  split <;> simp [← String.toList_inj]

theorem guard?_alternativeHead (cond : Option String) :
    guard? (alternativeHead cond) = some cond := by
  unfold guard?
  cases cond with
  | none => rfl
  | some cond =>
    have hne : alternativeHead (some cond) ≠ alternativeHead none := by
      simp [alternativeHead, ← String.toList_inj]
    rw [if_neg hne, alternativeHead, between?_append]
    rfl

/-! ## Names in clauses -/

/-- No expression of a binding ends with an opening brace. -/
def Binding.Braceless (b : Binding) : Prop := b.expr.toList.getLast? ≠ some '{'

mutual

/-- The names in a clause do not look like the lines of blocks. -/
def Clause.WellNamed : Clause → Prop
  | .sql builder fragments => Leads builder ∧ ∀ b ∈ bindingsOf fragments, b.Braceless
  | .branch _ _ body otherwise => Clause.AllWellNamed body ∧ Branch.AllWellNamed otherwise
  | .join _ builder _ body => builder ≠ Reserved.sqlBuilder ∧ Clause.AllWellNamed body
  | .loop _ _ _ index body =>
    (∀ name, index = .counter name → Leads name) ∧ Clause.AllWellNamed body

def Clause.AllWellNamed : List Clause → Prop
  | [] => True
  | c :: rest => c.WellNamed ∧ Clause.AllWellNamed rest

def Branch.AllWellNamed : List Branch → Prop
  | [] => True
  | .mk _ body :: rest => Clause.AllWellNamed body ∧ Branch.AllWellNamed rest

end

/-- A statement of one line that begins and ends no block. -/
def Statement.IsLeaf (s : Statement) : Prop :=
  ∃ text, declared? text = none ∧ text.toList.head? ≠ some 'J' ∧ s.blocks = [.line text] ∧ s.Tidy

theorem Statement.allTidy_of_isLeaf {ss : List Statement} (h : ∀ s ∈ ss, s.IsLeaf) :
    Statement.AllTidy ss := by
  induction ss with
  | nil => trivial
  | cons s rest ih =>
    obtain ⟨hs, hrest⟩ := List.forall_mem_cons.1 h
    obtain ⟨text, -, -, -, ht⟩ := hs
    exact ⟨ht, ih hrest⟩

/-- Any other line is passed over. -/
theorem ShapeReading.line_eq {text : String} (hd : declared? text = none)
    (hj : text.toList.head? ≠ some 'J') (r : ShapeReading) : r.line text = r := by
  unfold ShapeReading.line
  split
  · next h => rw [hd] at h; cases h
  · rfl
  · rw [joined?_eq_none hj]

/-- A line that declares the builder of a block begins it. -/
theorem ShapeReading.line_declare {builder : String} (h : builder ≠ Reserved.sqlBuilder)
    (r : ShapeReading) :
    r.line ("var " ++ builder ++ " strings.Builder") = ⟨(builder, r.reversed) :: r.joins, []⟩ := by
  unfold ShapeReading.line
  rw [declared?_declareBuilder h]

/-- The line that joins the builder ends the block. -/
theorem ShapeReading.line_join (kind : JoinKind) (target builder : String)
    (joins : List (String × List Shape)) (before reversed : List Shape) :
    (⟨(builder, before) :: joins, reversed⟩ : ShapeReading).line
        (kind.helper ++ "(&" ++ target ++ ", &" ++ builder ++ ")") =
      ⟨joins, .join kind builder target reversed.reverse :: before⟩ := by
  have hnone : declared? (kind.helper ++ "(&" ++ target ++ ", &" ++ builder ++ ")") = none := by
    have hb : between? "var " " strings.Builder"
        (kind.helper ++ "(&" ++ target ++ ", &" ++ builder ++ ")") = none :=
      between?_eq_none (c := 'v') rfl (by cases kind <;> simp [JoinKind.helper])
    rw [declared?, hb]
    rfl
  unfold ShapeReading.line
  simp only [hnone, joined?_join]

theorem readShapes_append (r : ShapeReading) (a b : List Block) :
    readShapes r (a ++ b) = (readShapes r a).bind (readShapes · b) := by
  induction a generalizing r with
  | nil => rfl
  | cons first rest ih =>
    simp only [List.cons_append, readShapes, Option.bind_eq_bind, Option.bind_assoc, ih]

/-- Lines that begin and end no block have no shape. -/
theorem readShapes_of_isLeaf {ss : List Statement} (h : ∀ s ∈ ss, s.IsLeaf) (r : ShapeReading) :
    readShapes r (Statement.blocksAll ss) = some r := by
  induction ss with
  | nil => rfl
  | cons s others ih =>
    obtain ⟨hs, hothers⟩ := List.forall_mem_cons.1 h
    obtain ⟨text, hdeclared, hjoined, hblocks, -⟩ := hs
    rw [Statement.blocksAll, hblocks, List.singleton_append, readShapes, readShape,
      r.line_eq hdeclared hjoined]
    exact ih hothers

theorem isLeaf_of_isPlain {s : Statement} {text : String} (hd : declared? text = none)
    (hj : text.toList.head? ≠ some 'J') (hp : IsPlain text) (hl : s.lines 0 = [text])
    (hb : s.blocks = (s.lines 0).map .line) (ht : s.Tidy = ∀ text ∈ s.lines 0, IsPlain text) :
    s.IsLeaf := by
  refine ⟨text, hd, hj, by rw [hb, hl]; rfl, ?_⟩
  rw [ht, hl]
  simpa using hp

theorem isLeaf_of_lines {s : Statement} {text : String} (hlead : Leads text)
    (hlast : text.toList.getLast? ≠ some '{') (hl : s.lines 0 = [text])
    (hb : s.blocks = (s.lines 0).map .line) (ht : s.Tidy = ∀ text ∈ s.lines 0, IsPlain text) :
    s.IsLeaf :=
  isLeaf_of_isPlain hlead.declared?_eq (hlead.ne (by simp)) (hlead.isPlain hlast) hl hb ht

theorem isLeaf_startCounter {name : String} (h : Leads name) :
    (Statement.startCounter name).IsLeaf :=
  isLeaf_of_lines (h.append " := 0") (by simp) (by simp [Statement.lines, indent]) rfl rfl

theorem isLeaf_stepCounter {name : String} (h : Leads name) :
    (Statement.stepCounter name).IsLeaf :=
  isLeaf_of_lines (h.append "++") (by simp) (by simp [Statement.lines, indent]) rfl rfl

theorem isLeaf_binding (style : Template.BindStyle) {b : Binding} (h : b.Braceless) :
    (b.statement style).IsLeaf := by
  have hlead : Leads Reserved.bindings := ⟨'p', rfl, by decide⟩
  cases style with
  | named =>
    refine isLeaf_of_lines ((((hlead.append _).append _).append _).append _) ?_ rfl rfl rfl
    rw [String.toList_append, List.getLast?_append]
    cases he : b.expr.toList.getLast? with
    | none =>
      have hlast := getLast?_append_text (Reserved.bindings ++ "[" ++ b.key.key.expr)
        "] = " rfl
      rw [hlast]
      decide
    | some c => exact fun hc => h (by rw [he]; exact hc)
  | positional =>
    refine isLeaf_of_lines (((((hlead.append _).append _).append _).append _).append _) ?_
      rfl rfl rfl
    rw [getLast?_append_text _ ")" rfl]
    decide

theorem isLeaf_sqlStatements {opts : Options} {builder : String} {fragments : List Fragment}
    (hb : Leads builder) (hf : ∀ b ∈ bindingsOf fragments, b.Braceless) :
    ∀ s ∈ sqlStatements opts builder fragments, s.IsLeaf := by
  unfold sqlStatements
  split
  · simp
  · rw [List.forall_mem_append]
    constructor
    · rw [List.forall_mem_map]
      exact fun b hmem => isLeaf_binding opts.bindStyle (hf b hmem)
    · rw [List.forall_mem_singleton]
      refine isLeaf_of_lines (((hb.append _).append _).append _) ?_ rfl rfl rfl
      rw [getLast?_append_text _ ")" rfl]
      decide

/-! ## Statements of clauses -/

/-- What holds of the statements of a loop from what holds of its body. -/
theorem allTidy_loopStatements {numbered : Bool} {range : ForRange} {index : LoopIndex}
    {body : List Statement} (hi : ∀ name, index = .counter name → Leads name)
    (hb : Statement.AllTidy body) :
    Statement.AllTidy (loopStatements numbered range index body) := by
  unfold loopStatements
  split
  · next name =>
    have hname := hi name rfl
    have hstart := isLeaf_startCounter hname
    have hstep : ∀ s ∈ [Statement.stepCounter name], s.IsLeaf := by
      simpa using isLeaf_stepCounter hname
    obtain ⟨-, -, -, -, htidy⟩ := hstart
    exact ⟨htidy, Statement.allTidy_append hb (Statement.allTidy_of_isLeaf hstep), trivial⟩
  · exact ⟨hb, trivial⟩
  · exact ⟨hb, trivial⟩

theorem isPlain_declare (builder : String) : IsPlain ("var " ++ builder ++ " strings.Builder") :=
  ⟨by simp [Untabbed], by simp, by
    rw [getLast?_append_text _ " strings.Builder" rfl]
    decide⟩

theorem isPlain_join (kind : JoinKind) (target builder : String) :
    IsPlain (kind.helper ++ "(&" ++ target ++ ", &" ++ builder ++ ")") := by
  have hlast := getLast?_append_text (kind.helper ++ "(&" ++ target ++ ", &" ++ builder)
    ")" rfl
  refine ⟨?_, ?_, by rw [hlast]; decide⟩ <;> cases kind <;> simp [Untabbed, JoinKind.helper]

mutual

theorem Clause.allTidy_statements (opts : Options) {c : Clause} (h : c.WellNamed) :
    Statement.AllTidy (c.statements opts) := by
  match c with
  | .sql builder fragments =>
    exact Statement.allTidy_of_isLeaf (isLeaf_sqlStatements h.1 h.2)
  | .branch _ cond body otherwise =>
    exact ⟨⟨Clause.allTidy_statementsAll opts h.1, Branch.allTidy_alternatives opts h.2⟩, trivial⟩
  | .join kind builder target body =>
    have hdeclare : (Statement.declareBuilder builder).Tidy := by
      simpa [Statement.Tidy, Statement.lines, indent] using isPlain_declare builder
    have hjoin : (Statement.join kind target builder).Tidy := by
      simpa [Statement.Tidy, Statement.lines, indent] using isPlain_join kind target builder
    exact ⟨hdeclare,
      Statement.allTidy_append (Clause.allTidy_statementsAll opts h.2) ⟨hjoin, trivial⟩⟩
  | .loop _ _ range index body =>
    exact allTidy_loopStatements h.1 (Clause.allTidy_statementsAll opts h.2)

/-- No line of well-named clauses looks like a brace but for those of their blocks. -/
theorem Clause.allTidy_statementsAll (opts : Options) {cs : List Clause}
    (h : Clause.AllWellNamed cs) : Statement.AllTidy (Clause.statementsAll opts cs) := by
  match cs with
  | [] => trivial
  | c :: rest =>
    exact Statement.allTidy_append (Clause.allTidy_statements opts h.1)
      (Clause.allTidy_statementsAll opts h.2)

theorem Branch.allTidy_alternatives (opts : Options) {bs : List Branch}
    (h : Branch.AllWellNamed bs) : Alternative.AllTidy (Branch.alternatives opts bs) := by
  match bs with
  | [] => trivial
  | .mk cond body :: rest =>
    exact ⟨Clause.allTidy_statementsAll opts h.1, Branch.allTidy_alternatives opts h.2⟩

end

/-! ## Shapes of statements -/

/-- Blocks have the given shapes, whatever was read before them. -/
def HasShapes (blocks : List Block) (shapes : List Shape) : Prop :=
  ∀ r : ShapeReading, readShapes r blocks = some (r.extend shapes)

namespace HasShapes

variable {blocks others : List Block} {shapes more : List Shape} {arms : List Arm}

theorem nil : HasShapes [] [] := fun _ => rfl

theorem append (h : HasShapes blocks shapes) (h' : HasShapes others more) :
    HasShapes (blocks ++ others) (shapes ++ more) := by
  intro r
  rw [readShapes_append, h, Option.bind_some, h']
  simp [ShapeReading.extend]

theorem of_isLeaf (ss : List Statement) (h : ∀ s ∈ ss, s.IsLeaf) :
    HasShapes (Statement.blocksAll ss) [] := readShapes_of_isLeaf h

theorem chain {shape : Shape} (h : chainShape? arms = some shape) :
    HasShapes [.chain arms] [shape] := by
  intro r
  simp only [readShapes, readShape, h]
  rfl

theorem finish (h : HasShapes blocks shapes) :
    ∃ r, readShapes {} blocks = some r ∧ r.finish = some shapes :=
  ⟨_, h {}, by simp [ShapeReading.extend, ShapeReading.finish]⟩

theorem branch (cond : String) {alternatives : List ShapeAlternative}
    (h : HasShapes blocks shapes) (ha : alternatives? arms = some alternatives) :
    HasShapes [.chain (.mk ("if " ++ cond ++ " \x7b") blocks :: arms)]
      [.branch cond shapes alternatives] := by
  obtain ⟨r, hr, hfinish⟩ := h.finish
  refine chain ?_
  simp only [chainShape?, hr, hfinish, between?_append, ha, Option.bind_eq_bind, Option.bind_some]
  rfl

theorem loop (index value range : String) (h : HasShapes blocks shapes) :
    HasShapes [.chain [.mk (loopHead index value range) blocks]]
      [.loop (loopClause index value range) shapes] := by
  obtain ⟨r, hr, hfinish⟩ := h.finish
  have hif : between? "if " " \x7b" (loopHead index value range) = none :=
    between?_eq_none (c := 'i') rfl (by simp [loopHead_eq])
  have hfor : between? "for " " \x7b" (loopHead index value range) =
      some (loopClause index value range) := by rw [loopHead_eq, between?_append]
  refine chain ?_
  simp only [chainShape?, hr, hfinish, hif, hfor, Option.bind_eq_bind, Option.bind_some]
  rfl

theorem join (kind : JoinKind) {builder : String} (hb : builder ≠ Reserved.sqlBuilder)
    (target : String) (h : HasShapes blocks shapes) :
    HasShapes (.line ("var " ++ builder ++ " strings.Builder") :: (blocks ++
        [.line (kind.helper ++ "(&" ++ target ++ ", &" ++ builder ++ ")")]))
      [.join kind builder target shapes] := by
  intro r
  simp only [readShapes, readShape, r.line_declare hb, readShapes_append, Option.bind_eq_bind,
    Option.bind_some, h _, ShapeReading.extend, List.append_nil, ShapeReading.line_join]
  simp

end HasShapes

/-- A loop has the shape of its body behind its head. A line that counts its turns has none. -/
theorem hasShapes_loopStatements {numbered : Bool} {range : ForRange} {index : LoopIndex}
    {body : List Statement} {shapes : List Shape}
    (hi : ∀ name, index = .counter name → Leads name)
    (h : HasShapes (Statement.blocksAll body) shapes) :
    HasShapes (Statement.blocksAll (loopStatements numbered range index body))
      [.loop (loopClause (index.printed numbered range) range.value range.range) shapes] := by
  have hplain : ∀ name : String, HasShapes
      (Statement.blocksAll [.loop name range.value range.range body])
      [.loop (loopClause name range.value range.range) shapes] := fun name => h.loop _ _ _
  unfold loopStatements
  split
  · next name =>
    have hname := hi name rfl
    have hstart := HasShapes.of_isLeaf [.startCounter name]
      (by simpa using isLeaf_startCounter hname)
    have hstep := HasShapes.of_isLeaf [.stepCounter name]
      (by simpa using isLeaf_stepCounter hname)
    have hbody := h.append hstep
    rw [← Statement.blocksAll_append, List.append_nil] at hbody
    exact hstart.append (hbody.loop range.index range.value range.range)
  · exact hplain _
  · next hnot =>
    have hprinted : index.printed numbered range = range.index := by
      cases index with
      | declared name | counter name => rfl
      | synthetic name =>
        cases numbered with
        | false => rfl
        | true => exact absurd rfl (hnot name rfl)
    rw [hprinted]
    exact hplain _

mutual

theorem Clause.hasShapes_statements (opts : Options) {c : Clause} (h : c.WellNamed) :
    HasShapes (Statement.blocksAll (c.statements opts)) (c.shapes opts) := by
  match c with
  | .sql builder fragments => exact .of_isLeaf _ (isLeaf_sqlStatements h.1 h.2)
  | .branch _ cond body otherwise =>
    exact .branch cond (Clause.hasShapes_statementsAll opts h.1)
      (Branch.alternatives?_alternatives opts h.2)
  | .join kind builder target body =>
    have hjoin := HasShapes.join kind h.1 target (Clause.hasShapes_statementsAll opts h.2)
    have hdeclare : (Statement.declareBuilder builder).blocks =
        [.line ("var " ++ builder ++ " strings.Builder")] := by
      simp [Statement.blocks, Statement.lines, indent]
    have hend : Statement.blocksAll [.join kind target builder] =
        [.line (kind.helper ++ "(&" ++ target ++ ", &" ++ builder ++ ")")] := by
      simp [Statement.blocksAll, Statement.blocks, Statement.lines, indent]
    rw [Clause.statements, Statement.blocksAll, Statement.blocksAll_append, hdeclare, hend]
    exact hjoin
  | .loop _ _ range index body =>
    exact hasShapes_loopStatements h.1 (Clause.hasShapes_statementsAll opts h.2)

/-- The blocks of clauses have their shapes. -/
theorem Clause.hasShapes_statementsAll (opts : Options) {cs : List Clause}
    (h : Clause.AllWellNamed cs) :
    HasShapes (Statement.blocksAll (Clause.statementsAll opts cs)) (Clause.shapesAll opts cs) := by
  match cs with
  | [] => exact .nil
  | c :: others =>
    rw [Clause.statementsAll, Statement.blocksAll_append, Clause.shapesAll]
    exact (Clause.hasShapes_statements opts h.1).append (Clause.hasShapes_statementsAll opts h.2)

theorem Branch.alternatives?_alternatives (opts : Options) {bs : List Branch}
    (h : Branch.AllWellNamed bs) :
    alternatives? (Alternative.arms (Branch.alternatives opts bs)) =
      some (Branch.shapes opts bs) := by
  match bs with
  | [] => rfl
  | .mk cond body :: rest =>
    obtain ⟨r, hr, hfinish⟩ := (Clause.hasShapes_statementsAll opts h.1).finish
    have hothers := Branch.alternatives?_alternatives opts h.2
    simp only [Branch.alternatives, Branch.alternative, Alternative.arms, alternatives?,
      guard?_alternativeHead, hr, hfinish, hothers, Option.bind_eq_bind, Option.bind_some]
    rfl

end

/-! ## Names of built trees -/

theorem leads_builder (n : Numbering) (kind : JoinKind) : Leads (n.nextJoin kind).1 := by
  cases kind with
  | filter =>
    have hlead : Leads Reserved.wherePrefix := ⟨'w', rfl, by decide⟩
    exact hlead.append _
  | assign =>
    have hlead : Leads Reserved.setPrefix := ⟨'s', rfl, by decide⟩
    exact hlead.append _

theorem leads_counter {n : Numbering} {range : ForRange} {name : String}
    (h : (n.loopIndex range).1 = .counter name) : Leads name := by
  have hname : name = Reserved.loopIndex n.indices := by
    unfold Numbering.loopIndex at h
    split at h
    · exact (LoopIndex.counter.inj h).symm
    · split at h <;> cases h
  have hlead : Leads Reserved.loopPrefix := ⟨'f', rfl, by decide⟩
  rw [hname]
  exact hlead.append _

mutual

theorem Clause.wellNamed_number (n : Numbering) {builder : String} (hb : Leads builder)
    (c : Clause) (h : ∀ b ∈ (c.number n builder).1.bindings, b.Braceless) :
    (c.number n builder).1.WellNamed := by
  match c with
  | .sql _ fragments => exact ⟨hb, h⟩
  | .branch _ cond body otherwise =>
    simp only [Clause.number, Clause.bindings, List.forall_mem_append] at h
    exact ⟨Clause.allWellNamed_numberAll n hb body h.1,
      Branch.allWellNamed_numberAll _ hb otherwise h.2⟩
  | .join kind _ _ body =>
    exact ⟨builder_ne_sqlBuilder n kind,
      Clause.allWellNamed_numberAll _ (leads_builder n kind) body h⟩
  | .loop _ _ range _ body =>
    exact ⟨fun name hi => leads_counter hi, Clause.allWellNamed_numberAll _ hb body h⟩

/-- The names that building gives to clauses do not look like the lines of blocks. -/
theorem Clause.allWellNamed_numberAll (n : Numbering) {builder : String} (hb : Leads builder)
    (cs : List Clause)
    (h : ∀ b ∈ Clause.bindingsAll (Clause.numberAll n builder cs).1, b.Braceless) :
    Clause.AllWellNamed (Clause.numberAll n builder cs).1 := by
  match cs with
  | [] => trivial
  | c :: rest =>
    simp only [Clause.numberAll, Clause.bindingsAll, List.forall_mem_append] at h
    exact ⟨Clause.wellNamed_number n hb c h.1, Clause.allWellNamed_numberAll _ hb rest h.2⟩

theorem Branch.allWellNamed_numberAll (n : Numbering) {builder : String} (hb : Leads builder)
    (bs : List Branch)
    (h : ∀ b ∈ Branch.bindingsAll (Branch.numberAll n builder bs).1, b.Braceless) :
    Branch.AllWellNamed (Branch.numberAll n builder bs).1 := by
  match bs with
  | [] => trivial
  | .mk cond body :: rest =>
    simp only [Branch.numberAll, Branch.bindingsAll, Branch.bindings, List.forall_mem_append] at h
    exact ⟨Clause.allWellNamed_numberAll n hb body h.1, Branch.allWellNamed_numberAll _ hb rest h.2⟩

end

/-- The names in a built tree do not look like the lines of blocks. -/
theorem allWellNamed_of_buildClauses {template source : String} {scope : Scope}
    {receiver : Option String} {sections : List Section} {tree : List Clause}
    (ht : Template.tokenize template scope receiver = .ok sections)
    (hb : buildClauses sections source = .ok tree) : Clause.AllWellNamed tree := by
  have hbraceless : ∀ b ∈ Clause.bindingsAll tree, b.Braceless := by
    intro b hmem hlast
    obtain ⟨ref, hs, hpath⟩ := data_mem_of_bindings hb hmem
    have hname := Template.nameOnly_of_tokenize ht _ hs '{'
      (hpath ▸ List.mem_of_getLast? hlast)
    exact absurd hname (by decide)
  have hlead : Leads Reserved.sqlBuilder := ⟨'g', rfl, by decide⟩
  rw [← numberAll_of_buildClauses hb] at hbraceless ⊢
  exact Clause.allWellNamed_numberAll {} hlead tree hbraceless

/-! ## Compiled templates -/

/-- The declarations in front of the statements of a template. -/
def declarations (opts : Options) (clauses : List Clause) : List Statement :=
  (if clauses.any Clause.hasBindings then [declareBindings opts.bindStyle] else []) ++
    [.declareBuilder Reserved.sqlBuilder]

theorem methodStatements_eq (opts : Options) (clauses : List Clause) :
    methodStatements opts clauses =
      declarations opts clauses ++ Clause.statementsAll opts clauses := by
  simp [methodStatements, declarations]

theorem isLeaf_declarations (opts : Options) (clauses : List Clause) :
    ∀ s ∈ declarations opts clauses, s.IsLeaf := by
  have hmap : Statement.declareMap.IsLeaf := by
    have hlead : Leads Reserved.bindings := ⟨'p', rfl, by decide⟩
    exact isLeaf_of_lines (hlead.append _) (by decide) rfl rfl rfl
  have hlist : Statement.declareList.IsLeaf := by
    have hdeclared : declared? ("var " ++ Reserved.bindings ++ " []interface\x7b\x7d") = none := rfl
    exact isLeaf_of_isPlain hdeclared (by decide) ⟨by decide, by decide, by decide⟩ rfl rfl rfl
  have hbuilder : (Statement.declareBuilder Reserved.sqlBuilder).IsLeaf := by
    have hdeclared : declared? ("var " ++ Reserved.sqlBuilder ++ " strings.Builder") = none := rfl
    exact isLeaf_of_isPlain hdeclared (by decide) (isPlain_declare _) rfl rfl rfl
  unfold declarations
  rw [List.forall_mem_append, List.forall_mem_singleton]
  refine ⟨?_, hbuilder⟩
  split
  · rw [List.forall_mem_singleton]
    cases opts.bindStyle with
    | named => exact hmap
    | positional => exact hlist
  · simp

/-- The lines of a compiled template are nested: the braces in front of every line make its depth,
which is the number of its tabs, and every block is closed. The blocks have the shapes of the
clause tree. -/
theorem compile_shapes {template : String} {scope : Scope} {opts : Options} {c : Compiled}
    (h : compile template scope opts = .ok c) :
    depths? 0 c.statements = some (c.statements.map tabs, 0) ∧
      (readBlocks? c.statements).bind shapes? = some (Clause.shapesAll opts c.clauses) := by
  obtain ⟨-, sections, ht, tree, hb, rfl⟩ := compile_eq_ok_iff.1 h
  have hnamed := allWellNamed_of_buildClauses ht hb
  have hdeclarations := isLeaf_declarations opts tree
  have htidy : Statement.AllTidy (methodStatements opts tree) := by
    rw [methodStatements_eq]
    exact Statement.allTidy_append (Statement.allTidy_of_isLeaf hdeclarations)
      (Clause.allTidy_statementsAll opts hnamed)
  have hlaid := Statement.laidAll 0 htidy
  have hshapes : HasShapes (Statement.blocksAll (methodStatements opts tree))
      (Clause.shapesAll opts tree) := by
    rw [methodStatements_eq, Statement.blocksAll_append]
    exact (HasShapes.of_isLeaf _ hdeclarations).append
      (Clause.hasShapes_statementsAll opts hnamed)
  obtain ⟨r, hr, hfinish⟩ := hshapes.finish
  refine ⟨hlaid.depths, ?_⟩
  have hread : readBlocks? (render opts tree).statements =
      some (Statement.blocksAll (methodStatements opts tree)) := hlaid.readBlocks?_eq
  rw [hread, Option.bind_some, shapes?, hr]
  exact hfinish

/-- A joined block around branches, and a loop that numbers its turns. -/
theorem compile_shapes_nested :
    ∃ c, compile "{{where}}{{if ok}}a{{else}}b{{end}}{{end}}{{for _, v := range xs}}@v{{end}}"
        ⟨[⟨"xs", .slice (.simple "string"), false⟩], "t", .empty⟩ {} = .ok c ∧
      depths? 0 c.statements = some (c.statements.map tabs, 0) ∧
      (readBlocks? c.statements).bind shapes? =
        some [.join .filter "whereSQL0" "generateSQL" [.branch "ok" [] [.mk none []]],
          .loop "forIndex0, v := range xs" []] := by
  have hc : compile "{{where}}{{if ok}}a{{else}}b{{end}}{{end}}{{for _, v := range xs}}@v{{end}}"
      ⟨[⟨"xs", .slice (.simple "string"), false⟩], "t", .empty⟩ {} = .ok (render {}
        [.join .filter "whereSQL0" "generateSQL"
            [.branch "whereSQL0" "ok" [.sql "whereSQL0" [.text "a"]]
              [.mk none [.sql "whereSQL0" [.text "b"]]]],
          .loop 0 "generateSQL" ⟨"_", "v", "xs", .slice (.simple "string")⟩
            (.synthetic "forIndex0")
            [.sql "generateSQL" [.bind ⟨"v", ⟨"v", some ⟨0, ["forIndex0"]⟩⟩⟩]]]) :=
    compile_ofList [.join .filter, .branch "ok", .literal "a", .otherwise none,
      .literal "b", .close, .close, .loop ⟨"_", "v", "xs", .slice (.simple "string")⟩,
      .data ⟨"v", .loop, .simple "string"⟩, .close] rfl (by decide +kernel) rfl
  exact ⟨_, hc, compile_shapes hc⟩

end QueryGen
