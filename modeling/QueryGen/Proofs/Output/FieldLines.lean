import QueryGen.Output.ModelFile
import QueryGen.Proofs.Go.Comments
import QueryGen.Proofs.Model.Members
import QueryGen.Proofs.Statement.Written
import QueryGen.Proofs.Template.Spelling

/-!
# The lines of a struct

The fields of a model are written as rows of cells. The cells of a column are filled up to one
width, so they begin at one place in all lines. That holds of lines, and a row is one line only if
its cells are.

- `IsFilled`: a text with spaces behind it.
- `exists_width`: a column has a width that all its cells fit in, the last cells of rows left out.
- `FieldLine`: a line with a field, its type and its tag, which begin at given places.
- `DeclaresFields`: a file has one such line for each field between those that open and close the
  struct.
- `declaresFields_iff`: it does exactly if no comment of a column has a line feed.
-/

namespace QueryGen

namespace Output

variable {cell : String} {width : Nat} {widths : List Nat} {row : List String}
  {rows : List (List String)}

/-! ## Rows of cells -/

/-- A text with at least one space behind it. -/
def IsFilled (text cell : List Char) : Prop := ∃ n, cell = text ++ List.replicate (n + 1) ' '

theorem toList_padded (width : Nat) (cell : String) :
    (padded width cell).toList = cell.toList ++ List.replicate (width - cell.length + 1) ' ' := by
  simp [padded, List.replicate_succ']

theorem isFilled_padded (width : Nat) (cell : String) :
    IsFilled cell.toList (padded width cell).toList :=
  ⟨_, toList_padded width cell⟩

theorem length_padded (h : cell.length ≤ width) :
    (padded width cell).toList.length = width + 1 := by
  rw [toList_padded, List.length_append, List.length_replicate, String.length_toList]
  omega

theorem rowText_cons_cons (widths : List Nat) (cell next : String) (rest : List String) :
    rowText widths (cell :: next :: rest) =
      padded (widths.headD 0) cell ++ rowText widths.tail (next :: rest) := by
  cases widths <;> rfl

/-- A line is made of its cells and spaces. -/
theorem mem_rowText {c : Char} (h : c ∈ (rowText widths row).toList) :
    c = ' ' ∨ ∃ cell ∈ row, c ∈ cell.toList := by
  induction row generalizing widths with
  | nil => cases widths <;> cases h
  | cons cell rest ih =>
    cases rest with
    | nil => exact .inr ⟨cell, List.mem_singleton_self cell, by rwa [rowText] at h⟩
    | cons next rest =>
      rw [rowText_cons_cons, String.toList_append, toList_padded, List.mem_append,
        List.mem_append] at h
      rcases h with (h | h) | h
      · exact .inr ⟨cell, List.mem_cons_self, h⟩
      · exact .inl (List.eq_of_mem_replicate h)
      · exact (ih h).imp_right fun ⟨other, hmem, hc⟩ => ⟨other, List.mem_cons_of_mem _ hmem, hc⟩

theorem le_foldl_max {ns : List Nat} {n : Nat} (h : n ∈ ns) : n ≤ ns.foldl max 0 := by
  rw [List.foldl_max]
  exact le_max_of_le_right (List.le_max?_getD_of_mem h)

/-- A column with cells that have another one behind them has a width that all of these fit in. -/
theorem exists_width {c : Nat} (hrow : row ∈ rows) (hc : c + 1 < row.length) :
    ∃ width, (columnWidths rows)[c]? = some width ∧
      ∀ other ∈ rows, c + 1 < other.length → (other.getD c "").length ≤ width := by
  have hcolumns : row.length ≤ (rows.map List.length).foldl max 0 :=
    le_foldl_max (List.mem_map_of_mem hrow)
  have hindex : (List.range ((rows.map List.length).foldl max 0))[c]? = some c :=
    List.getElem?_range (by omega)
  refine ⟨_, by rw [columnWidths, List.getElem?_map, hindex, Option.map_some], ?_⟩
  intro other hother hlen
  refine le_foldl_max (List.mem_map.2 ⟨other, List.mem_filter.2 ⟨hother, ?_⟩, rfl⟩)
  simpa using hlen

/-- Rows of more than two cells have widths for their first two columns. -/
theorem exists_columnWidths (hne : rows ≠ []) (h : ∀ row ∈ rows, 2 < row.length) :
    ∃ first second more, columnWidths rows = first :: second :: more ∧
      ∀ row ∈ rows, (row.getD 0 "").length ≤ first ∧ (row.getD 1 "").length ≤ second := by
  obtain ⟨row, hrow⟩ := List.exists_mem_of_ne_nil rows hne
  obtain ⟨first, hfirst, hfits⟩ := exists_width (c := 0) hrow (by have := h row hrow; omega)
  obtain ⟨second, hsecond, hfits'⟩ := exists_width (c := 1) hrow (h row hrow)
  match hwidths : columnWidths rows with
  | [] => simp [hwidths] at hfirst
  | [_] => simp [hwidths] at hsecond
  | a :: b :: more =>
    obtain rfl : a = first := by simpa [hwidths] using hfirst
    obtain rfl : b = second := by simpa [hwidths] using hsecond
    exact ⟨a, b, more, rfl, fun other hother =>
      ⟨hfits other hother (by have := h other hother; omega), hfits' other hother (h other hother)⟩⟩

/-! ## Lines of fields -/

variable {f : ModelField}

/-- Nothing, or a comment that runs to the end of the line. -/
def IsRemark (cs : List Char) : Prop :=
  cs = [] ∨ ∃ gap text, IsFilled [] gap ∧ cs = gap ++ '/' :: '/' :: text

/-- The tag of a field between its quotes. -/
def quotedTag (f : ModelField) : List Char := '\x60' :: (f.tag.toList ++ ['\x60'])

/-- A line with the name of a field, its type and its tag. The type and the tag begin at the given
places. -/
def FieldLine (typeColumn tagColumn : Nat) (f : ModelField) (line : List Char) : Prop :=
  ∃ name type remark, line = '\t' :: (name ++ (type ++ (quotedTag f ++ remark))) ∧
    IsFilled f.name.toList name ∧ IsFilled f.type.text.toList type ∧ IsRemark remark ∧
    1 + name.length = typeColumn ∧ typeColumn + type.length = tagColumn

theorem trimEnd_append {front : List Char} (h : ∀ c ∈ front.getLast?, Text.isBlank c = false)
    (back : List Char) : Text.trimEnd (front ++ back) = front ++ Text.trimEnd back :=
  rdropWhile_append_of_getLast h

theorem IsRemark.trimEnd {cs : List Char} (h : IsRemark cs) : IsRemark (Text.trimEnd cs) := by
  rcases h with rfl | ⟨gap, text, hgap, rfl⟩
  · exact .inl rfl
  · refine .inr ⟨gap, Text.trimEnd text, hgap, ?_⟩
    have hlast : ∀ c ∈ (gap ++ ['/', '/']).getLast?, Text.isBlank c = false := by
      simp [List.getLast?_append]
      decide
    simpa using trimEnd_append hlast text

theorem fieldRow_eq (f : ModelField) : ∃ comment, fieldRow f =
      f.name :: f.type.text :: ("\x60" ++ f.tag ++ "\x60") :: comment ∧
    (comment = [] ∨ ∃ s ∈ f.comment, comment = ["// " ++ s]) := by
  unfold fieldRow
  split
  · exact ⟨[], rfl, .inl rfl⟩
  · exact ⟨[], rfl, .inl rfl⟩
  · next s _ hs => exact ⟨_, rfl, .inr ⟨s, hs, rfl⟩⟩

/-- Behind the cell of the tag stands a comment, or nothing. -/
theorem exists_remark (widths : List Nat) (tag : String) {comment : List String}
    (h : comment = [] ∨ ∃ s, comment = ["// " ++ s]) :
    ∃ remark, (rowText widths (tag :: comment)).toList = tag.toList ++ remark ∧
      IsRemark remark := by
  rcases h with rfl | ⟨s, rfl⟩
  · exact ⟨[], by rw [rowText, List.append_nil], .inl rfl⟩
  · have htext : ("// " ++ s).toList = '/' :: '/' :: ' ' :: s.toList := by simp
    refine ⟨_, ?_, .inr ⟨List.replicate (widths.headD 0 - tag.length + 1) ' ', ' ' :: s.toList,
      ⟨_, rfl⟩, rfl⟩⟩
    rw [rowText_cons_cons, String.toList_append, toList_padded, List.append_assoc]
    exact congrArg _ (congrArg _ htext)

/-- The cells of a field that fit into their columns, as a line. -/
theorem fieldLine_rowText {first second : Nat} (more : List Nat) (hname : f.name.length ≤ first)
    (htype : f.type.text.length ≤ second) :
    FieldLine (first + 2) (first + second + 3) f
      (Text.trimEnd ('\t' :: (rowText (first :: second :: more) (fieldRow f)).toList)) := by
  obtain ⟨comment, hrow, hcomment⟩ := fieldRow_eq f
  obtain ⟨remark, htext, hremark⟩ := exists_remark more ("\x60" ++ f.tag ++ "\x60")
    (hcomment.imp_right fun ⟨s, _, hs⟩ => ⟨s, hs⟩)
  have htag : ("\x60" ++ f.tag ++ "\x60").toList = quotedTag f := by simp [quotedTag]
  have hline : (rowText (first :: second :: more) (fieldRow f)).toList =
      (padded first f.name).toList ++ ((padded second f.type.text).toList ++
        (quotedTag f ++ remark)) := by
    rw [hrow, rowText_cons_cons, rowText_cons_cons, String.toList_append, String.toList_append,
      ← htag, ← htext]
    rfl
  have hlast : ∀ c ∈ ('\t' :: ((padded first f.name).toList ++
      ((padded second f.type.text).toList ++ quotedTag f))).getLast?, Text.isBlank c = false := by
    simp [quotedTag, List.getLast?_cons, List.getLast?_append]
    decide
  have hfirst := length_padded hname
  have hsecond := length_padded htype
  refine ⟨(padded first f.name).toList, (padded second f.type.text).toList, Text.trimEnd remark, ?_,
    isFilled_padded _ _, isFilled_padded _ _, hremark.trimEnd, by omega, by omega⟩
  have htrim := trimEnd_append hlast remark
  simp only [List.cons_append, List.append_assoc] at htrim
  rw [hline, htrim]

/-- The rows of fields are written with the types in one column and the tags in another. -/
theorem exists_fieldLines {fields : List ModelField} (hne : fields ≠ []) :
    ∃ typeColumn tagColumn, List.Forall₂ (fun f s => FieldLine typeColumn tagColumn f s.toList)
      fields (alignedLines (fields.map fieldRow)) := by
  have hlong : ∀ row ∈ fields.map fieldRow, 2 < row.length := by
    refine List.forall_mem_map.2 fun f _ => ?_
    obtain ⟨comment, hrow, -⟩ := fieldRow_eq f
    simp [hrow]
  obtain ⟨first, second, more, hwidths, hfits⟩ :=
    exists_columnWidths (by simpa using hne) hlong
  refine ⟨first + 2, first + second + 3, ?_⟩
  rw [alignedLines, hwidths, List.map_map, List.forall₂_map_right_iff, List.forall₂_same]
  intro f hf
  have hfit := hfits _ (List.mem_map_of_mem hf)
  obtain ⟨comment, hrow, -⟩ := fieldRow_eq f
  rw [hrow] at hfit
  simpa using fieldLine_rowText more hfit.1 hfit.2

/-! ## Line feeds -/

/-- A row is one line if its cells are. -/
theorem isLine_of_mem_alignedLines (h : ∀ row ∈ rows, ∀ cell ∈ row, '\n' ∉ cell.toList) :
    ∀ s ∈ alignedLines rows, Text.IsLine s.toList := by
  refine List.forall_mem_map.2 fun row hrow => ?_
  rw [String.toList_ofList]
  refine (Go.isDocLine_trimEnd fun hmem => ?_).isLine
  rcases List.mem_cons.1 hmem with hmem | hmem
  · cases hmem
  · rcases mem_rowText hmem with hmem | ⟨cell, hcell, hmem⟩
    · cases hmem
    · exact h row hrow cell hcell hmem

theorem feed_mem_tagComment (s : String) :
    '\n' ∈ (ModelField.tagComment s).toList ↔ '\n' ∈ s.toList := by
  rw [ModelField.tagComment, String.toList_ofList, List.mem_map]
  constructor
  · rintro ⟨c, hc, he⟩
    split at he
    · cases he
    · rwa [← he]
  · exact fun h => ⟨'\n', h, rfl⟩

/-- A setting of a field has a line feed if the column or the comment has one. -/
theorem feed_mem_settings_iff (f : ModelField) : (∃ s ∈ f.settings, '\n' ∈ s.toList) ↔
    '\n' ∈ f.column.toList ∨ ∃ s ∈ f.comment, '\n' ∈ s.toList := by
  have hflags : ¬∃ s ∈ (if f.isPrimaryKey then ["primaryKey"] else []) ++
      (if f.autoIncrement then ["autoIncrement:true"] else []), '\n' ∈ s.toList := by
    split <;> split <;> decide
  have hcolumn : '\n' ∈ ("column:" ++ f.column).toList ↔ '\n' ∈ f.column.toList := by simp
  unfold ModelField.settings
  simp only [List.mem_append, or_and_right, exists_or, not_or] at hflags ⊢
  simp only [hflags.1, hflags.2, or_false, List.mem_singleton, exists_eq_left, hcolumn]
  refine or_congr Iff.rfl ?_
  split
  · next h => simp [h]
  · next h => simp [h]
  · next s _ h => simp [h, feed_mem_tagComment]

/-- The tag of a field has a line feed if the column or the comment has one. -/
theorem feed_mem_tag_iff (f : ModelField) : '\n' ∈ f.tag.toList ↔
    '\n' ∈ f.column.toList ∨ ∃ s ∈ f.comment, '\n' ∈ s.toList := by
  have hcolumnTag : '\n' ∈ f.columnTag.toList ↔ ∃ s ∈ f.settings, '\n' ∈ s.toList := by
    rw [ModelField.columnTag, String.toList_intercalate]
    constructor
    · intro h
      rcases Text.mem_join h with h | ⟨l, hl, h⟩
      · exact absurd h (by decide)
      · obtain ⟨s, hs, rfl⟩ := List.mem_map.1 hl
        exact ⟨s, hs, h⟩
    · rintro ⟨s, hs, h⟩
      exact Text.mem_join_of_mem (List.mem_map_of_mem hs) h
  rw [feed_mem_settings_iff] at hcolumnTag
  have htag : '\n' ∈ f.tag.toList ↔ '\n' ∈ f.columnTag.toList ∨ '\n' ∈ f.column.toList := by
    simp [ModelField.tag]
  rw [htag, hcolumnTag, or_right_comm, or_self]

/-! ## The file -/

/-- The line that opens the struct of a model. -/
def opening (m : Model) : List Char := ("type " ++ m.name ++ " struct \x7b").toList

/-- The lines of the struct: those behind the last one that opens it, up to the first closing
brace. -/
def structLines (m : Model) : List (List Char) :=
  ((Text.lines (modelFile m).toList).rtakeWhile (· ≠ opening m)).takeWhile (· ≠ ['}'])

theorem mem_lines_of_mem_structLines {l : List Char} (h : l ∈ structLines m) :
    l ∈ Text.lines (modelFile m).toList := by
  rw [structLines] at h
  have hbelow := (List.takeWhile_prefix _).subset h
  exact (List.rtakeWhile_suffix _ _).subset hbelow

/-- The struct has one line for each field. The types begin in one column, as do the tags. -/
def DeclaresFields (m : Model) : Prop :=
  ∃ typeColumn tagColumn, List.Forall₂ (FieldLine typeColumn tagColumn) m.fields (structLines m)

/-- A line of a row begins with a tab if it has characters. -/
theorem notMem_alignedLines {c : Char} (hc : c ≠ '\t') (rest : List Char) :
    c :: rest ∉ (alignedLines rows).map String.toList := by
  intro hmem
  obtain ⟨s, hs, he⟩ := List.mem_map.1 hmem
  obtain ⟨row, -, rfl⟩ := List.mem_map.1 hs
  have hpre : c :: rest <+: '\t' :: (rowText (columnWidths rows) row).toList := by
    rw [← he, String.toList_ofList]
    exact List.rdropWhile_prefix Text.isBlank _
  exact hc (List.cons_prefix_cons.1 hpre).1

/-- What stands behind the last element that `p` does not hold of. -/
theorem rtakeWhile_append_cons {α : Type} {p : α → Bool} {x : α} {back : List α} (hx : p x = false)
    (hback : ∀ y ∈ back, p y = true) (front : List α) :
    (front ++ x :: back).rtakeWhile p = back := by
  have htake : (back.reverse ++ x :: front.reverse).takeWhile p = back.reverse := by
    rw [List.takeWhile_append_of_pos (by simpa using hback),
      List.takeWhile_cons_of_neg (by simp [hx]), List.append_nil]
  rw [List.rtakeWhile, List.reverse_append, List.reverse_cons, List.append_assoc,
    List.singleton_append, htake, List.reverse_reverse]

variable {m : Model}

/-- The lines behind the struct of a model. -/
def linesBehind (m : Model) : List String :=
  ["", "// TableName " ++ m.name ++ "'s table name",
    "func (*" ++ m.name ++ ") TableName() string \x7b",
    "\treturn " ++ ("TableName" ++ m.name), "\x7d"]

theorem exists_modelLines (m : Model) : ∃ front, modelLines m =
    front ++ ("type " ++ m.name ++ " struct \x7b") ::
      (alignedLines (m.fields.map fieldRow) ++ "\x7d" :: linesBehind m) := by
  refine ⟨preamble m.package (modelImports m) ++
    (["const " ++ ("TableName" ++ m.name) ++ " = \"" ++ m.table ++ "\"", ""] ++
      modelComment m), ?_⟩
  simp [modelLines, linesBehind]

/-- A character that stands in no line end. -/
def isPlainChar (c : Char) : Bool := c ≠ '\n' && c ≠ '\r'

theorem isLine_of_isPlainChar {cs : List Char} (h : cs.all isPlainChar = true) :
    Text.IsLine cs where
  noFeed hmem := absurd (List.all_eq_true.1 h _ hmem) (by decide)
  noReturn hlast := absurd (List.all_eq_true.1 h _ (List.mem_of_getLast? hlast)) (by decide)

theorem isPlainChar_of_isIdentChar {c : Char} (h : Go.isIdentChar c = true) :
    isPlainChar c = true := by
  have hfeed : c ≠ '\n' := by
    rintro rfl
    exact absurd h (by decide)
  have hreturn : c ≠ '\r' := by
    rintro rfl
    exact absurd h (by decide)
  simp [isPlainChar, hfeed, hreturn]

/-- The lines of a model file from the struct on have no line ends of their own, its fields left
out. -/
theorem isLine_linesBehind (hname : m.name.toList.all isPlainChar = true) :
    ∀ s ∈ ("type " ++ m.name ++ " struct \x7b") :: "\x7d" :: linesBehind m,
      Text.IsLine s.toList := by
  intro s hs
  refine isLine_of_isPlainChar ?_
  simp only [linesBehind, List.mem_cons, List.not_mem_nil, or_false] at hs
  rcases hs with rfl | rfl | rfl | rfl | rfl | rfl | rfl <;> simp [hname] <;> decide

/-- When the rows of the fields are lines, they are the lines of the struct. -/
theorem structLines_eq (hname : m.name.toList.all isPlainChar = true)
    (h : ∀ s ∈ alignedLines (m.fields.map fieldRow), Text.IsLine s.toList) :
    structLines m = (alignedLines (m.fields.map fieldRow)).map String.toList := by
  obtain ⟨front, hfile⟩ := exists_modelLines m
  have haround := isLine_linesBehind hname
  have hopening : ∀ l ∈ (alignedLines (m.fields.map fieldRow)).map String.toList ++
      "\x7d".toList :: (linesBehind m).map String.toList, decide (l ≠ opening m) = true := by
    have hopen : opening m = 't' :: ("ype " ++ m.name ++ " struct \x7b").toList := by
      simp [opening]
    -- No line behind it begins with its first letter.
    intro l hl
    rw [decide_eq_true_iff]
    rintro rfl
    rw [hopen, List.mem_append] at hl
    rcases hl with hl | hl
    · exact notMem_alignedLines (by decide) _ hl
    · simp [linesBehind] at hl
  have hbehind : Text.lines (unlines (("type " ++ m.name ++ " struct \x7b") ::
      (alignedLines (m.fields.map fieldRow) ++ "\x7d" :: linesBehind m))).toList =
      opening m :: ((alignedLines (m.fields.map fieldRow)).map String.toList ++
        "\x7d".toList :: (linesBehind m).map String.toList) := by
    rw [List.forall_mem_cons] at haround
    rw [Text.lines_unlines, List.map_cons, List.map_append, List.map_cons, opening]
    exact List.forall_mem_cons.2 ⟨haround.1, List.forall_mem_append.2 ⟨h, haround.2⟩⟩
  rw [structLines, modelFile, hfile, Text.lines_unlines_append, hbehind,
    rtakeWhile_append_cons (by simp) hopening, List.takeWhile_append_of_pos,
    List.takeWhile_cons_of_neg (by simp), List.append_nil]
  intro l hl
  rw [decide_eq_true_iff]
  rintro rfl
  exact notMem_alignedLines (by decide) _ hl

theorem exists_mem_of_forall₂ {α β : Type} {R : α → β → Prop} {xs : List α} {ys : List β}
    (h : List.Forall₂ R xs ys) {x : α} (hx : x ∈ xs) : ∃ y ∈ ys, R x y := by
  induction h with
  | nil => cases hx
  | cons hr _ ih =>
    rcases List.mem_cons.1 hx with rfl | hx
    · exact ⟨_, List.mem_cons_self, hr⟩
    · obtain ⟨y, hy, hr⟩ := ih hx
      exact ⟨y, List.mem_cons_of_mem _ hy, hr⟩

/-- The comment of a field that has a line has no line feed: it stands in the tag. -/
theorem DeclaresFields.notMem_comment {f : ModelField} {s : String} (h : DeclaresFields m)
    (hf : f ∈ m.fields) (hs : s ∈ f.comment) : '\n' ∉ s.toList := by
  obtain ⟨typeColumn, tagColumn, hlines⟩ := h
  obtain ⟨line, hline, name, type, remark, hcells, -⟩ := exists_mem_of_forall₂ hlines hf
  intro hmem
  have htag := (feed_mem_tag_iff f).2 (.inr ⟨s, hs, hmem⟩)
  refine Text.notMem_of_mem_lines (mem_lines_of_mem_structLines hline) ?_
  simp [hcells, quotedTag, htag]

/-- The struct of a model has a line for each field if no cell has a line feed. -/
theorem declaresFields_of_cells (hname : Go.isIdentifier m.name = true) (hne : m.fields ≠ [])
    (h : ∀ f ∈ m.fields, ∀ cell ∈ fieldRow f, '\n' ∉ cell.toList) : DeclaresFields m := by
  obtain ⟨typeColumn, tagColumn, hfields⟩ := exists_fieldLines hne
  refine ⟨typeColumn, tagColumn, ?_⟩
  have hplain : m.name.toList.all isPlainChar = true := List.all_eq_true.2 fun c hc =>
    isPlainChar_of_isIdentChar (Template.isIdentChar_of_isIdentifierText hname c hc)
  rw [structLines_eq hplain (isLine_of_mem_alignedLines (List.forall_mem_map.2 h)),
    List.forall₂_map_right_iff]
  exact hfields

end Output

/-! ## Models of tables -/

theorem feed_notMem_goType (t : DataType) (nullable : Bool) :
    '\n' ∉ (t.goType nullable).text.toList := by
  have hvalue : '\n' ∉ t.valueType.text.toList := by
    cases t <;> simp [DataType.valueType, GoType.text]
  unfold DataType.goType
  split
  · simpa [GoType.text] using hvalue
  · exact hvalue

namespace Model

open Output (DeclaresFields)

variable {t : Table} {package : String} {m : Model}

/-- The cells of a column have no line feed if its comment has none. -/
theorem feed_notMem_fieldRow {c : Column} (hn : ∀ d ∈ c.name.toList, d.isAlphanum = true ∨ d = '_')
    (hc : ∀ s ∈ c.comment, '\n' ∉ s.toList) :
    ∀ cell ∈ Output.fieldRow (ModelField.ofColumn c), '\n' ∉ cell.toList := by
  have hname : '\n' ∉ (ModelField.ofColumn c).name.toList := fun hmem =>
    absurd (Naming.isAlphanum_goName hn _ hmem) (by decide)
  have hcolumn : '\n' ∉ (ModelField.ofColumn c).column.toList := fun hmem =>
    (hn _ hmem).elim (absurd · (by decide)) (absurd · (by decide))
  have htag : '\n' ∉ (ModelField.ofColumn c).tag.toList := by
    rw [Output.feed_mem_tag_iff, not_or]
    exact ⟨hcolumn, fun ⟨s, hs, hmem⟩ => hc s hs hmem⟩
  obtain ⟨comment, hrow, hcomment⟩ := Output.fieldRow_eq (ModelField.ofColumn c)
  rw [hrow, List.forall_mem_cons, List.forall_mem_cons, List.forall_mem_cons]
  refine ⟨hname, feed_notMem_goType c.type c.nullable, by simp [htag], ?_⟩
  rcases hcomment with rfl | ⟨s, hs, rfl⟩
  · exact List.forall_mem_nil _
  · exact List.forall_mem_singleton.2 (by simp [hc s hs])

/-- The struct of a model that is made from a table has one line for each field, the types in one
column and the tags in another, exactly if no comment of a column has a line feed. -/
theorem declaresFields_iff (h : ofTable t package = .ok m)
    (hn : ∀ c ∈ t.columns, ∀ d ∈ c.name.toList, d.isAlphanum = true ∨ d = '_') :
    DeclaresFields m ↔ ∀ c ∈ t.columns, ∀ s ∈ c.comment, '\n' ∉ s.toList := by
  obtain ⟨hname, hne⟩ := of_checked h
  obtain rfl := name_of_checked h
  constructor
  · exact fun hm c hc s hs => hm.notMem_comment (List.mem_map_of_mem hc) hs
  · intro hcomments
    refine Output.declaresFields_of_cells (Go.isIdentifier_of_isGoIdentifier hname) hne ?_
    exact List.forall_mem_map.2 fun c hc => feed_notMem_fieldRow (hn c hc) (hcomments c hc)

end Model

namespace Notes

/-- A column with a comment. -/
def note (comment : String) : Column where
  name := "_note"
  type := .text
  nullable := true
  comment := comment

def table (comment : String) : Table where
  name := "users"
  columns := [{ name := "id", type := .bigInt }, note comment]

/-- The model of the table. -/
def model (comment : String) : Model where
  name := "User"
  table := "users"
  package := "model"
  fields := (table comment).columns.map ModelField.ofColumn

theorem ofTable_table (comment : String) :
    Model.ofTable (table comment) "model" = .ok (model comment) := by
  have hname : Naming.structName (table comment).name = "User" := by
    change Naming.structName "users" = "User"
    decide +kernel
  have hid : Go.isGoIdentifier "User" = true := by decide +kernel
  rw [Model.ofTable, hname, Model.checked, hid]
  rfl

theorem declaresFields_note :
    Model.ofTable (table "shown to the user") "model" = .ok (model "shown to the user") ∧
    (∀ c ∈ (table "shown to the user").columns,
      ∀ d ∈ c.name.toList, d.isAlphanum = true ∨ d = '_') ∧
    Output.DeclaresFields (model "shown to the user") := by
  have hcolumns : ∀ c ∈ (table "shown to the user").columns,
      ∀ d ∈ c.name.toList, d.isAlphanum = true ∨ d = '_' := by
    simp [table, note]
  refine ⟨ofTable_table _, hcolumns, (Model.declaresFields_iff (ofTable_table _) hcolumns).2 ?_⟩
  simp [table, note]

/-- A comment of two lines takes its field apart. -/
theorem not_declaresFields_lines :
    Model.ofTable (table "first line\nsecond line") "model" =
      .ok (model "first line\nsecond line") ∧
    ¬Output.DeclaresFields (model "first line\nsecond line") := by
  have hnote : ModelField.ofColumn (note "first line\nsecond line") ∈
      (model "first line\nsecond line").fields := List.mem_map_of_mem (by simp [table])
  exact ⟨ofTable_table _, fun h => h.notMem_comment hnote rfl (by decide)⟩

end Notes

end QueryGen
