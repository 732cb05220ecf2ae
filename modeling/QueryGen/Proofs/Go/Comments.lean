import QueryGen.Go.Source.Doc
import QueryGen.Proofs.Text.Lines

/-!
# Comments that are written again

The text of the comment above a method is written above the generated method, line by line. Reading
what is written gives the text again, because no line of a comment has a blank at its end.

- `IsComment`: line comments and block comments.
- `IsDocLine`: a line as comments hold it. `isDocLine_of_mem_stripMarkers`: all are such lines.
- `docText`: the text of comments. `exists_docText_eq`: it is made of such lines, none of them blank
  at the ends.
- `docText_commentLines`: what is written are line comments, and they have the same text; so has a
  method below them.
-/

namespace QueryGen.Go

/-- A line comment, which ends with its line. -/
def IsLineComment (c : List Char) : Prop := ∃ line, c = '/' :: '/' :: line ∧ '\n' ∉ line

/-- A block comment, with its markers at both ends. -/
def IsBlockComment (c : List Char) : Prop := ∃ inner, c = '/' :: '*' :: (inner ++ ['*', '/'])

def IsComment (c : List Char) : Prop := IsLineComment c ∨ IsBlockComment c

/-- The text of comments. -/
def docText (comments : List (List Char)) : List Char := joinDoc (comments.flatMap stripMarkers)

/-- A line without a line feed and with no blank at its end. -/
structure IsDocLine (l : List Char) : Prop where
  noFeed : '\n' ∉ l
  last : ∀ c ∈ l.getLast?, Text.isBlank c = false

variable {c l : List Char} {ls comments : List (List Char)}

/-! ## Lines of comments -/

namespace IsDocLine

theorem isLine (h : IsDocLine l) : Text.IsLine l where
  noFeed := h.noFeed
  noReturn hr := absurd (h.last '\r' hr) (by decide)

/-- A blank line is empty. -/
theorem eq_nil (h : IsDocLine l) (hb : Text.isBlankText l = true) : l = [] := by
  rcases List.eq_nil_or_concat l with rfl | ⟨front, d, rfl⟩
  · rfl
  · rw [List.concat_eq_append] at h hb
    have hd : Text.isBlank d = true := List.all_eq_true.1 hb d (by simp)
    rw [h.last d (by simp)] at hd
    cases hd

theorem trimEnd_eq (h : IsDocLine l) : Text.trimEnd l = l := by
  have hkept : Text.trimEnd (l ++ []) = l := Text.dropEndWhile_append (List.forall_mem_nil _) h.last
  rwa [List.append_nil] at hkept

theorem of_suffix {rest : List Char} (h : IsDocLine l) (hs : rest <:+ l) : IsDocLine rest := by
  refine ⟨fun hmem => h.noFeed (hs.subset hmem), fun d hd => h.last d ?_⟩
  obtain ⟨front, rfl⟩ := hs
  rwa [List.getLast?_append_of_ne_nil front (List.ne_nil_of_mem (List.mem_of_getLast? hd))]

end IsDocLine

theorem isDocLine_trimEnd (h : '\n' ∉ l) : IsDocLine (Text.trimEnd l) := by
  have hkept := List.rdropWhile_prefix Text.isBlank l
  refine ⟨fun hmem => h (hkept.subset hmem), fun d hd => ?_⟩
  have hne : Text.trimEnd l ≠ [] := List.ne_nil_of_mem (List.mem_of_getLast? hd)
  have hlast := List.rdropWhile_last_not Text.isBlank l hne
  rw [List.getLast?_eq_some_getLast hne] at hd
  obtain rfl := Option.some.inj hd
  exact Bool.eq_false_iff.2 hlast

theorem isDocLine_trim (h : '\n' ∉ l) : IsDocLine (Text.trim l) :=
  isDocLine_trimEnd fun hmem => h ((List.dropWhile_suffix _).subset hmem)

theorem isDocLine_stripStar (h : '\n' ∉ l) : IsDocLine (stripStar l) := by
  have htrim := isDocLine_trim h
  unfold stripStar
  split
  · next rest hr =>
    rw [hr] at htrim
    exact htrim.of_suffix ((List.suffix_cons ' ' rest).trans (List.suffix_cons '*' _))
  · next rest _ hr =>
    rw [hr] at htrim
    exact htrim.of_suffix (List.suffix_cons '*' rest)
  · exact htrim

/-- The lines of a comment have no blank at their ends, whichever way it is written. -/
theorem isDocLine_of_mem_stripMarkers (h : IsComment c) (hl : l ∈ stripMarkers c) :
    IsDocLine l := by
  rcases h with ⟨line, rfl, hline⟩ | ⟨inner, rfl⟩
  · unfold stripMarkers at hl
    simp only at hl
    split at hl
    · next rest =>
      obtain rfl := List.mem_singleton.1 hl
      exact isDocLine_trimEnd fun hmem => hline (List.mem_cons_of_mem _ hmem)
    · obtain rfl := List.mem_singleton.1 hl
      exact isDocLine_trimEnd hline
  · obtain ⟨part, hpart, rfl⟩ := List.mem_map.1 ((List.dropWhile_suffix _).subset hl)
    exact isDocLine_stripStar (Text.notMem_of_mem_lines hpart)

/-! ## Written lines -/

theorem isDocLine_commentLine (h : IsDocLine l) : IsDocLine (Output.commentLine l).toList := by
  unfold Output.commentLine
  split
  · refine ⟨by decide, fun d hd => ?_⟩
    obtain rfl : d = '/' := by simpa [eq_comm] using hd
    decide
  · next hb =>
    have hne : l ≠ [] := by
      rintro rfl
      exact hb rfl
    have hwritten : ("// " ++ String.ofList l).toList = ['/', '/', ' '] ++ l := by simp
    rw [hwritten]
    refine ⟨by simp [h.noFeed], fun d hd => h.last d ?_⟩
    rwa [List.getLast?_append_of_ne_nil _ hne] at hd

theorem isLineComment_commentLine (h : IsDocLine l) :
    IsLineComment (Output.commentLine l).toList := by
  unfold Output.commentLine
  split
  · exact ⟨[], by decide, by simp⟩
  · exact ⟨' ' :: l, by simp, by simp [h.noFeed]⟩

/-- A line that is written is read back. -/
theorem stripMarkers_commentLine (h : IsDocLine l) :
    stripMarkers (Output.commentLine l).toList = [l] := by
  unfold Output.commentLine
  split
  · next hb =>
    rw [h.eq_nil hb]
    decide
  · have hread : stripMarkers ('/' :: '/' :: ' ' :: l) = [Text.trimEnd l] := rfl
    simpa [h.trimEnd_eq] using hread

/-! ## Texts of comments -/

/-- The text of comments is made of their lines from the first to the last that is not blank. -/
theorem exists_docText_eq (h : ∀ c ∈ comments, IsComment c) :
    ∃ ls, docText comments = Text.join ['\n'] ls ∧ (∀ l ∈ ls, IsDocLine l) ∧
      (∀ l ∈ ls.head?, Text.isBlankText l = false) ∧
      ∀ l ∈ ls.getLast?, Text.isBlankText l = false := by
  generalize hread : comments.flatMap stripMarkers = read
  have hlines : ∀ l ∈ read, IsDocLine l := fun l hl => by
    rw [← hread] at hl
    obtain ⟨c, hc, hl⟩ := List.mem_flatMap.1 hl
    exact isDocLine_of_mem_stripMarkers (h c hc) hl
  have hkept := List.rdropWhile_prefix Text.isBlankText (read.dropWhile Text.isBlankText)
  refine ⟨(read.dropWhile Text.isBlankText).rdropWhile Text.isBlankText, ?_, fun l hl => ?_,
    fun l hl => ?_, fun l hl => ?_⟩
  · rw [docText, hread]
    rfl
  · exact hlines l ((List.dropWhile_suffix _).subset (hkept.subset hl))
  · obtain ⟨rest, hrest⟩ := hkept
    have hhead : (read.dropWhile Text.isBlankText).head? = some l := by
      rw [← hrest, List.head?_append, Option.mem_def.1 hl]
      rfl
    have hnot := List.head?_dropWhile_not Text.isBlankText read
    rwa [hhead] at hnot
  · have hne := List.ne_nil_of_mem (List.mem_of_getLast? hl)
    rw [List.getLast?_eq_some_getLast hne] at hl
    obtain rfl := Option.some.inj hl
    exact Bool.eq_false_iff.2 (List.rdropWhile_last_not _ _ hne)

/-- Lines that are not blank at the ends are all kept. -/
theorem joinDoc_eq (hhead : ∀ l ∈ ls.head?, Text.isBlankText l = false)
    (hlast : ∀ l ∈ ls.getLast?, Text.isBlankText l = false) : joinDoc ls = Text.join ['\n'] ls := by
  have hfront : ls.dropWhile Text.isBlankText = ls := by
    cases ls with
    | nil => rfl
    | cons l rest => exact List.dropWhile_cons_of_neg (by simp [hhead l rfl])
  have hback : ls.rdropWhile Text.isBlankText = ls :=
    List.rdropWhile_eq_self_iff.2 fun hne =>
      by simp [hlast _ (List.getLast?_eq_some_getLast hne)]
  rw [joinDoc, hfront]
  exact congrArg (Text.join ['\n']) hback

/-! ## Comments that are written -/

/-- The lines of what is written for a text. -/
def writtenComments (text : List Char) : List (List Char) :=
  Text.lines (Output.unlines (Output.commentLines (.ofList text))).toList

theorem writtenComments_join (h : ∀ l ∈ ls, IsDocLine l) (hlast : ls.getLast? ≠ some []) :
    writtenComments (Text.join ['\n'] ls) = ls.map fun l => (Output.commentLine l).toList := by
  have hread : Text.lines (Text.join ['\n'] ls) = ls :=
    Text.lines_join (fun l hl => (h l hl).isLine) hlast
  rw [writtenComments, Output.commentLines, String.toList_ofList, hread, Text.lines_unlines,
    List.map_map]
  · rfl
  · exact List.forall_mem_map.2 fun l hl => (isDocLine_commentLine (h l hl)).isLine

theorem flatMap_stripMarkers_commentLine (h : ∀ l ∈ ls, IsDocLine l) :
    (ls.map fun l => (Output.commentLine l).toList).flatMap stripMarkers = ls := by
  rw [List.flatMap_map]
  exact (List.flatMap_congr fun l hl => stripMarkers_commentLine (h l hl)).trans
    (List.flatMap_singleton' ls)

/-! ## Methods below comments -/

/-- Comments on rows of their own, one below the other. -/
def commentRows (row : Nat) : List (List Char) → List BodyItem
  | [] => []
  | c :: rest => .comment ⟨c, row, row⟩ :: commentRows (row + 1) rest

/-- Comments that go on with a block, or begin one, on the rows up to a method. -/
theorem attachDocs_commentRows {p : PendingDoc} {row : Nat} (hprevious : ∀ r ∈ p.previous, r < row)
    (hend : ∀ r ∈ p.endRow, r + 1 = row) (hfresh : p.endRow = none → p.lines = [])
    (comments : List (List Char)) (m : Method) (endRow : Nat) (rest : List BodyItem) :
    attachDocs p (commentRows row comments ++ .method m (row + comments.length) endRow :: rest) =
      { m with doc := .ofList (joinDoc (p.lines ++ comments.flatMap stripMarkers)) } ::
        attachDocs (.after endRow) rest := by
  induction comments generalizing p row with
  | nil =>
    have hdoc : p.docFor row = .ofList (joinDoc p.lines) := by
      unfold PendingDoc.docFor
      cases hrow : p.endRow with
      | none =>
        rw [hfresh hrow]
        rfl
      | some r => simp [hend r hrow]
    simp [commentRows, attachDocs, hdoc]
  | cons c others ih =>
    have hadd : p.add ⟨c, row, row⟩ =
        { p with lines := p.lines ++ stripMarkers c, endRow := some row } := by
      have hrow : p.previous ≠ some row := fun h => absurd (hprevious row h) (lt_irrefl row)
      have hgap : p.endRow.any (· + 1 < row) = false := by
        cases hr : p.endRow with
        | none => rfl
        | some r => simp [hend r hr]
      simp [PendingDoc.add, hrow, hgap]
    have hbelow : attachDocs (p.add ⟨c, row, row⟩) (commentRows (row + 1) others ++
        .method m (row + 1 + others.length) endRow :: rest) = _ := ih
      (fun r hr => Nat.lt_succ_of_lt (hprevious r (by simpa [hadd] using hr)))
      (fun r hr => by simpa [hadd, eq_comm] using hr) (fun h => by simp [hadd] at h)
    rw [Nat.add_right_comm] at hbelow
    rw [commentRows, List.cons_append, attachDocs, List.length_cons, ← Nat.add_assoc, hbelow, hadd]
    simp

/-- What is written for the text of comments are line comments. They have the same text, and give
it to the method below them. -/
theorem docText_writtenComments (h : ∀ c ∈ comments, IsComment c) :
    (∀ c ∈ writtenComments (docText comments), IsLineComment c) ∧
    docText (writtenComments (docText comments)) = docText comments ∧
    ∀ (previous : Option Nat) (row : Nat), (∀ r ∈ previous, r < row) →
      ∀ (m : Method) (endRow : Nat) (rest : List BodyItem),
        attachDocs { previous } (commentRows row (writtenComments (docText comments)) ++
            .method m (row + (writtenComments (docText comments)).length) endRow :: rest) =
          { m with doc := .ofList (docText comments) } :: attachDocs (.after endRow) rest := by
  obtain ⟨ls, htext, hlines, hhead, hlast⟩ := exists_docText_eq h
  have hne : ls.getLast? ≠ some [] := fun hl => absurd (hlast [] hl) (by decide)
  have hwritten : writtenComments (docText comments) =
      ls.map fun l => (Output.commentLine l).toList := by
    rw [htext, writtenComments_join hlines hne]
  have hread : joinDoc ((writtenComments (docText comments)).flatMap stripMarkers) =
      docText comments := by
    rw [hwritten, flatMap_stripMarkers_commentLine hlines, joinDoc_eq hhead hlast, htext]
  refine ⟨?_, hread, fun previous row hp m endRow rest => ?_⟩
  · rw [hwritten]
    exact List.forall_mem_map.2 fun l hl => isLineComment_commentLine (hlines l hl)
  · have hdoc := attachDocs_commentRows (p := { previous }) hp (by simp) (fun _ => rfl)
      (writtenComments (docText comments)) m endRow rest
    rwa [List.nil_append, hread] at hdoc

namespace Lookup

/-- A description, and a template in a block comment with line ends of both kinds. -/
def block : List (List Char) :=
  ["//Find looks a user up.  ".toList, "//".toList,
    ('/' :: '*' :: ("\n * select *\r\n *\n *   from users\t\n ".toList ++ ['*', '/'])),
    "//\twhere id = @id".toList]

def text : String := "Find looks a user up.\n\nselect *\n\n  from users\n\n\twhere id = @id"

theorem isComment : ∀ c ∈ block, IsComment c := by
  simp only [block, List.forall_mem_cons]
  exact ⟨.inl ⟨_, rfl, by decide⟩, .inl ⟨_, rfl, by decide⟩, .inr ⟨_, rfl⟩,
    .inl ⟨_, rfl, by decide⟩, List.forall_mem_nil _⟩

def method : Method := { name := "Find", doc := "", params := [], results := [] }

/-- The lines that are written, and what they are read as. -/
theorem docText_lookup :
    (∀ c ∈ block, IsComment c) ∧ docText block = text.toList ∧
    writtenComments (docText block) =
      ["// Find looks a user up.", "//", "// select *", "//", "//   from users", "//",
        "// \twhere id = @id"].map String.toList ∧
    (∀ c ∈ writtenComments (docText block), IsLineComment c) ∧
    docText (writtenComments (docText block)) = docText block ∧
    attachDocs {} (commentRows 3 (writtenComments (docText block)) ++ [.method method 10 10]) =
      [{ method with doc := text }] := by
  have htext : docText block = text.toList := by decide +kernel
  have hlines : writtenComments (docText block) =
      ["// Find looks a user up.", "//", "// select *", "//", "//   from users", "//",
        "// \twhere id = @id"].map String.toList := by decide +kernel
  have hlength : (writtenComments (docText block)).length = 7 := congrArg List.length hlines
  obtain ⟨hwritten, hread, hdoc⟩ := docText_writtenComments isComment
  have hmethod := hdoc none 3 (by simp) method 10 []
  rw [hlength] at hmethod
  exact ⟨isComment, htext, hlines, hwritten, hread,
    hmethod.trans (by rw [htext, String.ofList_toList]; rfl)⟩

end Lookup

end QueryGen.Go
