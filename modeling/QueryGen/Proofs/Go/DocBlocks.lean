import Mathlib.Data.List.Chain
import Mathlib.Data.List.DropRight
import QueryGen.Go.Source.File
import QueryGen.Proofs.Go.Comments

/-!
# The comment block above a method

A method has the text of the comments right above it. They are a run of comments without a gap
that ends on the row above, and no comment that stands behind an element on its row is part of it.

- `InOrder`: items of a body in the order of the document.
- `IsBlock`, `DocRun`, `MaximalDocRun`: comments right before a place that belong together, those
  that end above a row, and the longest of them.
- `DocsAbove`: methods whose comments are the longest runs above them.
- `PendingDoc.step`, `Pending`, `exists_pending`: what one item does to the comments that are
  pending, and which comments are pending behind items.
- `docsAbove_attachDocs`: methods have the comments above them. A comment behind the opening brace
  of a body is part of them as well, which makes a difference if it adds text.
-/

namespace QueryGen.Go

namespace BodyItem

/-- The row where an item begins. Of an element without a name the last row is all there is. -/
def firstRow : BodyItem → Nat
  | comment c => c.row
  | method _ row _ => row
  | other endRow => endRow

def lastRow : BodyItem → Nat
  | comment c => c.endRow
  | method _ _ endRow | other endRow => endRow

/-- The row where an element ends. A comment is no element. -/
def elementEnd? : BodyItem → Option Nat
  | comment _ => none
  | method _ _ endRow | other endRow => some endRow

end BodyItem

/-- The rows where the elements among items end. -/
def elementEnds (items : List BodyItem) : List Nat := items.filterMap BodyItem.elementEnd?

/-- Items in the order of the document: none begins on a row above the end of one before it. -/
structure InOrder (items : List BodyItem) : Prop where
  rows : ∀ item ∈ items, item.firstRow ≤ item.lastRow
  pairs : items.Pairwise fun x y => x.lastRow ≤ y.firstRow

/-! ## Runs of comments -/

/-- Comments right before a place that belong together: each begins at the latest on the row below
the one before it, and none on a barred row. -/
structure IsBlock (barred : List Nat) (before : List BodyItem) (run : List Comment) : Prop where
  suffix : run.map .comment <:+ before
  chained : run.IsChain fun c d => d.row ≤ c.endRow + 1
  unbarred : ∀ c ∈ run, c.row ∉ barred

/-- Comments that belong together and end on the row above. -/
structure DocRun (barred : List Nat) (before : List BodyItem) (row : Nat) (run : List Comment) :
    Prop extends IsBlock barred before run where
  above : ∃ c ∈ run.getLast?, c.endRow + 1 = row

/-- The longest of those runs. Every other one is an end of it. -/
structure MaximalDocRun (barred : List Nat) (before : List BodyItem) (row : Nat)
    (run : List Comment) : Prop extends DocRun barred before row run where
  longest : ∀ other, DocRun barred before row other → other <:+ run

/-- The text of comments without their markers. -/
def runText (run : List Comment) : String := .ofList (docText (run.map Comment.text))

/-- The text above a row: that of the longest run, or nothing if there is none. -/
def DocAbove (barred : List Nat) (before : List BodyItem) (row : Nat) (doc : String) : Prop :=
  (∃ run, MaximalDocRun barred before row run ∧ doc = runText run) ∨
  ((¬ ∃ run, DocRun barred before row run) ∧ doc = "")

/-- The methods of a body, each with the text above it. Barred are the rows of `braces` and those
where an element before ends. -/
structure DocsAbove (braces : List Nat) (items : List BodyItem) (methods : List Method) : Prop where
  length_eq : methods.length = (items.filterMap BodyItem.method?).length
  doc : ∀ before m row endRow after, items = before ++ .method m row endRow :: after →
    ∃ doc, methods[(before.filterMap BodyItem.method?).length]? = some { m with doc } ∧
      DocAbove (braces ++ elementEnds before) before row doc

variable {barred : List Nat} {before items : List BodyItem} {row brace : Nat}
  {run other front rest : List Comment} {doc doc' : String}

namespace InOrder

theorem of_append {after : List BodyItem} (h : InOrder (before ++ after)) : InOrder before where
  rows item hitem := h.rows item (List.mem_append_left after hitem)
  pairs := (List.pairwise_append.1 h.pairs).1

theorem lastRow_le {item x : BodyItem} (h : InOrder (before ++ [item])) (hx : x ∈ before) :
    x.lastRow ≤ item.firstRow :=
  (List.pairwise_append.1 h.pairs).2.2 x hx item (List.mem_singleton_self item)

end InOrder

theorem mem_elementEnds_iff {e : Nat} :
    e ∈ elementEnds items ↔ ∃ x ∈ items, x.elementEnd? = some e := List.mem_filterMap

theorem elementEnds_append (before after : List BodyItem) :
    elementEnds (before ++ after) = elementEnds before ++ elementEnds after :=
  List.filterMap_append

theorem BodyItem.lastRow_eq {x : BodyItem} {e : Nat} (h : x.elementEnd? = some e) :
    x.lastRow = e := by
  cases x with
  | comment c => cases h
  | method m row endRow => exact Option.some.inj h
  | other endRow => exact Option.some.inj h

/-! ## Texts above a row -/

theorem DocRun.ne_nil (h : DocRun barred before row run) : run ≠ [] := by
  rintro rfl
  obtain ⟨c, hc, -⟩ := h.above
  cases hc

/-- There is only one longest run. -/
theorem MaximalDocRun.unique (h : MaximalDocRun barred before row run)
    (h' : MaximalDocRun barred before row other) : run = other :=
  (h'.longest run h.toDocRun).eq_of_length_le (h.longest other h'.toDocRun).length_le

theorem DocAbove.unique (h : DocAbove barred before row doc)
    (h' : DocAbove barred before row doc') : doc = doc' := by
  obtain ⟨run, hrun, rfl⟩ | ⟨hnone, rfl⟩ := h <;> obtain ⟨run', hrun', rfl⟩ | ⟨hnone', rfl⟩ := h'
  · rw [hrun.unique hrun']
  · exact absurd ⟨run, hrun.toDocRun⟩ hnone'
  · exact absurd ⟨run', hrun'.toDocRun⟩ hnone
  · rfl

/-! ## Pending comments -/

/-- The pending comments behind an item. -/
def PendingDoc.step (p : PendingDoc) : BodyItem → PendingDoc
  | .comment c => p.add c
  | .method _ _ endRow | .other endRow => .after endRow

/-- The methods of a body go on with what is pending behind its first items. -/
theorem attachDocs_append (p : PendingDoc) (before after : List BodyItem) :
    attachDocs p (before ++ after) =
      attachDocs p before ++ attachDocs (before.foldl PendingDoc.step p) after := by
  induction before generalizing p with
  | nil => rfl
  | cons item before ih =>
    cases item with
    | comment c => exact ih (p.add c)
    | method m row endRow => exact congrArg _ (ih (.after endRow))
    | other endRow => exact ih (.after endRow)

/-- What is pending behind items: the lines of a run of comments, which is the longest block at the
end, and the row where the last element ends. -/
structure Pending (before : List BodyItem) (p : PendingDoc) (run : List Comment) : Prop extends
    IsBlock (elementEnds before) before run where
  previous : p.previous = (elementEnds before).getLast?
  lines : p.lines = run.flatMap fun c => stripMarkers c.text
  endRow : p.endRow = run.getLast?.map Comment.endRow
  longest : ∀ other, IsBlock (elementEnds before) before other → other <:+ run

theorem isBlock_nil (barred : List Nat) (before : List BodyItem) : IsBlock barred before [] :=
  ⟨List.nil_suffix, .nil, List.forall_mem_nil _⟩

/-- Behind a comment a block is empty or ends with that comment. -/
theorem isBlock_concat_comment_iff {c : Comment} : IsBlock barred (before ++ [.comment c]) run ↔
    run = [] ∨ ∃ front, run = front ++ [c] ∧ IsBlock barred before front ∧ c.row ∉ barred ∧
      ∀ d ∈ front.getLast?, c.row ≤ d.endRow + 1 := by
  constructor
  · intro h
    obtain rfl | ⟨front, d, rfl⟩ := List.eq_nil_or_concat run
    · exact .inl rfl
    rw [List.concat_eq_append] at h ⊢
    have hs := h.suffix
    rw [List.map_append, List.map_singleton,
      List.suffix_append_inj_of_length_eq (List.length_singleton.trans List.length_singleton.symm)]
      at hs
    obtain rfl := BodyItem.comment.inj (List.singleton_inj.1 hs.2)
    obtain ⟨hchain, -, hgap⟩ := List.isChain_append.1 h.chained
    obtain ⟨hfront, hd⟩ := List.forall_mem_append.1 h.unbarred
    exact .inr ⟨front, rfl, ⟨hs.1, hchain, hfront⟩, hd d (List.mem_singleton_self d),
      fun e he => hgap e he d rfl⟩
  · rintro (rfl | ⟨front, rfl, h, hc, hgap⟩)
    · exact isBlock_nil _ _
    · refine ⟨?_, List.isChain_append.2 ⟨h.chained, .singleton c, fun e he d hd => ?_⟩,
        List.forall_mem_append.2 ⟨h.unbarred, List.forall_mem_singleton.2 hc⟩⟩
      · rw [List.map_append, List.map_singleton, List.suffix_append_self_iff]
        exact h.suffix
      · obtain rfl := Option.some.inj hd
        exact hgap e he

/-- Behind an element there is no block. -/
theorem IsBlock.eq_nil_of_element {item : BodyItem} {e : Nat} (hi : item.elementEnd? = some e)
    (h : IsBlock barred (before ++ [item]) run) : run = [] := by
  obtain rfl | ⟨front, c, rfl⟩ := List.eq_nil_or_concat run
  · rfl
  · have hs := h.suffix
    rw [List.concat_eq_append, List.map_append, List.map_singleton,
      List.suffix_append_inj_of_length_eq (List.length_singleton.trans List.length_singleton.symm)]
      at hs
    obtain rfl := List.singleton_inj.1 hs.2
    cases hi

namespace InOrder

theorem sortedEnds (h : InOrder items) : (elementEnds items).Pairwise (· ≤ ·) := by
  refine List.pairwise_filterMap.2 (h.pairs.imp_of_mem fun {x y} _ hy hxy e he e' he' => ?_)
  rw [← BodyItem.lastRow_eq he, ← BodyItem.lastRow_eq he']
  exact hxy.trans (h.rows y hy)

/-- The comments of a block stand below the elements before them. -/
theorem elementEnd_le {e : Nat} {c : Comment} (h : InOrder before)
    (hs : run.map BodyItem.comment <:+ before) (he : e ∈ elementEnds before) (hc : c ∈ run) :
    e ≤ c.row := by
  obtain ⟨front, rfl⟩ := hs
  obtain ⟨x, hx, hxe⟩ := mem_elementEnds_iff.1 he
  rw [← BodyItem.lastRow_eq hxe]
  obtain hx | hx := List.mem_append.1 hx
  · exact (List.pairwise_append.1 h.pairs).2.2 x hx _ (List.mem_map_of_mem hc)
  · obtain ⟨d, -, rfl⟩ := List.mem_map.1 hx
    cases hxe

/-- A comment is on the row of an element before it only if that is the last one. -/
theorem row_notMem {c : Comment} (h : InOrder (before ++ [.comment c]))
    (hlast : (elementEnds before).getLast? ≠ some c.row) : c.row ∉ elementEnds before := by
  intro hmem
  obtain hnil | ⟨ends, e, hends⟩ := List.eq_nil_or_concat (elementEnds before)
  · rw [hnil] at hmem
    cases hmem
  rw [List.concat_eq_append] at hends
  have hsorted := h.of_append.sortedEnds
  rw [hends] at hlast hmem hsorted
  have hne : e ≠ c.row := fun heq => hlast (by rw [List.getLast?_concat, heq])
  have hle : e ≤ c.row := by
    have hlastEnd : e ∈ elementEnds before := hends ▸ List.mem_concat_self
    obtain ⟨x, hx, hxe⟩ := mem_elementEnds_iff.1 hlastEnd
    rw [← BodyItem.lastRow_eq hxe]
    exact h.lastRow_le hx
  obtain hmem | hmem := List.mem_append.1 hmem
  · have := (List.pairwise_append.1 hsorted).2.2 _ hmem e (List.mem_singleton_self e)
    omega
  · exact hne (List.mem_singleton.1 hmem).symm

end InOrder

namespace Pending

variable {p : PendingDoc} {c : Comment}

theorem elementEnds_comment (before : List BodyItem) (c : Comment) :
    elementEnds (before ++ [.comment c]) = elementEnds before := by
  rw [elementEnds_append]
  exact List.append_nil _

/-- A comment on the row of the element before stands below no other comment. -/
theorem of_trailing (hord : InOrder (before ++ [.comment c])) (h : Pending before p run)
    (hrow : p.previous = some c.row) : Pending (before ++ [.comment c]) (p.add c) [] := by
  have hmem : c.row ∈ elementEnds before := List.mem_of_getLast? (h.previous ▸ hrow)
  have hnil : run = [] := by
    refine List.eq_nil_iff_forall_not_mem.2 fun d hd => h.unbarred d hd ?_
    have hle := hord.of_append.elementEnd_le h.suffix hmem hd
    have hd' := h.suffix.subset (List.mem_map_of_mem hd)
    have hrows : d.row ≤ d.endRow := hord.of_append.rows _ hd'
    have hbelow : d.endRow ≤ c.row := hord.lastRow_le hd'
    rwa [show d.row = c.row by omega]
  subst hnil
  have hadd : p.add c = p := if_pos hrow
  rw [hadd]
  refine ⟨isBlock_nil _ _, ?_, h.lines, h.endRow, fun other hother => ?_⟩
  · rw [elementEnds_comment]
    exact h.previous
  · rw [elementEnds_comment] at hother
    obtain rfl | ⟨front, rfl, -, hc, -⟩ := isBlock_concat_comment_iff.1 hother
    · exact List.nil_suffix
    · exact absurd hmem hc

/-- A comment goes on with a block, or begins a new one behind a gap. -/
theorem of_comment (hord : InOrder (before ++ [.comment c])) (h : Pending before p run)
    (hrow : p.previous ≠ some c.row) :
    ∃ run', Pending (before ++ [.comment c]) (p.add c) run' := by
  have hc : c.row ∉ elementEnds before := hord.row_notMem (h.previous ▸ hrow)
  have hblock {front : List Comment} (hfront : IsBlock (elementEnds before) before front)
      (hgap : ∀ d ∈ front.getLast?, c.row ≤ d.endRow + 1) :
      IsBlock (elementEnds (before ++ [.comment c])) (before ++ [.comment c]) (front ++ [c]) := by
    rw [elementEnds_comment]
    exact isBlock_concat_comment_iff.2 (.inr ⟨front, rfl, hfront, hc, hgap⟩)
  have hprevious : (p.add c).previous = (elementEnds (before ++ [.comment c])).getLast? := by
    rw [elementEnds_comment, ← h.previous, PendingDoc.add, if_neg hrow]
  have hend : (p.add c).endRow = some c.endRow := by rw [PendingDoc.add, if_neg hrow]
  have hlines : (p.add c).lines =
      (if p.endRow.any (· + 1 < c.row) then [] else p.lines) ++ stripMarkers c.text := by
    rw [PendingDoc.add, if_neg hrow]
  by_cases hgap : ∀ d ∈ run.getLast?, c.row ≤ d.endRow + 1
  · have hany : p.endRow.any (· + 1 < c.row) = false := by
      rw [h.endRow]
      cases hlast : run.getLast? with
      | none => rfl
      | some d => simpa using hgap d hlast
    refine ⟨run ++ [c], hblock h.toIsBlock hgap, hprevious, ?_, ?_, fun other hother => ?_⟩
    · simp [hlines, hany, h.lines]
    · simp [hend]
    · rw [elementEnds_comment] at hother
      obtain rfl | ⟨front, rfl, hfront, -, -⟩ := isBlock_concat_comment_iff.1 hother
      · exact List.nil_suffix
      · exact List.suffix_append_self_iff.2 (h.longest front hfront)
  · obtain ⟨d, hd, hlt⟩ : ∃ d ∈ run.getLast?, d.endRow + 1 < c.row := by
      simpa using hgap
    have hany : p.endRow.any (· + 1 < c.row) = true := by
      rw [h.endRow, Option.mem_def.1 hd]
      simpa using hlt
    refine ⟨[] ++ [c], hblock (isBlock_nil _ _) (by simp), hprevious, ?_, hend,
      fun other hother => ?_⟩
    · simp [hlines, hany]
    · rw [elementEnds_comment] at hother
      obtain rfl | ⟨front, rfl, hfront, -, hnear⟩ := isBlock_concat_comment_iff.1 hother
      · exact List.nil_suffix
      · -- A longer block would have the comment above the gap in front.
        obtain rfl | hne := eq_or_ne front []
        · exact List.suffix_rfl
        · have hlast : front.getLast? = run.getLast? := by
            obtain ⟨first, rfl⟩ := h.longest front hfront
            rw [List.getLast?_append_of_ne_nil first hne]
          have := hnear d (hlast ▸ hd)
          omega

/-- Behind an element nothing is pending. -/
theorem of_element {item : BodyItem} {e : Nat} (hi : item.elementEnd? = some e) :
    Pending (before ++ [item]) (.after e) [] := by
  refine ⟨isBlock_nil _ _, ?_, rfl, rfl, fun other hother => ?_⟩
  · have hend : elementEnds [item] = [e] := List.filterMap_cons_some hi
    have hlast : (elementEnds (before ++ [item])).getLast? = some e := by
      rw [elementEnds_append, hend, List.getLast?_concat]
    exact hlast.symm
  · obtain rfl := hother.eq_nil_of_element hi
    exact List.suffix_rfl

end Pending

/-- Behind items in order the longest block of comments is pending. -/
theorem exists_pending (h : InOrder before) :
    ∃ run, Pending before (before.foldl PendingDoc.step {}) run := by
  induction before using List.reverseRecOn with
  | nil =>
    exact ⟨[], isBlock_nil _ _, rfl, rfl, rfl, fun other hother =>
      List.map_eq_nil_iff.1 (List.suffix_nil.1 hother.suffix) ▸ List.suffix_rfl⟩
  | append_singleton before item ih =>
    obtain ⟨run, hrun⟩ := ih h.of_append
    rw [List.foldl_concat]
    cases item with
    | comment c =>
      by_cases hrow : (before.foldl PendingDoc.step {}).previous = some c.row
      · exact ⟨[], hrun.of_trailing h hrow⟩
      · exact hrun.of_comment h hrow
    | method m row endRow => exact ⟨[], Pending.of_element rfl⟩
    | other endRow => exact ⟨[], Pending.of_element rfl⟩

/-- The text for a method is that of the longest run above it. -/
theorem Pending.docAbove {p : PendingDoc} (h : Pending before p run) (row : Nat) :
    DocAbove (elementEnds before) before row (p.docFor row) := by
  by_cases habove : ∃ c ∈ run.getLast?, c.endRow + 1 = row
  · refine .inl ⟨run, ⟨⟨h.toIsBlock, habove⟩, fun other hother => h.longest other hother.toIsBlock⟩,
      ?_⟩
    obtain ⟨c, hc, rfl⟩ := habove
    rw [PendingDoc.docFor, h.endRow, Option.mem_def.1 hc, if_pos (by simp), h.lines, runText,
      docText, List.flatMap_map]
  · refine .inr ⟨?_, ?_⟩
    · rintro ⟨other, hother⟩
      obtain ⟨first, rfl⟩ := h.longest other hother.toIsBlock
      obtain ⟨c, hc, hrow⟩ := hother.above
      exact habove ⟨c, by rwa [List.getLast?_append_of_ne_nil first hother.ne_nil], hrow⟩
    · rw [PendingDoc.docFor, h.endRow, if_neg]
      cases hlast : run.getLast? with
      | none => simp
      | some c =>
        intro hany
        exact habove ⟨c, hlast, by simpa using hany⟩

/-- The methods of a body in order have the texts above them. -/
theorem docsAbove_attachDocs_nil (h : InOrder items) :
    DocsAbove [] items (attachDocs {} items) where
  length_eq := length_attachDocs {} items
  doc := by
    rintro before m row endRow after rfl
    obtain ⟨run, hrun⟩ := exists_pending h.of_append
    refine ⟨_, ?_, hrun.docAbove row⟩
    rw [attachDocs_append, ← length_attachDocs {} before, List.getElem?_append_right le_rfl,
      Nat.sub_self]
    rfl

/-! ## Comments behind the opening brace -/

/-- The end of a run behind its last comment on a row. -/
def offRow (row : Nat) (run : List Comment) : List Comment := run.rtakeWhile (·.row != row)

theorem row_ne_of_mem_offRow {c : Comment} (hc : c ∈ offRow brace run) : c.row ≠ brace := by
  simpa using List.mem_rtakeWhile_imp hc

/-- It is the longest end without a comment on that row. -/
theorem suffix_offRow (hs : other <:+ run) (hne : ∀ c ∈ other, c.row ≠ brace) :
    other <:+ offRow brace run := by
  obtain ⟨front, rfl⟩ := hs
  have hkept : ∀ c ∈ other.reverse, (c.row != brace) = true := fun c hc => by
    simpa using hne c (List.mem_reverse.1 hc)
  rw [offRow, List.rtakeWhile, List.reverse_append, List.takeWhile_append_of_pos hkept,
    List.reverse_append, List.reverse_reverse]
  exact List.suffix_append _ other

theorem isBlock_cons_iff : IsBlock (brace :: barred) before run ↔
    IsBlock barred before run ∧ ∀ c ∈ run, c.row ≠ brace := by
  constructor
  · intro h
    have hnot (c) (hc : c ∈ run) := List.ne_and_not_mem_of_not_mem_cons (h.unbarred c hc)
    exact ⟨⟨h.suffix, h.chained, fun c hc => (hnot c hc).2⟩, fun c hc => (hnot c hc).1⟩
  · rintro ⟨h, hne⟩
    exact ⟨h.suffix, h.chained, fun c hc =>
      List.not_mem_cons_of_ne_of_not_mem (hne c hc) (h.unbarred c hc)⟩

theorem IsBlock.of_suffix (h : IsBlock barred before run) (hs : other <:+ run) :
    IsBlock barred before other where
  suffix := (hs.map _).trans h.suffix
  chained := h.chained.suffix hs
  unbarred c hc := h.unbarred c (hs.subset hc)

/-- Where the row of the brace is barred as well, the longest run loses the comments up to there. -/
theorem MaximalDocRun.docAbove_offRow (h : MaximalDocRun barred before row run) (brace : Nat) :
    DocAbove (brace :: barred) before row (runText (offRow brace run)) := by
  have hoff : offRow brace run <:+ run := List.rtakeWhile_suffix _ _
  have hends (other) (hother : DocRun (brace :: barred) before row other) :
      other <:+ offRow brace run := by
    obtain ⟨hblock, hne⟩ := isBlock_cons_iff.1 hother.toIsBlock
    exact suffix_offRow (h.longest other ⟨hblock, hother.above⟩) hne
  obtain hnil | hne := eq_or_ne (offRow brace run) []
  · refine .inr ⟨?_, by rw [hnil]; rfl⟩
    rintro ⟨other, hother⟩
    have hempty := hends other hother
    rw [hnil] at hempty
    exact hother.ne_nil (List.suffix_nil.1 hempty)
  · refine .inl ⟨_, ⟨⟨isBlock_cons_iff.2 ⟨h.toIsBlock.of_suffix hoff, fun c =>
      row_ne_of_mem_offRow⟩, ?_⟩, hends⟩, rfl⟩
    obtain ⟨first, hfirst⟩ := hoff
    obtain ⟨c, hc, hrow⟩ := h.above
    exact ⟨c, by rwa [← hfirst, List.getLast?_append_of_ne_nil first hne] at hc, hrow⟩

/-- A place without a run has none either where one more row is barred. -/
theorem docAbove_cons_of_none (h : ¬ ∃ run, DocRun barred before row run) :
    DocAbove (brace :: barred) before row "" := by
  refine .inr ⟨?_, rfl⟩
  rintro ⟨run, hrun⟩
  exact h ⟨run, (isBlock_cons_iff.1 hrun.toIsBlock).1, hrun.above⟩

/-- The methods of a body in order have the texts of the longest runs above them, where comments
behind the opening brace count as well. Without those the texts are the same exactly if the longest
runs have no text up to their last comment on the row of the brace. -/
theorem docsAbove_attachDocs (h : InOrder items) (brace : Nat) :
    DocsAbove [] items (attachDocs {} items) ∧
    (DocsAbove [brace] items (attachDocs {} items) ↔
      ∀ before m row endRow after, items = before ++ .method m row endRow :: after →
        ∀ run, MaximalDocRun (elementEnds before) before row run →
          runText (offRow brace run) = runText run) := by
  have hdocs := docsAbove_attachDocs_nil h
  refine ⟨hdocs, fun hall => ?_, fun hsame => ⟨hdocs.length_eq, ?_⟩⟩
  · intro before m row endRow after hitems run hrun
    obtain ⟨doc, hdoc, habove⟩ := hdocs.doc before m row endRow after hitems
    obtain ⟨doc', hdoc', habove'⟩ := hall.doc before m row endRow after hitems
    obtain rfl : doc = doc' := by
      rw [hdoc, Option.some.injEq, Method.mk.injEq] at hdoc'
      exact hdoc'.2.1
    exact ((hrun.docAbove_offRow brace).unique habove').trans
      (habove.unique (.inl ⟨run, hrun, rfl⟩))
  · intro before m row endRow after hitems
    obtain ⟨doc, hdoc, habove⟩ := hdocs.doc before m row endRow after hitems
    refine ⟨doc, hdoc, ?_⟩
    obtain ⟨run, hrun, rfl⟩ | ⟨hnone, rfl⟩ := habove
    · rw [← hsame before m row endRow after hitems run hrun]
      exact hrun.docAbove_offRow brace
    · exact docAbove_cons_of_none hnone

namespace Feed

/-- A comment behind the opening brace, two above a method, and one behind that method. -/
def source : String :=
  "package p\n\ntype Q interface \x7b // note\n\tA()\n\t// first\n\t// second\n\tB() // third\n\tC()\n\x7d\n"

def note : Comment := ⟨"// note".toList, 2, 2⟩

def method (name : String) : Method := { name, doc := "", params := [], results := [] }

def body : List BodyItem :=
  [.comment note, .method (method "A") 3 3,
    .comment ⟨"// first".toList, 4, 4⟩, .comment ⟨"// second".toList, 5, 5⟩,
    .method (method "B") 6 6, .comment ⟨"// third".toList, 6, 6⟩, .method (method "C") 7 7]

theorem inOrder_body : InOrder body := ⟨by decide, by decide⟩

/-- The body of the only interface. -/
theorem interfaces_source : (GoFile.parse? source).map (·.interfaces) =
    some [⟨"Q", attachDocs {} body⟩] := by
  rw [GoFile.parse?, source, String.toList_ofList]
  decide +kernel

theorem docs_body : (attachDocs {} body).map (·.doc) = ["note", "first\nsecond", ""] := by
  decide +kernel

theorem docsAbove_body : InOrder body ∧ DocsAbove [] body (attachDocs {} body) ∧
    (DocsAbove [2] body (attachDocs {} body) ↔
      ∀ before m row endRow after, body = before ++ .method m row endRow :: after →
        ∀ run, MaximalDocRun (elementEnds before) before row run →
          runText (offRow 2 run) = runText run) :=
  ⟨inOrder_body, docsAbove_attachDocs inOrder_body 2⟩

/-- The method below the brace has the comment behind it. -/
theorem not_docsAbove_brace : (GoFile.parse? source).map (·.interfaces) =
      some [⟨"Q", attachDocs {} body⟩] ∧
    InOrder body ∧ ¬ DocsAbove [2] body (attachDocs {} body) := by
  refine ⟨interfaces_source, inOrder_body, fun h => ?_⟩
  obtain ⟨doc, hdoc, habove⟩ := h.doc [.comment note] (method "A") 3 3 _ rfl
  have hnote : doc = "note" := by
    have hdocs := congrArg (·[0]?) docs_body
    simp only [List.getElem?_map] at hdocs
    rw [show (attachDocs {} body)[0]? = some { method "A" with doc } from hdoc] at hdocs
    exact Option.some.inj hdocs
  -- The only comment above the method is barred.
  have hnone : ¬ ∃ run, DocRun [2] [.comment note] 3 run := by
    rintro ⟨run, hrun⟩
    have hblock : IsBlock [2] ([] ++ [.comment note]) run := hrun.toIsBlock
    obtain rfl | ⟨front, rfl, -, hrow, -⟩ := isBlock_concat_comment_iff.1 hblock
    · exact hrun.ne_nil rfl
    · exact hrow (List.mem_singleton_self 2)
  obtain ⟨run, hrun, -⟩ | ⟨-, rfl⟩ := habove
  · exact hnone ⟨run, hrun.toDocRun⟩
  · exact absurd hnote (by decide)

end Feed

end QueryGen.Go
