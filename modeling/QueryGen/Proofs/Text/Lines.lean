import QueryGen.Output.Layout
import QueryGen.Proofs.Template.Words

/-!
# Lines

A text is cut into lines at its line feeds. A carriage return in front of a line feed belongs to it,
and behind the last line feed there is no line without a character.

- `splitOn_join`, `join_splitOn`: parts that are joined, and a text that is cut.
- `lines_of_splitOn`, `lines_append`: the lines of a text by what stands between its line feeds.
- `lines_prepend`: the lines when more text stands in front.
- `IsLine`: a line that keeps its end when it is read.
- `lines_join`, `lines_unlines`: such lines are read back from the text that they make.
-/

namespace QueryGen.Text

variable {cs a b l last : List Char} {ls front : List (List Char)}

/-! ## Parts of a text -/

/-- What stands between separators is no separator. -/
theorem mem_of_mem_splitWith {α : Type} {p : α → Bool} {cs part : List α}
    (h : part ∈ splitWith p cs) {c : α} (hc : c ∈ part) : c ∈ cs ∧ p c = false := by
  induction cs generalizing part with
  | nil =>
    obtain rfl : part = [] := by simpa [splitWith] using h
    cases hc
  | cons d rest ih =>
    unfold splitWith at h
    split at h
    · rcases List.mem_cons.1 h with rfl | h
      · cases hc
      · exact (ih h hc).imp_left (List.mem_cons_of_mem d)
    · next hd =>
      obtain ⟨first, parts, hs⟩ := List.exists_cons_of_ne_nil (splitWith_ne_nil p rest)
      rw [hs] at h ih
      rcases List.mem_cons.1 h with rfl | h
      · rcases List.mem_cons.1 hc with rfl | hc
        · exact ⟨List.mem_cons_self, by simpa using hd⟩
        · exact (ih List.mem_cons_self hc).imp_left (List.mem_cons_of_mem d)
      · exact (ih (List.mem_cons_of_mem _ h) hc).imp_left (List.mem_cons_of_mem d)

theorem splitOn_eq (sep : Char) (cs : List Char) : splitOn sep cs = cs.splitOn sep := by
  rw [splitOn, splitWith_eq_splitOnP, List.splitOn_eq_splitOnP]

theorem splitOn_append_cons (sep : Char) (a b : List Char) :
    splitOn sep (a ++ sep :: b) = splitOn sep a ++ splitOn sep b := by
  simp only [splitOn, splitWith_eq_splitOnP]
  exact List.splitOnP_append_cons a b (by simp)

theorem splitOn_of_notMem {sep : Char} (h : sep ∉ cs) : splitOn sep cs = [cs] := by
  rw [splitOn, splitWith_eq_splitOnP]
  exact List.splitOnP_eq_singleton fun c hc => by simpa using ne_of_mem_of_not_mem hc h

theorem notMem_of_mem_splitOn {sep : Char} (h : l ∈ splitOn sep cs) : sep ∉ l := by
  intro hmem
  simpa using (mem_of_mem_splitWith h hmem).2

/-- The parts of a text are those in front of its last part, and that one. -/
theorem exists_splitOn_eq (sep : Char) (cs : List Char) :
    ∃ front last, splitOn sep cs = front ++ [last] := by
  obtain h | ⟨front, last, h⟩ := List.eq_nil_or_concat (splitOn sep cs)
  · exact absurd h (splitWith_ne_nil _ _)
  · exact ⟨front, last, by rw [h, List.concat_eq_append]⟩

/-! ## Joined texts -/

theorem join_cons_eq (sep l : List Char) (ls : List (List Char)) :
    join sep (l :: ls) = l ++ ls.flatMap (sep ++ ·) := by
  induction ls generalizing l with
  | nil => simp [join]
  | cons next rest ih =>
    have hcons : join sep (l :: next :: rest) = l ++ sep ++ join sep (next :: rest) :=
      List.intercalate_cons_cons
    rw [hcons, ih, List.flatMap_cons, List.append_assoc, List.append_assoc]

theorem join_append_right (hne : ls ≠ []) (sep : List Char) (back : List (List Char)) :
    join sep (ls ++ back) = join sep ls ++ back.flatMap (sep ++ ·) := by
  obtain ⟨l, rest, rfl⟩ := List.exists_cons_of_ne_nil hne
  rw [List.cons_append, join_cons_eq, join_cons_eq, List.flatMap_append, List.append_assoc]

theorem join_append_left (hne : ls ≠ []) (sep : List Char) (front : List (List Char)) :
    join sep (front ++ ls) = front.flatMap (· ++ sep) ++ join sep ls := by
  induction front with
  | nil => rfl
  | cons l rest ih =>
    have hcons : join sep (l :: (rest ++ ls)) = l ++ sep ++ join sep (rest ++ ls) :=
      List.intercalate_cons_of_ne_nil (List.append_ne_nil_of_right_ne_nil rest hne)
    rw [List.cons_append, hcons, ih, List.flatMap_cons, List.append_assoc, List.append_assoc,
      List.append_assoc]

@[simp] theorem join_singleton (sep l : List Char) : join sep [l] = l := by simp [join]

theorem mem_join {sep : List Char} {c : Char} (h : c ∈ join sep ls) :
    c ∈ sep ∨ ∃ l ∈ ls, c ∈ l := by
  cases ls with
  | nil => cases h
  | cons l rest =>
    rw [join_cons_eq, List.mem_append, List.mem_flatMap] at h
    rcases h with h | ⟨next, hnext, h⟩
    · exact .inr ⟨l, List.mem_cons_self, h⟩
    · exact (List.mem_append.1 h).imp_right fun h => ⟨next, List.mem_cons_of_mem l hnext, h⟩

theorem mem_join_of_mem {sep : List Char} {c : Char} (hl : l ∈ ls) (hc : c ∈ l) :
    c ∈ join sep ls := by
  obtain ⟨front, back, rfl⟩ := List.append_of_mem hl
  rw [join_append_left (List.cons_ne_nil _ _), join_cons_eq]
  exact List.mem_append_right _ (List.mem_append_left _ hc)

/-- Separators in front of texts are one in front of all, and those between them. -/
theorem exists_flatMap_prepend {sep : List Char} (hsep : ∀ c ∈ sep, isBlank c = true)
    (ls : List (List Char)) : ∃ gap, (∀ c ∈ gap, isBlank c = true) ∧
      ls.flatMap (sep ++ ·) = gap ++ join sep ls := by
  cases ls with
  | nil => exact ⟨[], by simp, by simp [join]⟩
  | cons l rest => exact ⟨sep, hsep, by rw [join_cons_eq, List.flatMap_cons, List.append_assoc]⟩

theorem exists_flatMap_append {sep : List Char} (hsep : ∀ c ∈ sep, isBlank c = true)
    (ls : List (List Char)) : ∃ gap, (∀ c ∈ gap, isBlank c = true) ∧
      ls.flatMap (· ++ sep) = join sep ls ++ gap := by
  rcases List.eq_nil_or_concat ls with rfl | ⟨front, last, rfl⟩
  · exact ⟨[], by simp, by simp [join]⟩
  · refine ⟨sep, hsep, ?_⟩
    rw [List.concat_eq_append, join_append_left (List.cons_ne_nil _ _), join_singleton,
      List.flatMap_append, List.append_assoc]
    simp

theorem splitOn_join {sep : Char} (h : ∀ l ∈ ls, sep ∉ l) (hne : ls ≠ []) :
    splitOn sep (join [sep] ls) = ls := by
  rw [splitOn_eq]
  exact List.splitOn_intercalate sep h hne

theorem join_splitOn (sep : Char) (cs : List Char) : join [sep] (splitOn sep cs) = cs := by
  rw [splitOn_eq]
  exact List.intercalate_splitOn sep

theorem splitOn_prepend {sep : Char} (hf : sep ∉ a) (h : splitOn sep cs = l :: ls) :
    splitOn sep (a ++ cs) = (a ++ l) :: ls := by
  have hparts : ∀ part ∈ l :: ls, sep ∉ part := fun part hp => notMem_of_mem_splitOn (h ▸ hp)
  obtain ⟨hl, hls⟩ := List.forall_mem_cons.1 hparts
  have hjoin : a ++ cs = join [sep] ((a ++ l) :: ls) := by
    rw [← join_splitOn sep cs, h, join_cons_eq, join_cons_eq, List.append_assoc]
  rw [hjoin, splitOn_join _ (List.cons_ne_nil _ _)]
  exact List.forall_mem_cons.2 ⟨by simp [hf, hl], hls⟩

theorem splitOn_append {sep : Char} (hb : sep ∉ b) (h : splitOn sep cs = front ++ [last]) :
    splitOn sep (cs ++ b) = front ++ [last ++ b] := by
  have hparts : ∀ part ∈ front ++ [last], sep ∉ part := fun part hp =>
    notMem_of_mem_splitOn (h ▸ hp)
  rw [List.forall_mem_append] at hparts
  have hjoin : cs ++ b = join [sep] (front ++ [last ++ b]) := by
    rw [← join_splitOn sep cs, h, join_append_left (List.cons_ne_nil _ _),
      join_append_left (List.cons_ne_nil _ _), List.append_assoc, join_singleton, join_singleton]
  have hlast : sep ∉ last := hparts.2 last List.mem_cons_self
  rw [hjoin, splitOn_join _ (by simp)]
  exact List.forall_mem_append.2 ⟨hparts.1, by simp [hb, hlast]⟩

/-! ## Lines of a text -/

/-- What stands behind the last line feed is a line if it has a character. -/
theorem lines_of_splitOn (h : splitOn '\n' cs = front ++ [last]) :
    lines cs = front.map dropReturn ++ if last = [] then [] else [last] := by
  have hlast : (splitOn '\n' cs).getLast? = some last := by rw [h, List.getLast?_concat]
  have hfront : (splitOn '\n' cs).dropLast = front := by rw [h, List.dropLast_concat]
  cases cs with
  | nil =>
    have hparts : splitOn '\n' [] = [] ++ [[]] := rfl
    obtain ⟨rfl, rfl⟩ := List.append_singleton_inj.1 (hparts.symm.trans h)
    rfl
  | cons c rest =>
    simp only [lines, hlast, hfront]
    cases last with
    | nil => simp
    | cons d text => rfl

/-- The lines on both sides of a line feed. -/
theorem lines_append (a b : List Char) :
    lines (a ++ '\n' :: b) = (splitOn '\n' a).map dropReturn ++ lines b := by
  obtain ⟨front, last, h⟩ := exists_splitOn_eq '\n' b
  have happend : splitOn '\n' (a ++ '\n' :: b) = (splitOn '\n' a ++ front) ++ [last] := by
    rw [splitOn_append_cons, h, List.append_assoc]
  rw [lines_of_splitOn happend, lines_of_splitOn h, List.map_append, List.append_assoc]

theorem dropReturn_eq (h : l.getLast? ≠ some '\r') : dropReturn l = l := by
  unfold dropReturn
  split
  · next rest hr =>
    rw [← List.head?_reverse, hr] at h
    exact absurd rfl h
  · rfl

theorem isPrefix_dropReturn (l : List Char) : dropReturn l <+: l := by
  unfold dropReturn
  split
  · next rest hr =>
    rw [← List.reverse_reverse l, hr, List.reverse_cons]
    exact List.prefix_append _ _
  · exact List.prefix_rfl

/-- No line has a line feed. -/
theorem notMem_of_mem_lines (h : l ∈ lines cs) : '\n' ∉ l := by
  obtain ⟨front, last, hs⟩ := exists_splitOn_eq '\n' cs
  rw [lines_of_splitOn hs, List.mem_append] at h
  rcases h with h | h
  · obtain ⟨part, hpart, rfl⟩ := List.mem_map.1 h
    exact fun hmem => notMem_of_mem_splitOn (hs ▸ List.mem_append_left _ hpart)
      ((isPrefix_dropReturn part).subset hmem)
  · split at h
    · cases h
    · obtain rfl := List.mem_singleton.1 h
      exact notMem_of_mem_splitOn (hs ▸ List.mem_append_right _ List.mem_cons_self)

/-- A carriage return at the end is blank. -/
theorem isBlankText_dropReturn (l : List Char) : isBlankText (dropReturn l) = isBlankText l := by
  unfold dropReturn
  split
  · next rest hr =>
    have hl : l = rest.reverse ++ ['\r'] := by rw [← List.reverse_reverse l, hr, List.reverse_cons]
    have hblank : isBlank '\r' = true := by decide
    simp [hl, isBlankText, hblank]
  · rfl

/-- A text is blank if its lines are. -/
theorem isBlankText_of_lines (h : ∀ l ∈ lines cs, isBlankText l = true) :
    isBlankText cs = true := by
  obtain ⟨front, last, hs⟩ := exists_splitOn_eq '\n' cs
  rw [lines_of_splitOn hs] at h
  have hlast : isBlankText last = true := by
    by_cases hne : last = []
    · rw [hne]
      rfl
    · exact h last (by simp [hne])
  have hfront : ∀ l ∈ front, isBlankText l = true := fun l hl => by
    rw [← isBlankText_dropReturn]
    exact h _ (List.mem_append_left _ (List.mem_map_of_mem hl))
  have hfeed : isBlank '\n' = true := by decide
  rw [← join_splitOn '\n' cs, hs, join_append_left (List.cons_ne_nil _ _), isBlankText,
    List.all_append, List.all_flatMap, Bool.and_eq_true, List.all_eq_true]
  refine ⟨fun l hl => ?_, by simpa [isBlankText] using hlast⟩
  rw [List.all_append, Bool.and_eq_true]
  exact ⟨hfront l hl, by simp [hfeed]⟩

/-! ## Text in front and behind -/

/-- Text in front of the first line. It must not end with a carriage return. -/
theorem lines_prepend (hf : '\n' ∉ a) (hr : ∃ c ∈ a.getLast?, c ≠ '\r')
    (h : lines cs = l :: ls) : lines (a ++ cs) = (a ++ l) :: ls := by
  have hdrop : ∀ part, dropReturn (a ++ part) = a ++ dropReturn part := by
    intro part
    rcases List.eq_nil_or_concat part with rfl | ⟨rest, c, rfl⟩
    · obtain ⟨c, hc, hne⟩ := hr
      have hlast : a.getLast? ≠ some '\r' := by
        rw [Option.mem_def.1 hc]
        simpa using hne
      rw [List.append_nil, dropReturn_eq hlast]
      exact (List.append_nil a).symm
    · rw [List.concat_eq_append, ← List.append_assoc]
      by_cases hc : c = '\r'
      · simp [dropReturn, hc]
      · rw [dropReturn_eq (by simpa using hc), dropReturn_eq (by simpa using hc), List.append_assoc]
  have hne : a ≠ [] := by
    rintro rfl
    obtain ⟨c, hc, -⟩ := hr
    cases hc
  obtain ⟨front, last, hs⟩ := exists_splitOn_eq '\n' cs
  rw [lines_of_splitOn hs] at h
  cases front with
  | nil =>
    have hl : last ≠ [] := by
      rintro rfl
      cases h
    rw [if_neg hl] at h
    obtain ⟨rfl, rfl⟩ := List.cons.inj h
    have hsplit : splitOn '\n' (a ++ cs) = [] ++ [a ++ last] := splitOn_prepend hf hs
    rw [lines_of_splitOn hsplit, if_neg (by simp [hne])]
    rfl
  | cons part parts =>
    obtain ⟨rfl, rfl⟩ := List.cons.inj h
    have hsplit : splitOn '\n' (a ++ cs) = ((a ++ part) :: parts) ++ [last] :=
      splitOn_prepend hf hs
    rw [lines_of_splitOn hsplit, List.map_cons, hdrop]
    rfl

/-- A text that begins with no blank has a first line that begins so. -/
theorem exists_lines_cons {c : Char} (hc : isBlank c = false) (rest : List Char) :
    ∃ l ls, lines (c :: rest) = (c :: l) :: ls := by
  have hfeed : '\n' ∉ [c] := by
    rw [List.mem_singleton]
    rintro rfl
    cases hc
  have hreturn : ∃ d ∈ [c].getLast?, d ≠ '\r' := ⟨c, rfl, by rintro rfl; cases hc⟩
  cases hrest : lines rest with
  | nil =>
    obtain ⟨front, last, hs⟩ := exists_splitOn_eq '\n' rest
    rw [lines_of_splitOn hs, List.append_eq_nil_iff, List.map_eq_nil_iff] at hrest
    obtain ⟨rfl, -⟩ := hrest
    have hsplit : splitOn '\n' (c :: rest) = [] ++ [c :: last] := splitOn_prepend hfeed hs
    exact ⟨last, [], by rw [lines_of_splitOn hsplit]; rfl⟩
  | cons l ls => exact ⟨l, ls, lines_prepend hfeed hreturn hrest⟩

/-- The first line is what the text begins with. -/
theorem prefix_of_lines (h : lines cs = l :: ls) : l <+: cs := by
  obtain ⟨front, last, hs⟩ := exists_splitOn_eq '\n' cs
  have hcs : cs = join ['\n'] (front ++ [last]) := by rw [← hs, join_splitOn]
  rw [lines_of_splitOn hs] at h
  cases front with
  | nil =>
    have hl : last ≠ [] := by
      rintro rfl
      cases h
    rw [if_neg hl] at h
    obtain ⟨rfl, -⟩ := List.cons.inj h
    rw [hcs, List.nil_append, join_cons_eq]
    exact List.prefix_append _ _
  | cons part parts =>
    obtain ⟨rfl, -⟩ := List.cons.inj h
    rw [hcs, List.cons_append, join_cons_eq]
    exact (isPrefix_dropReturn part).trans (List.prefix_append _ _)

/-! ## Lines that are written -/

/-- Neither a line feed nor, at the end, a carriage return. -/
structure IsLine (l : List Char) : Prop where
  noFeed : '\n' ∉ l
  noReturn : l.getLast? ≠ some '\r'

theorem map_dropReturn (h : ∀ l ∈ ls, IsLine l) : ls.map dropReturn = ls :=
  (List.map_congr_left fun l hl => dropReturn_eq (h l hl).noReturn).trans (List.map_id ls)

/-- Lines are read back from their text. The last one must not be empty. -/
theorem lines_join (h : ∀ l ∈ ls, IsLine l) (hlast : ls.getLast? ≠ some []) :
    lines (join ['\n'] ls) = ls := by
  rcases List.eq_nil_or_concat ls with rfl | ⟨front, last, rfl⟩
  · rfl
  · rw [List.concat_eq_append] at h hlast ⊢
    have hne : last ≠ [] := by
      rintro rfl
      exact hlast (by simp)
    rw [lines_of_splitOn (splitOn_join (fun l hl => (h l hl).noFeed) (by simp)), if_neg hne,
      map_dropReturn fun l hl => h l (List.mem_append_left _ hl)]

theorem toList_unlines_cons (s : String) (rest : List String) :
    (Output.unlines (s :: rest)).toList = s.toList ++ '\n' :: (Output.unlines rest).toList := by
  have h : Output.unlines (s :: rest) = Output.unlines [s] ++ Output.unlines rest :=
    Output.unlines_append [s] rest
  rw [h]
  simp [Output.unlines]

/-- Lines with an end each are read back. -/
theorem lines_unlines {written : List String} (h : ∀ s ∈ written, IsLine s.toList) :
    lines (Output.unlines written).toList = written.map String.toList := by
  induction written with
  | nil => rfl
  | cons s rest ih =>
    obtain ⟨hs, hrest⟩ := List.forall_mem_cons.1 h
    rw [toList_unlines_cons, lines_append, splitOn_of_notMem hs.noFeed, ih hrest]
    simp [dropReturn_eq hs.noReturn]

theorem lines_unlines_append (front back : List String) :
    lines (Output.unlines (front ++ back)).toList =
      lines (Output.unlines front).toList ++ lines (Output.unlines back).toList := by
  induction front with
  | nil => rfl
  | cons s rest ih =>
    rw [List.cons_append, toList_unlines_cons, toList_unlines_cons, lines_append,
      lines_append, ih, List.append_assoc]

end QueryGen.Text
