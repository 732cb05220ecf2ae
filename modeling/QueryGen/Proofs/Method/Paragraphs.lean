import QueryGen.Method.Doc
import QueryGen.Proofs.Text.Lines

/-!
# Paragraphs

The body of a comment is its paragraphs, with one empty line between two of them.

- `spaced`: the text of lines in paragraphs.
- `exists_spaced_cons`, `exists_spaced_concat`: a line in front and one behind.
- `exists_spaced_prepend`, `exists_spaced_append`: more text in the first line and in the last one.
- `trim_spaced_lines`: a single paragraph stays as it is.
- `docBody_eq_of_alone`, `docBody_eq_of_described`: a text alone, and one behind a description.
-/

namespace QueryGen

/-- The paragraphs of lines, with an empty line between two of them. -/
def spaced (ls : List (List Char)) : List Char :=
  Text.join ['\n', '\n'] ((paragraphs ls).map (Text.join ['\n']))

variable {method doc a b l t w : List Char} {ls front rest : List (List Char)}

theorem paragraphs_eq_partsWith (ls : List (List Char)) :
    paragraphs ls = Text.partsWith Text.isBlankText ls := rfl

theorem forall_isBlank_feed : ∀ c ∈ ['\n'], Text.isBlank c = true :=
  List.forall_mem_singleton.2 (by decide)

theorem forall_isBlank_feeds : ∀ c ∈ ['\n', '\n'], Text.isBlank c = true :=
  List.forall_mem_cons.2 ⟨by decide, forall_isBlank_feed⟩

/-! ## Lines in front and behind -/

theorem spaced_cons_of_blank (hl : Text.isBlankText l = true) (rest : List (List Char)) :
    spaced (l :: rest) = spaced rest := by
  rw [spaced, paragraphs_eq_partsWith, Text.partsWith_cons_of_pos hl]
  rfl

theorem spaced_concat_of_blank (hl : Text.isBlankText l = true) (front : List (List Char)) :
    spaced (front ++ [l]) = spaced front := by
  rw [spaced, paragraphs_eq_partsWith, Text.partsWith_append_gap (by simpa using hl)]
  rfl

/-- Lines that are not blank, up to a blank one. -/
theorem exists_run_append (ls : List (List Char)) : ∃ run tail, ls = run ++ tail ∧
    (∀ l ∈ run, Text.isBlankText l = false) ∧ ∀ l ∈ tail.head?, Text.isBlankText l = true := by
  refine ⟨ls.takeWhile (!Text.isBlankText ·), ls.dropWhile (!Text.isBlankText ·),
    List.takeWhile_append_dropWhile.symm, fun l hl => by simpa using List.mem_takeWhile_imp hl,
    fun l hl => ?_⟩
  have hnot := List.head?_dropWhile_not (!Text.isBlankText ·) ls
  rw [Option.mem_def.1 hl] at hnot
  simpa using hnot

/-- Lines that are not blank, from behind a blank one. -/
theorem exists_append_run (ls : List (List Char)) : ∃ front run, ls = front ++ run ∧
    (∀ l ∈ run, Text.isBlankText l = false) ∧
    ∀ l ∈ front.getLast?, Text.isBlankText l = true := by
  obtain ⟨run, tail, hls, hrun, htail⟩ := exists_run_append ls.reverse
  refine ⟨tail.reverse, run.reverse, ?_, fun l hl => hrun l (List.mem_reverse.1 hl),
    fun l hl => htail l (by rwa [List.getLast?_reverse] at hl)⟩
  rw [← List.reverse_append, ← hls, List.reverse_reverse]

theorem spaced_run_append {run tail : List (List Char)} (hne : run ≠ [])
    (hrun : ∀ l ∈ run, Text.isBlankText l = false)
    (htail : ∀ l ∈ tail.head?, Text.isBlankText l = true) : spaced (run ++ tail) =
      Text.join ['\n'] run ++
        ((paragraphs tail).map (Text.join ['\n'])).flatMap (['\n', '\n'] ++ ·) := by
  rw [spaced, paragraphs_eq_partsWith, Text.partsWith_append_word hne hrun htail, List.map_cons,
    Text.join_cons_eq]
  rfl

theorem spaced_append_run {run : List (List Char)} (hne : run ≠ [])
    (hrun : ∀ l ∈ run, Text.isBlankText l = false)
    (hfront : ∀ l ∈ front.getLast?, Text.isBlankText l = true) : spaced (front ++ run) =
      ((paragraphs front).map (Text.join ['\n'])).flatMap (· ++ ['\n', '\n']) ++
        Text.join ['\n'] run := by
  rw [spaced, paragraphs_eq_partsWith, Text.partsWith_append hfront, Text.partsWith_word hne hrun,
    List.map_append, List.map_singleton, Text.join_append_left (List.cons_ne_nil _ _),
    Text.join_singleton]
  rfl

/-- A line in front. What stands between it and the rest does not depend on it. -/
theorem exists_spaced_cons (rest : List (List Char)) :
    ∃ gap, (∀ c ∈ gap, Text.isBlank c = true) ∧
      ∀ l, Text.isBlankText l = false → spaced (l :: rest) = l ++ (gap ++ spaced rest) := by
  obtain ⟨run, tail, rfl, hrun, htail⟩ := exists_run_append rest
  have hfirst : ∀ l, Text.isBlankText l = false → spaced (l :: (run ++ tail)) =
      l ++ (run.flatMap (['\n'] ++ ·) ++
        ((paragraphs tail).map (Text.join ['\n'])).flatMap (['\n', '\n'] ++ ·)) := by
    intro l hl
    rw [← List.cons_append, spaced_run_append (List.cons_ne_nil _ _)
      (List.forall_mem_cons.2 ⟨hl, hrun⟩) htail, Text.join_cons_eq, List.append_assoc]
  by_cases hne : run = []
  · subst hne
    obtain ⟨gap, hgap, hjoin⟩ := Text.exists_flatMap_prepend forall_isBlank_feeds
      ((paragraphs tail).map (Text.join ['\n']))
    refine ⟨gap, hgap, fun l hl => ?_⟩
    rw [hfirst l hl, hjoin]
    rfl
  · obtain ⟨gap, hgap, hjoin⟩ := Text.exists_flatMap_prepend forall_isBlank_feed run
    refine ⟨gap, hgap, fun l hl => ?_⟩
    rw [hfirst l hl, hjoin, spaced_run_append hne hrun htail, List.append_assoc]

/-- A line behind. What stands in front of it does not depend on it. -/
theorem exists_spaced_concat (front : List (List Char)) :
    ∃ gap, (∀ c ∈ gap, Text.isBlank c = true) ∧
      ∀ l, Text.isBlankText l = false → spaced (front ++ [l]) = spaced front ++ (gap ++ l) := by
  obtain ⟨front, run, rfl, hrun, hfront⟩ := exists_append_run front
  have hlast : ∀ l, Text.isBlankText l = false → spaced (front ++ run ++ [l]) =
      ((paragraphs front).map (Text.join ['\n'])).flatMap (· ++ ['\n', '\n']) ++
        (run.flatMap (· ++ ['\n']) ++ l) := by
    intro l hl
    rw [List.append_assoc, spaced_append_run (by simp)
      (List.forall_mem_append.2 ⟨hrun, by simpa using hl⟩) hfront,
      Text.join_append_left (List.cons_ne_nil _ _), Text.join_singleton]
  by_cases hne : run = []
  · subst hne
    obtain ⟨gap, hgap, hjoin⟩ := Text.exists_flatMap_append forall_isBlank_feeds
      ((paragraphs front).map (Text.join ['\n']))
    refine ⟨gap, hgap, fun l hl => ?_⟩
    rw [hlast l hl, hjoin, List.append_nil, List.append_assoc]
    rfl
  · obtain ⟨gap, hgap, hjoin⟩ := Text.exists_flatMap_append forall_isBlank_feed run
    refine ⟨gap, hgap, fun l hl => ?_⟩
    rw [hlast l hl, hjoin, spaced_append_run hne hrun hfront]
    simp only [List.append_assoc]

/-! ## More text in a line -/

theorem isBlankText_append (a b : List Char) :
    Text.isBlankText (a ++ b) = (Text.isBlankText a && Text.isBlankText b) := List.all_append

/-- Text in front of the first line, which may be blank. -/
theorem exists_spaced_prepend (ha : Text.isBlankText a = false) (l : List Char)
    (rest : List (List Char)) : ∃ gap, (∀ c ∈ gap, Text.isBlank c = true) ∧
      spaced ((a ++ l) :: rest) = a ++ (gap ++ spaced (l :: rest)) := by
  obtain ⟨gap, hgap, hcons⟩ := exists_spaced_cons rest
  have hfirst := hcons (a ++ l) (by rw [isBlankText_append, ha]; rfl)
  cases hl : Text.isBlankText l with
  | true =>
    refine ⟨l ++ gap, List.forall_mem_append.2 ⟨List.all_eq_true.1 hl, hgap⟩, ?_⟩
    rw [hfirst, spaced_cons_of_blank hl]
    simp only [List.append_assoc]
  | false =>
    refine ⟨[], List.forall_mem_nil _, ?_⟩
    rw [hfirst, hcons l hl, List.nil_append, List.append_assoc]

/-- Text behind the last line, which may be blank. -/
theorem exists_spaced_append (hb : Text.isBlankText b = false) (front : List (List Char))
    (l : List Char) : ∃ gap, (∀ c ∈ gap, Text.isBlank c = true) ∧
      spaced (front ++ [l ++ b]) = spaced (front ++ [l]) ++ (gap ++ b) := by
  obtain ⟨gap, hgap, hconcat⟩ := exists_spaced_concat front
  have hlast := hconcat (l ++ b) (by rw [isBlankText_append, hb, Bool.and_false])
  cases hl : Text.isBlankText l with
  | true =>
    refine ⟨gap ++ l, List.forall_mem_append.2 ⟨hgap, List.all_eq_true.1 hl⟩, ?_⟩
    rw [hlast, spaced_concat_of_blank hl]
    simp only [List.append_assoc]
  | false =>
    refine ⟨[], List.forall_mem_nil _, ?_⟩
    rw [hlast, hconcat l hl]
    simp only [List.append_assoc, List.nil_append]

/-! ## Texts -/

/-- The paragraphs of a text with a word in front and one behind. -/
theorem exists_spaced_lines (ha : '\n' ∉ a) (hlast : ∃ c ∈ a.getLast?, Text.isBlank c = false)
    (hb : '\n' ∉ b) (hne : Text.isBlankText b = false) (t : List Char) :
    ∃ front back, (∀ c ∈ front, Text.isBlank c = true) ∧ (∀ c ∈ back, Text.isBlank c = true) ∧
      spaced (Text.lines (a ++ (t ++ b))) =
        a ++ (front ++ spaced (Text.lines t) ++ back ++ b) := by
  obtain ⟨c, hc, hblank⟩ := hlast
  have hreturn : ∃ c ∈ a.getLast?, c ≠ '\r' := ⟨c, hc, by rintro rfl; cases hblank⟩
  have hnot : Text.isBlankText a = false := by
    rw [Text.isBlankText, List.all_eq_false]
    exact ⟨c, List.mem_of_getLast? hc, by simp [hblank]⟩
  have hbne : b ≠ [] := by
    rintro rfl
    cases hne
  obtain ⟨first, last, hs⟩ := Text.exists_splitOn_eq '\n' t
  have hback : Text.lines (t ++ b) = first.map Text.dropReturn ++ [last ++ b] := by
    rw [Text.lines_of_splitOn (Text.splitOn_append hb hs), if_neg (by simp [hbne])]
  have ht : spaced (Text.lines t) = spaced (first.map Text.dropReturn ++ [last]) := by
    rw [Text.lines_of_splitOn hs]
    split
    · next he => rw [he, spaced_concat_of_blank rfl, List.append_nil]
    · rfl
  obtain ⟨l, rest, hl⟩ := List.exists_cons_of_ne_nil (List.append_ne_nil_of_right_ne_nil
    (first.map Text.dropReturn) (List.cons_ne_nil (last ++ b) []))
  obtain ⟨before, hbefore, hprepend⟩ := exists_spaced_prepend hnot l rest
  obtain ⟨after, hafter, happend⟩ := exists_spaced_append hne (first.map Text.dropReturn) last
  refine ⟨before, after, hbefore, hafter, ?_⟩
  rw [Text.lines_prepend ha hreturn (hback.trans hl), hprepend, ← hl, happend, ← ht]
  simp only [List.append_assoc]

theorem trim_ne_nil (h : Text.isBlankText t = false) : Text.trim t ≠ [] := by
  intro hnil
  obtain ⟨front, back, ht, hfront, hback⟩ := Text.exists_of_trim t
  rw [hnil, List.append_nil] at ht
  have hall : Text.isBlankText t = true :=
    List.all_eq_true.2 (ht ▸ List.forall_mem_append.2 ⟨hfront, hback⟩)
  rw [h] at hall
  cases hall

/-- A text that is not blank has a paragraph. -/
theorem paragraphs_lines_ne_nil (h : Text.isBlankText t = false) :
    paragraphs (Text.lines t) ≠ [] := by
  intro hp
  rw [Text.isBlankText_of_lines (Text.forall_of_partsWith_eq_nil hp)] at h
  cases h

theorem trim_spaced_ne_nil (h : Text.isBlankText t = false) :
    Text.trim (spaced (Text.lines t)) ≠ [] := by
  obtain ⟨p, ps, hp⟩ := List.exists_cons_of_ne_nil (paragraphs_lines_ne_nil h)
  have hmem : p ∈ Text.partsWith Text.isBlankText (Text.lines t) := by
    rw [← paragraphs_eq_partsWith, hp]
    exact List.mem_cons_self
  obtain ⟨hne, hlines⟩ := Text.not_of_mem_partsWith hmem
  obtain ⟨l, rest, rfl⟩ := List.exists_cons_of_ne_nil hne
  refine trim_ne_nil ?_
  rw [spaced, hp, List.map_cons, Text.join_cons_eq, Text.join_cons_eq, isBlankText_append,
    isBlankText_append, hlines l List.mem_cons_self]
  rfl

/-- Without a carriage return in front of a line feed, lines are what stands between line feeds. -/
theorem map_dropReturn_of_not_infix {last : List Char}
    (hr : ¬ ['\r', '\n'] <:+: Text.join ['\n'] (front ++ [last])) :
    front.map Text.dropReturn = front := by
  refine (List.map_congr_left fun l hl => Text.dropReturn_eq fun hlast => hr ?_).trans
    (List.map_id front)
  obtain ⟨before, after, rfl⟩ := List.append_of_mem hl
  obtain ⟨body, rfl⟩ := List.getLast?_eq_some_iff.1 hlast
  obtain ⟨next, rest, hnext⟩ := List.exists_cons_of_ne_nil
    (List.append_ne_nil_of_right_ne_nil after (List.cons_ne_nil last []))
  rw [List.append_assoc, List.cons_append, hnext, Text.join_append_left (List.cons_ne_nil _ _),
    Text.join_cons_eq, List.flatMap_cons]
  exact ⟨before.flatMap (· ++ ['\n']) ++ body, next ++ rest.flatMap (['\n'] ++ ·), by simp⟩

/-- A single paragraph is kept as it stands in the text. -/
theorem trim_spaced_lines {p : List (List Char)} (hp : paragraphs (Text.lines t) = [p])
    (hr : ¬ ['\r', '\n'] <:+: t) : Text.trim (spaced (Text.lines t)) = Text.trim t := by
  obtain ⟨front, last, hs⟩ := Text.exists_splitOn_eq '\n' t
  have ht : t = Text.join ['\n'] (front ++ [last]) := by rw [← hs, Text.join_splitOn]
  have hfront : front.map Text.dropReturn = front := map_dropReturn_of_not_infix (ht ▸ hr)
  have hparts : Text.partsWith Text.isBlankText (front ++ [last]) = [p] := by
    rw [Text.lines_of_splitOn hs, hfront] at hp
    split at hp
    · next he =>
      rw [List.append_nil] at hp
      rw [he, Text.partsWith_append_gap (by simp [Text.isBlankText])]
      exact hp
    · exact hp
  obtain ⟨gap, tail, hlines, hgap, hne, -, -, htail⟩ := Text.exists_of_partsWith_eq_cons hparts
  have hblank := Text.forall_of_partsWith_eq_nil htail
  have hp' : spaced (Text.lines t) = Text.join ['\n'] p := by
    rw [spaced, hp, List.map_singleton, Text.join_singleton]
  rw [hp', ht, hlines, Text.join_append_right (by simp [hne]), Text.join_append_left hne,
    Text.trim_pad]
  · rw [List.forall_mem_flatMap]
    exact fun l hl => List.forall_mem_append.2 ⟨List.all_eq_true.1 (hgap l hl), forall_isBlank_feed⟩
  · rw [List.forall_mem_flatMap]
    exact fun l hl =>
      List.forall_mem_append.2 ⟨forall_isBlank_feed, List.all_eq_true.1 (hblank l hl)⟩

/-! ## Bodies -/

theorem docBody_eq
    (h : dropDescription method (paragraphs (Text.lines doc)) = paragraphs ls) :
    docBody method doc = Text.trim (spaced ls) := by
  rw [docBody, h]
  rfl

/-- A text alone is kept if it is a single paragraph or does not begin with the name. -/
theorem docBody_eq_of_alone {c : Char} {cs : List Char} (hc : Text.isBlank c = false)
    (h : (∀ l ∈ Text.lines (c :: cs), Text.isBlankText l = false) ∨ ¬ method <+: c :: cs) :
    docBody method (c :: cs) = Text.trim (spaced (Text.lines (c :: cs))) := by
  obtain ⟨l, ls, hlines⟩ := Text.exists_lines_cons hc cs
  have hl : Text.isBlankText (c :: l) = false := by rw [Text.isBlankText, List.all_cons, hc]; rfl
  obtain ⟨run, tail, rfl, hrun, htail⟩ := exists_run_append ls
  have hfirst : paragraphs (Text.lines (c :: cs)) = ((c :: l) :: run) :: paragraphs tail := by
    rw [hlines, paragraphs_eq_partsWith, ← List.cons_append]
    exact Text.partsWith_append_word (List.cons_ne_nil _ _)
      (List.forall_mem_cons.2 ⟨hl, hrun⟩) htail
  refine docBody_eq ?_
  rcases h with h | h
  · have hsingle : paragraphs (Text.lines (c :: cs)) = [Text.lines (c :: cs)] :=
      Text.partsWith_word (by simp [hlines]) h
    rw [hsingle]
    rfl
  · have htrim : Text.trimStart (c :: l) = c :: l :=
      List.dropWhile_cons_of_neg (by simp [hc])
    have hnot : describes method ((c :: l) :: run) = false := by
      refine Bool.eq_false_iff.2 fun hd => h ?_
      rw [describes, List.head?_cons, Option.any_some, htrim, List.isPrefixOf_iff_prefix] at hd
      exact hd.trans (Text.prefix_of_lines hlines)
    rw [hfirst]
    cases paragraphs tail with
    | nil => rfl
    | cons second rest =>
      rw [dropDescription, hnot]
      rfl

/-- A paragraph that describes the method is left out in front of a text. -/
theorem docBody_eq_of_described {intro gap : List Char} {d : List (List Char)}
    (hintro : paragraphs (Text.lines (intro ++ ['\n'])) = [d]) (hd : describes method d = true)
    (hgap : Text.isBlankText gap = true) (hw : Text.isBlankText w = false) :
    docBody method (intro ++ '\n' :: (gap ++ '\n' :: w)) =
      Text.trim (spaced (Text.lines w)) := by
  obtain ⟨second, rest, hrest⟩ := List.exists_cons_of_ne_nil (paragraphs_lines_ne_nil hw)
  have hblank : ∀ l ∈ (Text.splitOn '\n' gap).map Text.dropReturn, Text.isBlankText l = true := by
    refine List.forall_mem_map.2 fun l hl => ?_
    rw [Text.isBlankText_dropReturn]
    exact List.all_eq_true.2 fun c hc =>
      List.all_eq_true.1 hgap c (Text.mem_of_mem_splitWith hl hc).1
  have hfirst : Text.lines (intro ++ ['\n']) = (Text.splitOn '\n' intro).map Text.dropReturn := by
    rw [Text.lines_append]
    exact List.append_nil _
  have hlines : Text.lines (intro ++ '\n' :: (gap ++ '\n' :: w)) =
      (Text.lines (intro ++ ['\n']) ++ (Text.splitOn '\n' gap).map Text.dropReturn) ++
        Text.lines w := by
    rw [Text.lines_append, Text.lines_append, hfirst, List.append_assoc]
  have hgapped : (Text.splitOn '\n' gap).map Text.dropReturn ≠ [] :=
    fun h => Text.splitWith_ne_nil _ _ (List.map_eq_nil_iff.1 h)
  have hparagraphs : paragraphs (Text.lines (intro ++ '\n' :: (gap ++ '\n' :: w))) =
      d :: paragraphs (Text.lines w) := by
    rw [hlines, paragraphs_eq_partsWith, Text.partsWith_append, Text.partsWith_append_gap hblank]
    · exact congrArg (· ++ paragraphs (Text.lines w)) hintro
    · rw [List.getLast?_append_of_ne_nil _ hgapped]
      exact fun l hl => hblank l (List.mem_of_getLast? hl)
  refine docBody_eq ?_
  rw [hparagraphs, hrest, dropDescription, hd]
  rfl

end QueryGen
