import Mathlib.Data.List.DropRight
import QueryGen.Proofs.Template.Reading

/-!
# Words of a directive

A directive is taken apart at separators, and the Go code in it at everything that is no identifier
and stands outside a string literal.

- `Text.partsWith`: the parts of a text that are not empty. All about it follows from how it cuts
  at one separator (`partsWith_append_cons`).
- `exists_of_partsWith_eq_cons`: where the first part stands.
- `Text.Trimmed`: no blank at the ends; what `trim` leaves and keeps.
- `codeWords_append_word`, `codeWords_append_gap`: words of Go code before other code, and
  separators around code.
-/

namespace QueryGen

/-! ## Parts -/

namespace Text

variable {α : Type} {p : α → Bool} {c : α} {xs ys gap w ws tail : List α}

theorem splitWith_eq_splitOnP (p : α → Bool) (cs : List α) : splitWith p cs = cs.splitOnP p := by
  induction cs with
  | nil => simp [splitWith]
  | cons c rest ih =>
    rw [splitWith, List.splitOnP_cons_eq_if_modifyHead, ih]
    split
    · rfl
    · obtain ⟨part, parts, hp⟩ := List.exists_cons_of_ne_nil (List.splitOnP_ne_nil p rest)
      simp [hp]

/-- The parts between the elements that satisfy `p`, empty ones left out. -/
def partsWith (p : α → Bool) (cs : List α) : List (List α) :=
  (splitWith p cs).filter (· ≠ [])

@[simp] theorem partsWith_nil : partsWith p [] = [] := by simp [partsWith, splitWith]

theorem partsWith_append_cons (hc : p c = true) (xs ys : List α) :
    partsWith p (xs ++ c :: ys) = partsWith p xs ++ partsWith p ys := by
  simp only [partsWith, splitWith_eq_splitOnP, List.splitOnP_append_cons xs ys hc,
    List.filter_append]

theorem partsWith_cons_of_pos (hc : p c = true) (xs : List α) :
    partsWith p (c :: xs) = partsWith p xs := by
  simpa using partsWith_append_cons hc [] xs

theorem partsWith_gap_append (hg : ∀ c ∈ gap, p c = true) (xs : List α) :
    partsWith p (gap ++ xs) = partsWith p xs := by
  induction gap with
  | nil => rfl
  | cons c rest ih =>
    obtain ⟨hc, hrest⟩ := List.forall_mem_cons.1 hg
    rw [List.cons_append, partsWith_cons_of_pos hc, ih hrest]

theorem partsWith_append_gap (hg : ∀ c ∈ gap, p c = true) (xs : List α) :
    partsWith p (xs ++ gap) = partsWith p xs := by
  cases gap with
  | nil => simp
  | cons c rest =>
    obtain ⟨hc, hrest⟩ := List.forall_mem_cons.1 hg
    have hnone : partsWith p rest = [] := by simpa using partsWith_gap_append hrest []
    rw [partsWith_append_cons hc, hnone, List.append_nil]

/-- A cut behind a separator cuts no part. -/
theorem partsWith_append (hx : ∀ c ∈ xs.getLast?, p c = true) (ys : List α) :
    partsWith p (xs ++ ys) = partsWith p xs ++ partsWith p ys := by
  rcases List.eq_nil_or_concat xs with rfl | ⟨front, c, rfl⟩
  · simp
  · rw [List.concat_eq_append] at hx ⊢
    have hc : p c = true := hx c (by simp)
    have hgap : ∀ d ∈ [c], p d = true := by simpa using hc
    rw [List.append_assoc, List.singleton_append, partsWith_append_cons hc,
      partsWith_append_gap hgap]

theorem forall_head?_append (hgap : gap ≠ []) (hg : ∀ c ∈ gap, p c = true) (xs : List α) :
    ∀ c ∈ (gap ++ xs).head?, p c = true := by
  obtain ⟨c, rest, rfl⟩ := List.exists_cons_of_ne_nil hgap
  simpa using hg c List.mem_cons_self

theorem partsWith_word (hne : w ≠ []) (hw : ∀ c ∈ w, p c = false) : partsWith p w = [w] := by
  rw [partsWith, splitWith_eq_splitOnP, List.splitOnP_eq_singleton hw]
  simp [hne]

/-- A word ends where an element satisfies `p`. -/
theorem partsWith_append_word (hne : w ≠ []) (hw : ∀ c ∈ w, p c = false)
    (ht : ∀ c ∈ tail.head?, p c = true) : partsWith p (w ++ tail) = w :: partsWith p tail := by
  cases tail with
  | nil => simp [partsWith_word hne hw]
  | cons c rest =>
    have hc : p c = true := ht c rfl
    rw [partsWith_append_cons hc, partsWith_word hne hw, partsWith_cons_of_pos hc]
    rfl

theorem partsWith_word_gap (hne : w ≠ []) (hw : ∀ c ∈ w, p c = false) (hgap : gap ≠ [])
    (hg : ∀ c ∈ gap, p c = true) (xs : List α) :
    partsWith p (w ++ (gap ++ xs)) = w :: partsWith p xs := by
  rw [partsWith_append_word hne hw (forall_head?_append hgap hg xs), partsWith_gap_append hg]

/-- A text that begins with no separator begins with a word. -/
theorem exists_word_append (hc : p c = false) (rest : List α) :
    ∃ w tail, c :: rest = w ++ tail ∧ w ≠ [] ∧ (∀ d ∈ w, p d = false) ∧
      ∀ d ∈ tail.head?, p d = true := by
  refine ⟨(c :: rest).takeWhile (!p ·), (c :: rest).dropWhile (!p ·),
    List.takeWhile_append_dropWhile.symm, by simp [hc], fun d hd => ?_, fun d hd => ?_⟩
  · simpa using List.mem_takeWhile_imp hd
  · have hnot := List.head?_dropWhile_not (!p ·) (c :: rest)
    rw [Option.mem_def.1 hd] at hnot
    simpa using hnot

theorem forall_of_partsWith_eq_nil {cs : List α} (h : partsWith p cs = []) :
    ∀ c ∈ cs, p c = true := by
  induction cs with
  | nil => simp
  | cons c rest ih =>
    cases hc : p c with
    | true => exact List.forall_mem_cons.2 ⟨hc, ih (by rwa [partsWith_cons_of_pos hc] at h)⟩
    | false =>
      obtain ⟨w, tail, he, hne, hw, ht⟩ := exists_word_append hc rest
      rw [he, partsWith_append_word hne hw ht] at h
      cases h

/-- Where the first part stands. -/
theorem exists_of_partsWith_eq_cons {cs : List α} {parts : List (List α)}
    (h : partsWith p cs = w :: parts) :
    ∃ gap tail, cs = gap ++ w ++ tail ∧ (∀ c ∈ gap, p c = true) ∧ w ≠ [] ∧
      (∀ c ∈ w, p c = false) ∧ (∀ c ∈ tail.head?, p c = true) ∧ partsWith p tail = parts := by
  induction cs with
  | nil => simp at h
  | cons c rest ih =>
    cases hc : p c with
    | true =>
      obtain ⟨gap, tail, rfl, hgap, hw⟩ := ih (by rwa [partsWith_cons_of_pos hc] at h)
      exact ⟨c :: gap, tail, rfl, List.forall_mem_cons.2 ⟨hc, hgap⟩, hw⟩
    | false =>
      obtain ⟨first, tail, he, hne, hword, htail⟩ := exists_word_append hc rest
      rw [he, partsWith_append_word hne hword htail] at h
      obtain ⟨rfl, hparts⟩ := List.cons.inj h
      exact ⟨[], tail, he, by simp, hne, hword, htail, hparts⟩

theorem not_of_mem_partsWith {cs : List α} (h : w ∈ partsWith p cs) :
    w ≠ [] ∧ ∀ c ∈ w, p c = false := by
  induction hp : partsWith p cs generalizing cs with
  | nil => simp [hp] at h
  | cons first parts ih =>
    obtain ⟨gap, tail, rfl, -, hne, hw, -, hparts⟩ := exists_of_partsWith_eq_cons hp
    rw [hp] at h
    rcases List.mem_cons.1 h with rfl | h
    · exact ⟨hne, hw⟩
    · exact ih (hparts ▸ h) hparts

/-- A text that begins with its first part has a separator behind it. -/
theorem head_of_partsWith_append {parts : List (List α)} (hw : ∀ c ∈ w, p c = false)
    (h : partsWith p (w ++ tail) = w :: parts) : ∀ c ∈ tail.head?, p c = true := by
  obtain ⟨gap, back, he, hgap, hne, -, hback, -⟩ := exists_of_partsWith_eq_cons h
  cases gap with
  | nil => rwa [List.append_cancel_left he]
  | cons c rest =>
    obtain ⟨d, more, rfl⟩ := List.exists_cons_of_ne_nil hne
    obtain ⟨rfl, -⟩ := List.cons.inj he
    exact absurd (hgap d List.mem_cons_self) (by simp [hw d List.mem_cons_self])

/-! ## Blanks at the ends -/

/-- No blank at either end. -/
structure Trimmed (cs : List Char) : Prop where
  head : ∀ c ∈ cs.head?, isBlank c = false
  last : ∀ c ∈ cs.getLast?, isBlank c = false

theorem trimmed_of_forall {cs : List Char} (h : ∀ c ∈ cs, isBlank c = false) : Trimmed cs :=
  ⟨fun c hc => h c (List.mem_of_mem_head? hc), fun c hc => h c (List.mem_of_mem_getLast? hc)⟩

/-- Blanks in the middle do not count. -/
theorem Trimmed.append {front back : List Char} (hf : Trimmed front) (hb : Trimmed back)
    (hfront : front ≠ []) (hback : back ≠ []) (middle : List Char) :
    Trimmed (front ++ middle ++ back) := by
  obtain ⟨c, rest, rfl⟩ := List.exists_cons_of_ne_nil hfront
  refine ⟨fun d hd => hf.head d hd, fun d hd => hb.last d ?_⟩
  rwa [List.getLast?_append_of_ne_nil _ hback] at hd

/-- Only blanks are dropped. -/
theorem exists_of_trim (cs : List Char) : ∃ front back, cs = front ++ trim cs ++ back ∧
    (∀ c ∈ front, isBlank c = true) ∧ ∀ c ∈ back, isBlank c = true := by
  refine ⟨cs.takeWhile isBlank, (trimStart cs).rtakeWhile isBlank, ?_,
    fun c hc => List.mem_takeWhile_imp hc, fun c hc => List.mem_rtakeWhile_imp hc⟩
  have hback : trim cs ++ (trimStart cs).rtakeWhile isBlank = trimStart cs :=
    List.rdropWhile_append_rtakeWhile ..
  rw [List.append_assoc, hback]
  exact List.takeWhile_append_dropWhile.symm

theorem trimmed_trim (cs : List Char) : Trimmed (trim cs) := by
  refine ⟨fun c hc => ?_, fun c hc => ?_⟩
  · have hp : trim cs <+: trimStart cs := List.rdropWhile_prefix ..
    have hhead : c ∈ (trimStart cs).head? := by
      obtain ⟨rest, hr⟩ := hp
      rw [← hr, List.head?_append, Option.mem_def.1 hc]
      rfl
    have hnot := List.head?_dropWhile_not isBlank cs
    rw [← trimStart, Option.mem_def.1 hhead] at hnot
    exact hnot
  · have hne : trim cs ≠ [] := fun he => by simp [he] at hc
    have hlast := List.rdropWhile_last_not isBlank (trimStart cs) hne
    rw [List.getLast?_eq_some_getLast hne] at hc
    obtain rfl := Option.some.inj hc
    exact Bool.eq_false_iff.2 hlast

theorem trimStart_append {front cs : List Char} (hf : ∀ c ∈ front, isBlank c = true)
    (hc : ∀ c ∈ cs.head?, isBlank c = false) : trimStart (front ++ cs) = cs := by
  rw [trimStart, List.dropWhile_append_of_pos hf]
  cases cs with
  | nil => rfl
  | cons c rest => rw [List.dropWhile_cons_of_neg (by simp [hc c rfl])]

theorem dropEndWhile_concat_of_pos {q : Char → Bool} {c : Char} (hc : q c = true)
    (cs : List Char) : dropEndWhile q (cs ++ [c]) = dropEndWhile q cs :=
  List.rdropWhile_concat_pos q cs c hc

theorem dropEndWhile_concat_of_neg {q : Char → Bool} {c : Char} (hc : ¬ q c = true)
    (cs : List Char) : dropEndWhile q (cs ++ [c]) = cs ++ [c] :=
  List.rdropWhile_concat_neg q cs c hc

theorem dropEndWhile_append {q : Char → Bool} {cs back : List Char} (hb : ∀ c ∈ back, q c = true)
    (hc : ∀ c ∈ cs.getLast?, q c = false) : dropEndWhile q (cs ++ back) = cs := by
  have hself : cs.reverse.dropWhile q = cs.reverse := by
    cases hr : cs.reverse with
    | nil => rfl
    | cons c rest =>
      have hlast : cs.getLast? = some c := by rw [← List.head?_reverse, hr]; rfl
      rw [List.dropWhile_cons_of_neg (by simp [hc c hlast])]
  rw [dropEndWhile, List.reverse_append, List.dropWhile_append_of_pos (by simpa using hb), hself,
    List.reverse_reverse]

/-- A trimmed text is what is left of it between blanks. -/
theorem trim_append {front cs back : List Char} (hf : ∀ c ∈ front, isBlank c = true)
    (hc : Trimmed cs) (hb : ∀ c ∈ back, isBlank c = true) : trim (front ++ cs ++ back) = cs := by
  cases cs with
  | nil =>
    have hall : ∀ c ∈ front ++ back, isBlank c = true := fun c hc =>
      (List.mem_append.1 hc).elim (hf c) (hb c)
    simp [trim, trimStart, List.dropWhile_eq_nil_iff.2 hall, trimEnd, dropEndWhile]
  | cons c rest =>
    have hfront : trimStart (front ++ ((c :: rest) ++ back)) = (c :: rest) ++ back :=
      trimStart_append hf fun d hd => hc.head d hd
    rw [List.append_assoc, trim, hfront, trimEnd, dropEndWhile_append hb hc.last]

theorem Trimmed.trim_eq {cs : List Char} (h : Trimmed cs) : trim cs = cs := by
  have hkept : trim ([] ++ cs ++ []) = cs :=
    trim_append (List.forall_mem_nil _) h (List.forall_mem_nil _)
  rwa [List.nil_append, List.append_nil] at hkept

/-- More blanks at the ends do not count. -/
theorem trim_pad {front back : List Char} (hf : ∀ c ∈ front, isBlank c = true)
    (hb : ∀ c ∈ back, isBlank c = true) (cs : List Char) :
    trim (front ++ cs ++ back) = trim cs := by
  obtain ⟨before, after, hcs, hbefore, hafter⟩ := exists_of_trim cs
  have hpad : front ++ cs ++ back = (front ++ before) ++ trim cs ++ (after ++ back) := by
    conv_lhs => rw [hcs]
    simp only [List.append_assoc]
  rw [hpad]
  exact trim_append (List.forall_mem_append.2 ⟨hf, hbefore⟩) (trimmed_trim cs)
    (List.forall_mem_append.2 ⟨hafter, hb⟩)

/-- A text is contained where it is an infix. -/
theorem contains_iff_isInfix {needle cs : List Char} :
    contains needle cs = true ↔ needle <:+: cs := by
  unfold contains
  induction cs with
  | nil => by_cases h : needle = [] <;> simp [splitAt?, h]
  | cons c rest ih =>
    rw [splitAt?, List.infix_cons_iff, ← ih]
    split
    · next after h =>
      rw [List.isPrefixOf?_eq_some_iff_append_eq] at h
      simp [← h]
    · next h =>
      have hp : ¬ needle <+: c :: rest := by
        rintro ⟨more, hmore⟩
        rw [List.isPrefixOf?_eq_some_iff_append_eq.2 hmore] at h
        cases h
      simp [hp]

end Text

/-! ## Kinds of characters -/

namespace Template

variable {c : Char}

theorem isNameChar_of_isIdentChar (h : Go.isIdentChar c = true) : isNameChar c = true := by
  simp only [Go.isIdentChar, Bool.or_eq_true] at h
  simp only [isNameChar, Bool.or_eq_true]
  tauto

theorem not_isIdentChar_of_isSeparator (h : isSeparator c = true) : Go.isIdentChar c = false := by
  cases hi : Go.isIdentChar c with
  | false => rfl
  | true =>
    simp only [isSeparator, isBlank_of_isNameChar (isNameChar_of_isIdentChar hi), Bool.or_false,
      Bool.or_eq_true, beq_iff_eq] at h
    rcases h with (rfl | rfl) | rfl <;> exact absurd hi (by decide)

theorem not_isQuote_of_isIdentChar (h : Go.isIdentChar c = true) : isQuote c = false := by
  cases hq : isQuote c with
  | false => rfl
  | true =>
    simp only [isQuote, Bool.or_eq_true, beq_iff_eq] at hq
    rcases hq with (rfl | rfl) | rfl <;> exact absurd h (by decide)

theorem not_isQuote_of_isSeparator (h : isSeparator c = true) : isQuote c = false := by
  cases hq : isQuote c with
  | false => rfl
  | true =>
    simp only [isQuote, Bool.or_eq_true, beq_iff_eq] at hq
    rcases hq with (rfl | rfl) | rfl <;> exact absurd h (by decide)

theorem ne_backslash_of_isQuote {q : Char} (h : isQuote q = true) : q ≠ '\\' := by
  rintro rfl
  exact absurd h (by decide)

theorem isSeparator_of_isBlank (h : Text.isBlank c = true) : isSeparator c = true := by
  simp [isSeparator, h]

/-! ## Words of Go code -/

theorem directiveWords_eq_partsWith (cs : List Char) :
    directiveWords cs = Text.partsWith isSeparator cs := rfl

theorem codeWords_eq_partsWith (cs : List Char) :
    codeWords cs = Text.partsWith (!Go.isIdentChar ·) (blankLiterals .code cs) := rfl

/-- Code in which no string literal begins stays as it is. -/
theorem blankLiterals_code_append {xs : List Char} (h : ∀ c ∈ xs, isQuote c = false)
    (ys : List Char) : blankLiterals .code (xs ++ ys) = xs ++ blankLiterals .code ys := by
  induction xs with
  | nil => rfl
  | cons c rest ih =>
    obtain ⟨hc, hrest⟩ := List.forall_mem_cons.1 h
    simp [blankLiterals, hc, ih hrest]

theorem exists_blankLiterals_append (state : CodeState) (xs ys : List Char) : ∃ behind,
    blankLiterals state (xs ++ ys) = blankLiterals state xs ++ blankLiterals behind ys := by
  fun_induction blankLiterals state xs with
  | case1 state => exact ⟨state, rfl⟩
  | case2 c rest hq ih | case3 c rest hq ih =>
    obtain ⟨behind, hb⟩ := ih
    exact ⟨behind, by simp [blankLiterals, hq, hb]⟩
  | case4 q c rest ih =>
    obtain ⟨behind, hb⟩ := ih
    exact ⟨behind, by simp [blankLiterals, hb]⟩
  | case5 q c rest he ih | case7 q c rest he hq ih =>
    obtain ⟨behind, hb⟩ := ih
    exact ⟨behind, by simp [blankLiterals, *]⟩
  | case6 c rest he ih =>
    obtain ⟨behind, hb⟩ := ih
    exact ⟨behind, by simp [blankLiterals, he, hb]⟩

theorem eq_space_or_mem_of_mem_blankLiterals {state : CodeState} {cs : List Char}
    (h : c ∈ blankLiterals state cs) : c = ' ' ∨ c ∈ cs := by
  fun_induction blankLiterals state cs <;> simp_all <;> tauto

theorem head_blankLiterals {cs : List Char} (h : c ∈ (blankLiterals .code cs).head?) :
    c = ' ' ∨ c ∈ cs.head? := by
  cases cs with
  | nil => simp [blankLiterals] at h
  | cons d rest =>
    unfold blankLiterals at h
    split at h
    · exact .inl (by simpa using h.symm)
    · exact .inr h

/-- A word before other code. -/
theorem codeWords_append_word {gap w tail : List Char} (hg : ∀ c ∈ gap, isSeparator c = true)
    (hne : w ≠ []) (hw : ∀ c ∈ w, Go.isIdentChar c = true)
    (ht : ∀ c ∈ tail.head?, isSeparator c = true) :
    codeWords (gap ++ w ++ tail) = w :: codeWords tail := by
  have hblank : blankLiterals .code (gap ++ w ++ tail) =
      gap ++ (w ++ blankLiterals .code tail) := by
    rw [List.append_assoc,
      blankLiterals_code_append fun c hc => not_isQuote_of_isSeparator (hg c hc),
      blankLiterals_code_append fun c hc => not_isQuote_of_isIdentChar (hw c hc)]
  have hhead : ∀ c ∈ (blankLiterals .code tail).head?, (!Go.isIdentChar c) = true := by
    intro c hc
    rcases head_blankLiterals hc with rfl | hc
    · decide
    · simp [not_isIdentChar_of_isSeparator (ht c hc)]
  rw [codeWords_eq_partsWith, hblank,
    Text.partsWith_gap_append fun c hc => by simp [not_isIdentChar_of_isSeparator (hg c hc)],
    Text.partsWith_append_word hne (by simpa using hw) hhead, codeWords_eq_partsWith]

theorem codeWords_gap_append {gap : List Char} (hg : ∀ c ∈ gap, isSeparator c = true)
    (cs : List Char) : codeWords (gap ++ cs) = codeWords cs := by
  rw [codeWords_eq_partsWith,
    blankLiterals_code_append fun c hc => not_isQuote_of_isSeparator (hg c hc),
    Text.partsWith_gap_append fun c hc => by simp [not_isIdentChar_of_isSeparator (hg c hc)],
    codeWords_eq_partsWith]

/-- Separators behind code make no word, whether a literal is open or not. -/
theorem codeWords_append_gap {gap : List Char} (hg : ∀ c ∈ gap, isSeparator c = true)
    (cs : List Char) : codeWords (cs ++ gap) = codeWords cs := by
  obtain ⟨behind, hb⟩ := exists_blankLiterals_append .code cs gap
  have hnone : ∀ c ∈ blankLiterals behind gap, (!Go.isIdentChar c) = true := by
    intro c hc
    rcases eq_space_or_mem_of_mem_blankLiterals hc with rfl | hc
    · decide
    · simp [not_isIdentChar_of_isSeparator (hg c hc)]
  rw [codeWords_eq_partsWith, hb, Text.partsWith_append_gap hnone, codeWords_eq_partsWith]

end Template

end QueryGen
