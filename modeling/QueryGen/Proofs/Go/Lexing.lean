import Mathlib.Data.List.TakeDrop
import QueryGen.Go.Identifier
import QueryGen.Go.Source.Token

/-!
# Tokens of a text that is written

What is written token by token is cut into these tokens again, as long as no token goes on with the
characters behind it.

- `Lexes`: how a text without comments is made of blanks and tokens. `tokens?_of_lexes`: it has
  these tokens.
- `isName`, `isDecimal`: names and decimal numbers.
- `word`, `mark`, `number`: tokens on one row.
- `lexes_blank`, `lexes_line`, `lexes_word`, `lexes_mark`, `lexes_point`, `lexes_number`: one blank
  or token in front of a text.
-/

namespace QueryGen.Go

/-- A text behind `gaps` is made of blanks and tokens. It begins on the given row. -/
inductive Lexes : Nat → List Gap → List Char → List Token → Prop
  | ending (row : Nat) (gaps : List Gap) : Lexes row gaps [] [⟨.ending, "", gaps.reverse, row, row⟩]
  | blank {row : Nat} {gaps : List Gap} {c : Char} {rest : List Char} {ts : List Token}
      (hc : isSpace c = true) (h : Lexes (row + newLines [c]) (.blank c :: gaps) rest ts) :
      Lexes row gaps (c :: rest) ts
  | token {row : Nat} {gaps : List Gap} {c : Char} {cs rest : List Char} {kind : TokenKind}
      {ts : List Token} (hspace : isSpace c = false)
      (hcomment : Lexeme.comment? (c :: (cs ++ rest)) = none)
      (hscan : scanToken? (c :: (cs ++ rest)) = some (kind, c :: cs, rest))
      (h : Lexes (row + newLines (c :: cs)) [] rest ts) :
      Lexes row gaps (c :: (cs ++ rest))
        (⟨kind, .ofList (c :: cs), gaps.reverse, row, row + newLines (c :: cs)⟩ :: ts)

variable {row n : Nat} {gaps : List Gap} {c : Char} {cs rest : List Char} {ts : List Token}

theorem readTokens?_of_lexes (h : Lexes row gaps cs ts) (hn : cs.length ≤ n) :
    readTokens? n row gaps cs = some ts := by
  induction h generalizing n with
  | ending row gaps => rw [readTokens?]
  | blank hc _ ih =>
    obtain ⟨n, rfl⟩ := Nat.exists_eq_add_of_lt hn
    rw [readTokens?, if_pos hc]
    exact ih (Nat.le_add_right _ _)
  | @token row gaps c cs rest kind ts hspace hcomment hscan _ ih =>
    obtain ⟨n, rfl⟩ := Nat.exists_eq_add_of_lt hn
    rw [readTokens?, if_neg (by simp [hspace]), Lexeme.cut?, hcomment, hscan]
    simp only [Option.map_none]
    rw [ih (by simp; omega), Option.map_some]

theorem tokens?_of_lexes (h : Lexes 0 [] cs ts) : tokens? cs = some ts :=
  readTokens?_of_lexes h (Nat.le_refl _)

/-- A token that holds no line end. -/
theorem Lexes.onRow {kind : TokenKind} (hspace : isSpace c = false)
    (hcomment : Lexeme.comment? (c :: (cs ++ rest)) = none)
    (hscan : scanToken? (c :: (cs ++ rest)) = some (kind, c :: cs, rest))
    (hlines : newLines (c :: cs) = 0) (h : Lexes row [] rest ts) :
    Lexes row gaps (c :: (cs ++ rest))
      (⟨kind, .ofList (c :: cs), gaps.reverse, row, row⟩ :: ts) := by
  have h' : Lexes (row + newLines (c :: cs)) [] rest ts := by rwa [hlines]
  have htoken : Lexes row gaps (c :: (cs ++ rest)) _ := .token hspace hcomment hscan h'
  rwa [hlines] at htoken

/-! ## Blanks -/

theorem lexes_blank (h : Lexes row (.blank ' ' :: gaps) rest ts) :
    Lexes row gaps (' ' :: rest) ts :=
  .blank (by decide) h

theorem lexes_tab (h : Lexes row (.blank '\t' :: gaps) rest ts) :
    Lexes row gaps ('\t' :: rest) ts :=
  .blank (by decide) h

theorem lexes_line (h : Lexes (row + 1) (.blank '\n' :: gaps) rest ts) :
    Lexes row gaps ('\n' :: rest) ts :=
  .blank (by decide) h

/-! ## Marks -/

/-- A mark on a row. -/
abbrev mark (text : String) (before : List Gap) (row : Nat) : Token :=
  ⟨.mark, text, before, row, row⟩

/-- The marks of signatures and types that begin no other token. -/
def plainMarks : List Char := ['(', ')', '[', ']', '\x7b', '\x7d', '*', ',']

theorem lexes_mark (hc : c ∈ plainMarks) (h : Lexes row [] rest ts) :
    Lexes row gaps (c :: rest) (mark (.ofList [c]) gaps.reverse row :: ts) := by
  have hmark : isSpace c = false ∧ Lexeme.comment? (c :: ([] ++ rest)) = none ∧
      scanToken? (c :: ([] ++ rest)) = some (.mark, [c], rest) ∧ newLines [c] = 0 := by
    simp only [plainMarks, List.mem_cons, List.not_mem_nil, or_false] at hc
    obtain rfl | rfl | rfl | rfl | rfl | rfl | rfl | rfl := hc
    all_goals exact ⟨rfl, rfl, rfl, rfl⟩
  obtain ⟨hspace, hcomment, hscan, hlines⟩ := hmark
  exact .onRow hspace hcomment hscan hlines h

/-- A point that begins no number. -/
theorem lexes_point (hrest : ∀ d ∈ rest.head?, d.isDigit = false) (h : Lexes row [] rest ts) :
    Lexes row gaps ('.' :: rest) (mark "." gaps.reverse row :: ts) := by
  have hdigits : Lexeme.digits? Char.isDigit rest = none := by
    cases rest with
    | nil => rfl
    | cons d rest => rw [Lexeme.digits?, hrest d rfl]; rfl
  have hnumber : Lexeme.number? ('.' :: rest) = none := by
    have hfloat : Lexeme.decimalFloat? ('.' :: rest) = none := by
      unfold Lexeme.decimalFloat?
      rw [show Lexeme.digits? Char.isDigit ('.' :: rest) = none from rfl]
      show (Lexeme.digits? Char.isDigit rest).map _ = none
      rw [hdigits, Option.map_none]
    unfold Lexeme.number?
    rw [hfloat]
    rfl
  have hscan : scanToken? ('.' :: ([] ++ rest)) = some (.mark, ['.'], rest) := by
    rw [scanToken?, if_neg (by decide), List.nil_append]
    simp only [List.findSome?_cons, Lexeme.cut?, hnumber]
    rfl
  exact .onRow rfl rfl hscan rfl h

/-! ## Words -/

/-- A text that is read as one word. -/
def isNameText : List Char → Bool
  | [] => false
  | c :: rest => (Text.isNameStart c || c == '_') && rest.all Text.isNamePart

/-- A name as it stands in a text: no keyword. -/
def isName (name : String) : Bool := isNameText name.toList && !keywords.contains name

/-- A word on a row. -/
abbrev word (text : String) (before : List Gap) (row : Nat) : Token :=
  ⟨.word, text, before, row, row⟩

/-- Nothing that could go on with a name stands in front. -/
def EndsName (rest : List Char) : Prop := ∀ c ∈ rest.head?, Text.isNamePart c = false

theorem isNamePart_of_start (hc : (Text.isNameStart c || c == '_') = true) :
    Text.isNamePart c = true := by
  obtain hc | hc := Bool.or_eq_true_iff.1 hc
  · exact Text.isNamePart_of_isNameStart hc
  · rw [eq_of_beq hc]
    decide

/-- The blanks between tokens, and the slash. -/
def gapStarts : List Nat := [0x09, 0x0A, 0x0B, 0x0C, 0x0D, 0x20, 0x2F]

theorem toNat_mem_gapStarts (hc : isSpace c = true ∨ c = '/') : c.toNat ∈ gapStarts := by
  obtain hc | rfl := hc
  · simp only [isSpace, Bool.or_eq_true, beq_iff_eq, Bool.and_eq_true, decide_eq_true_eq] at hc
    obtain rfl | ⟨hl, hr⟩ := hc
    · decide
    · have hl : 9 ≤ c.toNat := hl
      have hr : c.toNat ≤ 13 := hr
      simp only [gapStarts, List.mem_cons, List.not_mem_nil, or_false]
      omega
  · decide

/-- No name begins with a blank or a slash. -/
theorem not_gapStart_of_isNamePart (hc : Text.isNamePart c = true) :
    isSpace c = false ∧ c ≠ '/' := by
  have hall : ∀ n ∈ gapStarts, Text.isNamePart (Char.ofNat n) = false := by decide
  have hnot : ¬ (isSpace c = true ∨ c = '/') := fun hgap => by
    have hpart := hall _ (toNat_mem_gapStarts hgap)
    rw [Char.ofNat_toNat, hc] at hpart
    cases hpart
  exact ⟨Bool.eq_false_iff.2 fun h => hnot (.inl h), fun h => hnot (.inr h)⟩

theorem comment?_eq_none (hc : c ≠ '/') (cs : List Char) : Lexeme.comment? (c :: cs) = none := by
  unfold Lexeme.comment?
  split
  · next heq => exact absurd (List.cons.inj heq).1 hc
  · next heq => exact absurd (List.cons.inj heq).1 hc
  · rfl

/-- A text without line ends adds no rows. -/
theorem newLines_eq_zero (hcs : ∀ c ∈ cs, Text.isNamePart c = true) : newLines cs = 0 := by
  refine List.count_eq_zero.2 fun hmem => ?_
  have hspace := (not_gapStart_of_isNamePart (hcs _ hmem)).1
  exact absurd hspace (by decide)

theorem lexes_word (text : String) (htext : isNameText text.toList = true) (hrest : EndsName rest)
    (h : Lexes row [] rest ts) :
    Lexes row gaps (text.toList ++ rest) (word text gaps.reverse row :: ts) := by
  obtain ⟨c, cs, hcs⟩ : ∃ c cs, text.toList = c :: cs := by
    cases hcs : text.toList with
    | nil => rw [hcs] at htext; cases htext
    | cons c cs => exact ⟨c, cs, rfl⟩
  rw [hcs, isNameText, Bool.and_eq_true, List.all_eq_true] at htext
  obtain ⟨hstart, hparts⟩ := htext
  have hall : ∀ d ∈ c :: cs, Text.isNamePart d = true :=
    List.forall_mem_cons.2 ⟨isNamePart_of_start hstart, hparts⟩
  obtain ⟨hspace, hslash⟩ := not_gapStart_of_isNamePart (isNamePart_of_start hstart)
  have hscan : scanToken? (c :: (cs ++ rest)) = some (.word, c :: cs, rest) := by
    have hspan : (c :: (cs ++ rest)).span Text.isNamePart = (c :: cs, rest) := by
      rw [← List.cons_append, List.span_eq_takeWhile_dropWhile,
        List.takeWhile_append_of_pos hall, List.dropWhile_append_of_pos hall]
      cases rest with
      | nil => simp
      | cons d rest => simp [hrest d rfl]
    rw [scanToken?, if_pos hstart, hspan]
  have htoken : Lexes row gaps _ _ :=
    .onRow hspace (comment?_eq_none hslash _) hscan (newLines_eq_zero hall) h
  rw [← hcs, String.ofList_toList] at htoken
  rwa [hcs, List.cons_append]

/-! ## Numbers -/

/-- Digits with single underscores in front of them. -/
def isDecimalTail : List Char → Bool
  | '_' :: c :: rest => c.isDigit && isDecimalTail rest
  | c :: rest => c.isDigit && isDecimalTail rest
  | [] => true

/-- A decimal number: a zero alone, or digits of which the first is no zero. -/
def isDecimal : List Char → Bool
  | ['0'] => true
  | c :: rest => c != '0' && c.isDigit && isDecimalTail rest
  | [] => false

/-- A number on a row. -/
abbrev number (text : String) (before : List Gap) (row : Nat) : Token :=
  ⟨.number, text, before, row, row⟩

theorem moreDigits_bracket (hcs : isDecimalTail cs = true) (rest : List Char) :
    Lexeme.moreDigits Char.isDigit (cs ++ ']' :: rest) = ']' :: rest := by
  fun_induction isDecimalTail cs with
  | case1 c cs ih =>
    rw [Bool.and_eq_true] at hcs
    rw [List.cons_append, List.cons_append, Lexeme.moreDigits, if_pos hcs.1]
    exact ih hcs.2
  | case2 c cs hnot ih =>
    rw [Bool.and_eq_true] at hcs
    have hne : c ≠ '_' := by
      rintro rfl
      exact absurd hcs.1 (by decide)
    rw [List.cons_append, Lexeme.moreDigits.eq_2 _ _ _ (fun _ _ heq _ => hne heq), if_pos hcs.1]
    exact ih hcs.2
  | case3 => rfl

theorem digits?_bracket (hc : c.isDigit = true) (hcs : isDecimalTail cs = true)
    (rest : List Char) :
    Lexeme.digits? Char.isDigit (c :: (cs ++ ']' :: rest)) = some (']' :: rest) := by
  rw [Lexeme.digits?, if_pos hc, moreDigits_bracket hcs]

/-- A decimal number in front of a bracket is read as it is. -/
theorem number?_bracket (hcs : isDecimal cs = true) (rest : List Char) :
    Lexeme.number? (cs ++ ']' :: rest) = some (']' :: rest) := by
  fun_cases isDecimal cs with
  | case1 => rfl
  | case2 c cs hzero =>
    simp only [isDecimal, Bool.and_eq_true, bne_iff_ne, ne_eq] at hcs
    obtain ⟨⟨hne, hc⟩, htail⟩ := hcs
    have hdigits := digits?_bracket hc htail rest
    have hinteger : Lexeme.integer? (c :: (cs ++ ']' :: rest)) = some (']' :: rest) := by
      have hbased : Lexeme.basedInteger? (c :: (cs ++ ']' :: rest)) = none := by
        refine List.findSome?_eq_none_iff.2 fun base _ => ?_
        exact Lexeme.based?.eq_2 _ _ _ fun more heq => hne (List.cons.inj heq).1
      unfold Lexeme.integer?
      rw [hbased]
      split
      · next heq => cases heq
      · next heq => exact absurd (List.cons.inj heq).1 hne
      · exact hdigits
    have hfloat : Lexeme.decimalFloat? (c :: (cs ++ ']' :: rest)) = none := by
      unfold Lexeme.decimalFloat?
      rw [hdigits]
      rfl
    have hhex : Lexeme.hexFloat? (c :: (cs ++ ']' :: rest)) = none :=
      Lexeme.hexFloat?.eq_2 _ fun more heq => hne (List.cons.inj heq).1
    rw [List.cons_append, Lexeme.number?, hinteger, hfloat, hhex, hdigits]
    rfl
  | case3 => cases hcs

theorem cut?_append {f : Lexeme.Behind} (h : f (cs ++ rest) = some rest) :
    Lexeme.cut? f (cs ++ rest) = some (cs, rest) := by
  rw [Lexeme.cut?, h, Option.map_some, List.length_append, Nat.add_sub_cancel, List.take_left]

theorem isNamePart_of_isDigit (hc : c.isDigit = true) : Text.isNamePart c = true := by
  have hlow : c.toNat < 0x80 := by
    simp only [Char.isDigit, Bool.and_eq_true, decide_eq_true_eq] at hc
    exact Nat.lt_of_le_of_lt hc.2 (by decide)
  rw [Text.isNamePart, if_pos hlow, Char.isAlphanum, hc]
  simp

theorem not_start_of_isDigit (hc : c.isDigit = true) :
    (Text.isNameStart c || c == '_') = false := by
  simp only [Char.isDigit, Bool.and_eq_true, decide_eq_true_eq] at hc
  have hl : 48 ≤ c.toNat := hc.1
  have hr : c.toNat ≤ 57 := hc.2
  have hall : ∀ n < 10, (Text.isNameStart (Char.ofNat (48 + n)) ||
      Char.ofNat (48 + n) == '_') = false := by decide
  have hdigit := hall (c.toNat - 48) (by omega)
  rwa [Nat.add_sub_cancel' hl, Char.ofNat_toNat] at hdigit

theorem isNamePart_of_isDecimalTail (hcs : isDecimalTail cs = true) :
    ∀ c ∈ cs, Text.isNamePart c = true := by
  fun_induction isDecimalTail cs with
  | case1 c cs ih =>
    rw [Bool.and_eq_true] at hcs
    exact List.forall_mem_cons.2 ⟨by decide,
      List.forall_mem_cons.2 ⟨isNamePart_of_isDigit hcs.1, ih hcs.2⟩⟩
  | case2 c cs _ ih =>
    rw [Bool.and_eq_true] at hcs
    exact List.forall_mem_cons.2 ⟨isNamePart_of_isDigit hcs.1, ih hcs.2⟩
  | case3 => exact List.forall_mem_nil _

/-- A decimal number begins with a digit and has the characters of names only. -/
theorem exists_digit_of_isDecimal (hcs : isDecimal cs = true) : ∃ c rest, cs = c :: rest ∧
    c.isDigit = true ∧ ∀ d ∈ cs, Text.isNamePart d = true := by
  fun_cases isDecimal cs with
  | case1 => exact ⟨'0', [], rfl, rfl, List.forall_mem_singleton.2 (by decide)⟩
  | case2 c rest hzero =>
    simp only [isDecimal, Bool.and_eq_true] at hcs
    exact ⟨c, rest, rfl, hcs.1.2, List.forall_mem_cons.2
      ⟨isNamePart_of_isDigit hcs.1.2, isNamePart_of_isDecimalTail hcs.2⟩⟩
  | case3 => cases hcs

theorem lexes_number {text : String} (htext : isDecimal text.toList = true)
    (h : Lexes row [] (']' :: rest) ts) :
    Lexes row gaps (text.toList ++ ']' :: rest) (number text gaps.reverse row :: ts) := by
  obtain ⟨c, cs, hcs, hdigit, hparts⟩ := exists_digit_of_isDecimal htext
  have hnumber := number?_bracket htext rest
  rw [hcs] at hnumber hparts
  obtain ⟨hspace, hslash⟩ := not_gapStart_of_isNamePart (isNamePart_of_isDigit hdigit)
  have hscan : scanToken? (c :: (cs ++ ']' :: rest)) = some (.number, c :: cs, ']' :: rest) := by
    have hcut : Lexeme.cut? Lexeme.number? (c :: (cs ++ ']' :: rest)) =
        some (c :: cs, ']' :: rest) := cut?_append hnumber
    rw [scanToken?, if_neg (by simp [not_start_of_isDigit hdigit])]
    simp only [List.findSome?_cons, hcut, Option.map_some]
  have htoken : Lexes row gaps _ _ :=
    .onRow hspace (comment?_eq_none hslash _) hscan (newLines_eq_zero hparts) h
  rw [← hcs, String.ofList_toList] at htoken
  rwa [hcs, List.cons_append]

end QueryGen.Go
