import Mathlib.Data.List.DropRight
import QueryGen.Proofs.Go.Unquote
import QueryGen.Proofs.Text.Lines

/-!
# Texts as literals

A text is quoted character by character. What is escaped depends on the backslashes in front of it,
which can be many, so a quote inside a literal is told from the closing one by their number.

- `Escapes`: an odd number of backslashes at the end of a text.
- `escapes_of_flatMap`: every quote inside a quoted text is escaped.
- `IsLiteralOf`: an interpreted string literal on one line that stands for a text.
- `isLiteralOf_quote`: a quoted text is one of that text, so no two texts are quoted alike.
-/

namespace QueryGen.Go

variable {c d : Char} {cs front back : List Char}

/-! ## Escaped characters -/

/-- The character behind a text is escaped: an odd number of backslashes stands in front of it. -/
def Escapes (front : List Char) : Prop := (front.rtakeWhile (· = '\\')).length % 2 = 1

instance (front : List Char) : Decidable (Escapes front) := inferInstanceAs (Decidable (_ = _))

theorem not_escapes_nil : ¬Escapes [] := by decide

/-- A backslash escapes what follows it unless it is escaped itself. -/
theorem escapes_concat : Escapes (front ++ [c]) ↔ c = '\\' ∧ ¬Escapes front := by
  unfold Escapes
  by_cases hc : c = '\\'
  · rw [List.rtakeWhile_concat_pos (p := (· = '\\')) (h := by simpa using hc), List.length_append,
      List.length_singleton]
    simp only [hc, true_and]
    omega
  · rw [List.rtakeWhile_concat_neg (p := (· = '\\')) (h := by simpa using hc)]
    simp [hc]

/-- What does not escape the character behind it may be left out. -/
theorem escapes_append_iff (h : ¬Escapes front) (cs : List Char) :
    Escapes (front ++ cs) ↔ Escapes cs := by
  induction cs using List.reverseRecOn with
  | nil => simpa [not_escapes_nil] using h
  | append_singleton cs c ih => rw [← List.append_assoc, escapes_concat, escapes_concat, ih]

/-! ## Quoted characters -/

/-- A character is written as it is, behind a backslash, or by its number. -/
theorem quoteChar_cases (c : Char) :
    (quoteChar c = [c] ∧ c ≠ '"' ∧ c ≠ '\\' ∧ Text.isControl c = false) ∨
    (∃ d ∈ ['"', '\\', 'n', 'r', 't'], quoteChar c = ['\\', d]) ∨
    quoteChar c = '\\' :: 'u' :: hex4 c.toNat := by
  unfold quoteChar
  split
  case h_6 hquote hback _ _ _ =>
    split
    · exact .inr (.inr rfl)
    · next hc => exact .inl ⟨rfl, hquote, hback, by simpa using hc⟩
  all_goals exact .inr (.inl ⟨_, by decide, rfl⟩)

theorem isControl_of_mem_hex4 {n : Nat} (h : c ∈ hex4 n) : Text.isControl c = false := by
  have hdigit : ∀ d < 16, Text.isControl (Nat.digitChar d) = false := by decide
  obtain ⟨d, hd, rfl⟩ := List.mem_map.1 h
  refine hdigit d ?_
  simp only [List.mem_cons, List.not_mem_nil, or_false] at hd
  omega

theorem isControl_of_mem_quoteChar (h : d ∈ quoteChar c) : Text.isControl d = false := by
  have hescape : ∀ e ∈ ['"', '\\', 'n', 'r', 't'], Text.isControl e = false := by
    simp only [List.forall_mem_cons, List.not_mem_nil, IsEmpty.forall_iff, implies_true, and_true]
    decide
  rcases quoteChar_cases c with ⟨he, -, -, hc⟩ | ⟨e, hmem, he⟩ | he
  · rw [he, List.mem_singleton] at h
    rwa [h]
  · rw [he, List.mem_pair] at h
    rcases h with rfl | rfl
    · decide
    · exact hescape d hmem
  · rw [he, List.mem_cons, List.mem_cons] at h
    rcases h with rfl | rfl | h
    · decide
    · decide
    · exact isControl_of_mem_hex4 h

/-- A quoted character escapes nothing behind it. -/
theorem not_escapes_quoteChar (c : Char) : ¬Escapes (quoteChar c) := by
  have hpair : ∀ d ∈ ['"', '\\', 'n', 'r', 't'], ¬Escapes ['\\', d] := by
    simp only [List.forall_mem_cons, List.not_mem_nil, IsEmpty.forall_iff, implies_true, and_true]
    decide
  rcases quoteChar_cases c with ⟨he, -, hback, -⟩ | ⟨d, hd, he⟩ | he
  · rw [he]
    exact fun h => hback (escapes_concat.1 (show Escapes ([] ++ [c]) from h)).1
  · rw [he]
    exact hpair d hd
  · have hlast : Nat.digitChar (c.toNat % 16) ≠ '\\' :=
      (ne_of_mem_hex4 (n := c.toNat) (by simp [hex4])).2
    rw [he]
    exact fun h => hlast (escapes_concat.1 (show Escapes (['\\', 'u', _, _, _] ++ [_]) from h)).1

/-- A quote in a quoted character is escaped. -/
theorem escapes_of_quoteChar (h : quoteChar c = front ++ '"' :: back) : Escapes front := by
  rcases quoteChar_cases c with ⟨he, hquote, -⟩ | ⟨d, hd, he⟩ | he
  · have hmem : '"' ∈ [c] := by simp [← he, h]
    exact absurd (List.mem_singleton.1 hmem).symm hquote
  · rw [he] at h
    rcases front with _ | ⟨a, _ | ⟨b, more⟩⟩
    · cases h
    · obtain rfl : '\\' = a := (List.cons.inj h).1
      decide
    · simp at h
  · have hmem : '"' ∈ '\\' :: 'u' :: hex4 c.toNat := by simp [← he, h]
    simp only [List.mem_cons] at hmem
    rcases hmem with hmem | hmem | hmem
    · cases hmem
    · cases hmem
    · exact absurd rfl (ne_of_mem_hex4 hmem).1

/-- So is every quote in a quoted text. -/
theorem escapes_of_flatMap (h : cs.flatMap quoteChar = front ++ '"' :: back) : Escapes front := by
  induction cs generalizing front with
  | nil => simp at h
  | cons c rest ih =>
    rw [List.flatMap_cons] at h
    rcases List.append_eq_append_iff.1 h with ⟨t, rfl, ht⟩ | ⟨t, ht, htail⟩
    · rw [escapes_append_iff (not_escapes_quoteChar c)]
      exact ih ht
    · cases t with
      | nil =>
        rw [List.nil_append] at htail
        have hnil : Escapes [] := ih htail.symm
        exact absurd hnil not_escapes_nil
      | cons d more =>
        obtain ⟨rfl, -⟩ := List.cons.inj htail
        exact escapes_of_quoteChar ht

/-! ## Literals -/

/-- An interpreted string literal on one line that stands for a text. -/
structure IsLiteralOf (text literal : List Char) : Prop where
  /-- It stands between quotes, and every quote inside is escaped. -/
  quoted : ∃ body, literal = '"' :: (body ++ ['"']) ∧
    ∀ front back, body = front ++ '"' :: back → Escapes front
  noControl : ∀ c ∈ literal, Text.isControl c = false
  oneLine : Text.lines literal = [literal]
  /-- Its escapes are read as the characters of the text. -/
  decoded : unquote? literal = some text

theorem isControl_of_mem_quoteText (h : c ∈ quoteText cs) : Text.isControl c = false := by
  rw [quoteText, List.mem_cons, List.mem_append, List.mem_singleton, List.mem_flatMap] at h
  rcases h with rfl | ⟨d, -, h⟩ | rfl
  · decide
  · exact isControl_of_mem_quoteChar h
  · decide

/-- Without control characters a text is one line. -/
theorem lines_of_isControl (hne : cs ≠ []) (h : ∀ c ∈ cs, Text.isControl c = false) :
    Text.lines cs = [cs] := by
  have hnot : ∀ d, Text.isControl d = true → d ∉ cs := fun d hd hmem => by
    rw [h d hmem] at hd
    cases hd
  have hline : Text.IsLine cs :=
    ⟨hnot '\n' (by decide), fun hlast => hnot '\r' (by decide) (List.mem_of_getLast? hlast)⟩
  have hjoin : Text.lines (Text.join ['\n'] [cs]) = [cs] :=
    Text.lines_join (by simpa using hline) (by simpa using hne)
  simpa using hjoin

/-- A quoted text is a literal of that text. No two texts are quoted alike. -/
theorem isLiteralOf_quote :
    (∀ s, IsLiteralOf s.toList (quote s).toList) ∧ Function.Injective quote := by
  have hliteral : ∀ s, (quote s).toList = quoteText s.toList := fun s => String.toList_ofList
  constructor
  · intro s
    rw [hliteral]
    exact {
      quoted := ⟨_, rfl, fun _ _ => escapes_of_flatMap⟩
      noControl := fun _ => isControl_of_mem_quoteText
      oneLine := lines_of_isControl (List.cons_ne_nil _ _) fun _ => isControl_of_mem_quoteText
      decoded := unquote?_quoteText s.toList }
  · intro s t h
    have hsame : quoteText s.toList = quoteText t.toList := by rw [← hliteral, h, hliteral]
    have hread := unquote?_quoteText s.toList
    rw [hsame, unquote?_quoteText] at hread
    exact String.toList_inj.1 (Option.some.inj hread).symm

end QueryGen.Go
