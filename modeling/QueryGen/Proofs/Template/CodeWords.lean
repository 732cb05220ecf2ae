import QueryGen.Proofs.Template.Spelling

/-!
# Words of conditions and ranges

The Go code of a template, and the words in it that stand outside string literals.

- `OutsideLiterals`: code behind which no string literal is open. A quote in code opens one
  wherever it stands.
- `IsCodeWord`: a word of code outside its literals. All of them are checked (`mem_codeWords`).
- `Section.code?`: the condition or the range of a section.
- `unreserved_of_tokenize`: no such word is a name that generated code declares.
-/

namespace QueryGen

namespace Template

/-! ## String literals -/

/-- The text between the quotes `q` of a literal. Behind a backslash any character may stand, but
not in a raw literal, where a backslash is a character like any other. -/
inductive IsInner (q : Char) : List Char → Prop
  | nil : IsInner q []
  | plain {c : Char} {rest : List Char} (hc : c ≠ q) (hb : c = '\\' → q = '\x60')
      (h : IsInner q rest) : IsInner q (c :: rest)
  | escaped {c : Char} {rest : List Char} (hq : q ≠ '\x60') (h : IsInner q rest) :
      IsInner q ('\\' :: c :: rest)

/-- Go code that ends outside string literals. -/
inductive OutsideLiterals : List Char → Prop
  | nil : OutsideLiterals []
  | char {c : Char} {rest : List Char} (hc : isQuote c = false) (h : OutsideLiterals rest) :
      OutsideLiterals (c :: rest)
  | literal {q : Char} {inner rest : List Char} (hq : isQuote q = true) (hi : IsInner q inner)
      (h : OutsideLiterals rest) : OutsideLiterals (q :: (inner ++ q :: rest))

/-- A word of Go code that stands outside string literals. -/
def IsCodeWord (w cs : List Char) : Prop :=
  ∃ before after, cs = before ++ w ++ after ∧ OutsideLiterals before ∧
    w ≠ [] ∧ (∀ c ∈ w, Go.isIdentChar c = true) ∧
    (∀ c ∈ before.getLast?, Go.isIdentChar c = false) ∧
    ∀ c ∈ after.head?, Go.isIdentChar c = false

/-- A literal ends at its second quote. -/
theorem blankLiterals_inner {q : Char} {inner : List Char} (hq : isQuote q = true)
    (h : IsInner q inner) (rest : List Char) :
    blankLiterals (.literal q) (inner ++ q :: rest) =
      List.replicate (inner.length + 1) ' ' ++ blankLiterals .code rest := by
  induction h with
  | nil => simp [blankLiterals, ne_backslash_of_isQuote hq]
  | @plain c more hc hb _ ih =>
    have hraw : ¬ (c = '\\' ∧ q ≠ '\x60') := fun hne => hne.2 (hb hne.1)
    simp [blankLiterals, hraw, hc, ih, List.replicate_succ]
  | @escaped c more hraw _ ih => simp [blankLiterals, hraw, ih, List.replicate_succ]

/-- Code behind closed literals is read as code. -/
theorem blankLiterals_append {cs : List Char} (h : OutsideLiterals cs) (rest : List Char) :
    blankLiterals .code (cs ++ rest) = blankLiterals .code cs ++ blankLiterals .code rest := by
  induction h with
  | nil => rfl
  | char hc _ ih => simp [blankLiterals, hc, ih]
  | literal hq hi _ ih => simp [blankLiterals, hq, blankLiterals_inner hq hi, ih]

theorem getLast_blankLiterals {state : CodeState} {cs : List Char} {c : Char}
    (h : c ∈ (blankLiterals state cs).getLast?) : c = ' ' ∨ c ∈ cs.getLast? := by
  rcases List.eq_nil_or_concat cs with rfl | ⟨front, d, rfl⟩
  · simp [blankLiterals] at h
  · rw [List.concat_eq_append] at h ⊢
    obtain ⟨behind, hb⟩ := exists_blankLiterals_append state front [d]
    have hne : blankLiterals behind [d] ≠ [] := fun he => by
      simpa [he] using length_blankLiterals behind [d]
    rw [hb, List.getLast?_append_of_ne_nil _ hne] at h
    have hmem := eq_space_or_mem_of_mem_blankLiterals (List.mem_of_getLast? h)
    simpa [eq_comm] using hmem

/-- Every word outside string literals is looked at. -/
theorem mem_codeWords {w cs : List Char} (h : IsCodeWord w cs) : w ∈ codeWords cs := by
  obtain ⟨before, after, rfl, hout, hne, hw, hbefore, hafter⟩ := h
  have hlast : ∀ c ∈ (blankLiterals .code before).getLast?, (!Go.isIdentChar c) = true := by
    intro c hc
    rcases getLast_blankLiterals hc with rfl | hc
    · decide
    · simp [hbefore c hc]
  have hhead : ∀ c ∈ (blankLiterals .code after).head?, (!Go.isIdentChar c) = true := by
    intro c hc
    rcases head_blankLiterals hc with rfl | hc
    · decide
    · simp [hafter c hc]
  rw [codeWords_eq_partsWith, List.append_assoc, blankLiterals_append hout,
    blankLiterals_code_append fun c hc => not_isQuote_of_isIdentChar (hw c hc),
    Text.partsWith_append hlast, Text.partsWith_append_word hne (by simpa using hw) hhead]
  exact List.mem_append_right _ List.mem_cons_self

end Template

/-! ## Code of sections -/

/-- The Go code in a section: a condition or the range of a loop. -/
def Section.code? : Section → Option String
  | branch cond => some cond
  | otherwise cond => cond
  | loop range => some range.range
  | _ => none

namespace Template

/-- The code of a section is that of its directive. -/
theorem code_of_sectionDirective? {s : Section} {d : Directive} {code : String}
    (hs : sectionDirective? s = some d) (hc : s.code? = some code) :
    d.hasCode = true ∧ d.code = code.toList := by
  cases s with
  | branch cond | loop range =>
    cases hs
    cases hc
    exact ⟨rfl, rfl⟩
  | otherwise cond =>
    cases hs
    cases hc
    exact ⟨rfl, rfl⟩
  | literal text | data ref | quoted ref | join kind | close => cases hc

/-- No word of the code in a section is a name that generated code declares. -/
def Section.Unreserved (s : Section) : Prop :=
  ∀ code ∈ s.code?, ∀ w ∈ codeWords code.toList, Reserved.isReserved (.ofList w) = false

variable {scope : Scope} {receiver : Option String} {source : String} {r r' : Reading}

theorem unreserved_flush (h : ∀ s ∈ r.reversed, Section.Unreserved s) (keepBlank : Bool) :
    ∀ s ∈ (r.flush keepBlank).reversed, Section.Unreserved s := by
  rcases reversed_flush r keepBlank with hr | ⟨text, hr⟩
  · rwa [hr]
  · rw [hr]
    exact List.forall_mem_cons.2 ⟨fun code hc => (nomatch hc), h⟩

theorem unreserved_readBody {body : List Char} (h : ∀ s ∈ r.reversed, Section.Unreserved s)
    (hn : readBody scope receiver source r body = .ok r') :
    ∀ s ∈ r'.reversed, Section.Unreserved s := by
  obtain ⟨d, hd, -⟩ := bind_eq_ok_iff.1 hn
  obtain ⟨s, hr, -, hs⟩ := section_of_readBody hd hn
  rw [hr]
  refine List.forall_mem_cons.2 ⟨fun code hc w hw => ?_, h⟩
  obtain ⟨hcode, hd'⟩ := code_of_sectionDirective? hs hc
  obtain ⟨hspelled, hwords⟩ := classify_eq_ok_iff.1 hd
  obtain ⟨_, _, _, _, _, hall⟩ := carries_of_isSpelled hspelled
  refine hwords hcode w ?_
  rw [hall, hd']
  exact List.mem_append_right _ hw

theorem unreserved_readRef {doubled : Bool} {name : List Char}
    (h : ∀ s ∈ r.reversed, Section.Unreserved s)
    (hn : readRef scope source r doubled name = .ok r') :
    ∀ s ∈ r'.reversed, Section.Unreserved s := by
  unfold readRef at hn
  split at hn
  · cases hn
    exact h
  · obtain ⟨ref, -, hn⟩ := bind_eq_ok_iff.1 hn
    have hf := unreserved_flush h true
    split at hn
    · split at hn
      · cases hn
        exact List.forall_mem_cons.2 ⟨fun code hc => (nomatch hc), hf⟩
      · cases hn
    · cases hn
      exact List.forall_mem_cons.2 ⟨fun code hc => (nomatch hc), hf⟩

theorem unreserved_readPiece {p : Piece} (h : ∀ s ∈ r.reversed, Section.Unreserved s)
    (hn : readPiece scope receiver source r p = .ok r') :
    ∀ s ∈ r'.reversed, Section.Unreserved s := by
  cases p with
  | directive body => exact unreserved_readBody (unreserved_flush h false) hn
  | ref doubled name => exact unreserved_readRef h hn
  | plain c | quoted cs | escapedAt =>
    cases hn
    exact h
  | broken rest => cases hn

/-- Conditions and ranges use no name that generated code declares. -/
theorem unreserved_of_tokenize {template : String} {sections : List Section}
    (h : tokenize template scope receiver = .ok sections) :
    ∀ s ∈ sections, Section.Unreserved s := by
  obtain ⟨r, hr, rfl⟩ := tokenize_readPiece_induction
    (P := fun r => ∀ s ∈ r.reversed, Section.Unreserved s) (by simp)
    (fun r p next _ hr hn => unreserved_readPiece hr hn) h
  intro s hs
  exact unreserved_flush hr false s (List.mem_reverse.1 hs)

end Template

end QueryGen
