import QueryGen.Proofs.Template.Words

/-!
# How directives are spelled

- `Directive.IsSpelled`: the texts of each directive. Exactly these are read as it
  (`readDirective_eq_ok_iff`).
- `Directive.text`: one text for each directive, which stands for it (`classify_text`).
- `section_of_readBody`: the section that a directive adds.
-/

namespace QueryGen.Template

/-- The texts that spell a directive. -/
inductive Directive.IsSpelled : Directive → List Char → Prop
  | branch {tail : List Char} (hs : ∀ c ∈ tail.head?, isSeparator c = true)
      (hne : Text.trim tail ≠ []) :
      IsSpelled (.branch (.ofList (Text.trim tail))) (['i', 'f'] ++ tail)
  | otherwise {cs : List Char} (hw : directiveWords cs = ["else".toList]) :
      IsSpelled (.otherwise none) cs
  | otherwiseIf {gap tail : List Char} (hgap : gap ≠ []) (hg : ∀ c ∈ gap, Text.isBlank c = true)
      (hs : ∀ c ∈ tail.head?, isSeparator c = true) (hne : Text.trim tail ≠ []) :
      IsSpelled (.otherwise (some (.ofList (Text.trim tail))))
        (['e', 'l', 's', 'e'] ++ (gap ++ (['i', 'f'] ++ tail)))
  | loop {cs : List Char} {index value range : String}
      (hw : directiveWords cs = ["for", index, value, "range", range].map String.toList)
      (hi : isLoopVariable index.toList = true) (hv : isLoopVariable value.toList = true) :
      IsSpelled (.loop index value range) cs
  | join {cs : List Char} {kind : JoinKind} (hw : directiveWords cs = [kind.keyword.toList]) :
      IsSpelled (.join kind) cs
  | close {cs : List Char} (hw : directiveWords cs = ["end".toList]) : IsSpelled .close cs

/-! ## Keywords and gaps -/

theorem not_isSeparator_of_isIdentChar {c : Char} (h : Go.isIdentChar c = true) :
    isSeparator c = false := by
  cases hs : isSeparator c with
  | false => rfl
  | true => rw [not_isIdentChar_of_isSeparator hs] at h; cases h

/-- The words that directives are made of. -/
def keywords : List (List Char) :=
  ["if", "else", "for", "range", "where", "set", "end"].map String.toList

/-- What is printed between the words of a directive. -/
def gaps : List (List Char) := [[' '], [',', ' '], [' ', ':', '=', ' ']]

theorem isIdentChar_of_mem_keywords {w : List Char} (hw : w ∈ keywords) :
    ∀ c ∈ w, Go.isIdentChar c = true := by
  have hall : ∀ w ∈ keywords, w.all Go.isIdentChar = true := by decide
  exact List.all_eq_true.1 (hall w hw)

theorem not_isSeparator_of_mem_keywords {w : List Char} (hw : w ∈ keywords) :
    ∀ c ∈ w, isSeparator c = false :=
  fun c hc => not_isSeparator_of_isIdentChar (isIdentChar_of_mem_keywords hw c hc)

theorem isSeparator_of_mem_gaps {gap : List Char} (hg : gap ∈ gaps) :
    ∀ c ∈ gap, isSeparator c = true := by
  have hall : ∀ gap ∈ gaps, gap.all isSeparator = true := by decide
  exact List.all_eq_true.1 (hall gap hg)

/-! ## Conditions -/

theorem condition_eq_ok_iff {cs : List Char} {cond : String} :
    condition cs = .ok cond ↔
      ∃ tail, cs = ['i', 'f'] ++ tail ∧ Text.trim tail ≠ [] ∧ cond = .ofList (Text.trim tail) := by
  unfold condition
  split
  · next hp =>
    refine ⟨fun h => (nomatch h), fun ⟨tail, he, _⟩ => ?_⟩
    have hprefix : (['i', 'f'].isPrefixOf? cs).isSome = true := by simp [he]
    simp [hp] at hprefix
  · next rest hp =>
    rw [List.isPrefixOf?_eq_some_iff_append_eq] at hp
    simp only []
    constructor
    · intro h
      split at h
      · cases h
      · next hne =>
        cases h
        exact ⟨rest, hp.symm, hne, rfl⟩
    · rintro ⟨tail, he, hne, rfl⟩
      obtain rfl : rest = tail := List.append_cancel_left (hp.trans he)
      rw [if_neg hne]

/-- A cut behind some bytes is behind no more characters. -/
theorem length_le_of_splitBytes? {n : Nat} {cs before after : List Char}
    (h : Text.splitBytes? n cs = some (before, after)) : before.length ≤ n := by
  fun_induction Text.splitBytes? n cs generalizing before with
  | case1 =>
    cases h
    simp
  | case2 => simp at h
  | case3 n c rest hc ih =>
    obtain ⟨⟨b, a⟩, hb, he⟩ := Option.map_eq_some_iff.1 h
    cases he
    have := ih hb
    have := c.utf8Size_pos
    simp only [List.length_cons]
    omega
  | case4 => simp at h

theorem splitBytes?_else (tail : List Char) :
    Text.splitBytes? 4 (['e', 'l', 's', 'e'] ++ tail) = some (['e', 'l', 's', 'e'], tail) := by
  have h1 : 'e'.utf8Size = 1 ∧ 'l'.utf8Size = 1 ∧ 's'.utf8Size = 1 := by decide
  simp [Text.splitBytes?, h1]

/-- Where an `if` comes behind a cut at four bytes and blanks, the cut is behind `else`, and no
separator is in front of that. -/
theorem gap_eq_nil_of_append {gap tail before blanks rest : List Char}
    (hg : ∀ c ∈ gap, isSeparator c = true) (hlen : before.length ≤ 4)
    (hb : ∀ c ∈ blanks, Text.isBlank c = true)
    (h : before ++ (blanks ++ 'i' :: rest) = (gap ++ ['e', 'l', 's', 'e']) ++ tail) : gap = [] := by
  have hlong : (gap ++ ['e', 'l', 's', 'e']).length ≤ before.length → gap = [] := fun hle =>
    List.eq_nil_of_length_eq_zero (by simp at hle; omega)
  have hi : 'i' ∉ gap ++ ['e', 'l', 's', 'e'] := by
    intro hmem
    rcases List.mem_append.1 hmem with hmem | hmem
    · exact absurd (hg 'i' hmem) (by decide)
    · exact absurd hmem (by decide)
  have hblank : 'e' ∉ blanks := fun hmem => absurd (hb 'e' hmem) (by decide)
  rcases List.append_eq_append_iff.1 h with ⟨x, hx, hrest⟩ | ⟨x, hx, -⟩
  · by_cases hne : x = []
    · exact hlong (by rw [hx, hne, List.append_nil])
    have hlast := congrArg List.getLast? hx
    rw [List.getLast?_append_of_ne_nil _ hne, List.getLast?_append_of_ne_nil _ (by simp)] at hlast
    have he : 'e' ∈ x := List.mem_of_getLast? hlast.symm
    rcases List.append_eq_append_iff.1 hrest with ⟨y, rfl, hy⟩ | ⟨y, rfl, -⟩
    · cases y with
      | nil => exact absurd (by simpa using he) hblank
      | cons c more =>
        obtain ⟨rfl, -⟩ := List.cons.inj hy
        exact absurd (by simp [hx]) hi
    · exact absurd (List.mem_append_left _ he) hblank
  · exact hlong (hx ▸ (List.prefix_append _ x).length_le)

/-- Nothing but blanks stands between `else` and `if`, and nothing before `else`. -/
theorem elseCondition_eq_ok_iff {gap tail : List Char} {cond : String}
    (hg : ∀ c ∈ gap, isSeparator c = true) :
    elseCondition (gap ++ ['e', 'l', 's', 'e'] ++ tail) = .ok cond ↔
      gap = [] ∧ condition (Text.trimStart tail) = .ok cond := by
  unfold elseCondition
  constructor
  · intro h
    split at h
    · next before rest hcut =>
      obtain ⟨more, hmore, -⟩ := condition_eq_ok_iff.1 h
      have happ : before ++ (rest.takeWhile Text.isBlank ++ 'i' :: ('f' :: more)) =
          gap ++ ['e', 'l', 's', 'e'] ++ tail := by
        have hrest : rest.takeWhile Text.isBlank ++ Text.trimStart rest = rest :=
          List.takeWhile_append_dropWhile
        rw [hmore] at hrest
        exact (congrArg (before ++ ·) hrest).trans (Text.append_of_splitBytes? hcut)
      have hnil : gap = [] := gap_eq_nil_of_append hg (length_le_of_splitBytes? hcut)
        (fun c hc => List.mem_takeWhile_imp hc) happ
      subst hnil
      rw [List.nil_append, splitBytes?_else] at hcut
      cases hcut
      exact ⟨rfl, h⟩
    · cases h
  · rintro ⟨rfl, h⟩
    rw [List.nil_append, splitBytes?_else]
    exact h

/-! ## Directives -/

theorem map_ofList_eq_iff {ws : List (List Char)} {names : List String} :
    ws.map String.ofList = names ↔ ws = names.map String.toList := by
  constructor
  · rintro rfl
    simp
  · rintro rfl
    simp

/-- A condition behind `if` as the first word. -/
theorem exists_of_condition {cs : List Char} {words : List (List Char)} {cond : String}
    (hw : directiveWords cs = ['i', 'f'] :: words) (h : condition cs = .ok cond) :
    ∃ tail, cs = ['i', 'f'] ++ tail ∧ (∀ c ∈ tail.head?, isSeparator c = true) ∧
      Text.trim tail ≠ [] ∧ cond = .ofList (Text.trim tail) := by
  obtain ⟨tail, rfl, hne, hcond⟩ := condition_eq_ok_iff.1 h
  exact ⟨tail, rfl,
    Text.head_of_partsWith_append (not_isSeparator_of_mem_keywords (by decide)) hw, hne, hcond⟩

/-- The texts that are read as a directive are those that spell it. -/
theorem isSpelled_of_readDirective {cs : List Char} {d : Directive}
    (h : readDirective cs = .ok d) : d.IsSpelled cs := by
  unfold readDirective at h
  simp only [] at h
  split at h
  · cases h
  · next words hw =>
    obtain ⟨cond, hc, h⟩ := bind_eq_ok_iff.1 h
    cases h
    obtain ⟨tail, rfl, hs, hne, rfl⟩ := exists_of_condition (map_ofList_eq_iff.1 hw) hc
    exact .branch hs hne
  · next hw =>
    cases h
    exact .otherwise (map_ofList_eq_iff.1 hw)
  · next words hw =>
    obtain ⟨cond, hc, h⟩ := bind_eq_ok_iff.1 h
    cases h
    obtain ⟨gap, tail, rfl, hgap, -, -, htail, hwords⟩ :=
      Text.exists_of_partsWith_eq_cons (map_ofList_eq_iff.1 hw)
    obtain ⟨rfl, hcond⟩ := (elseCondition_eq_ok_iff hgap).1 hc
    have hblank : ∀ c ∈ tail.takeWhile Text.isBlank, Text.isBlank c = true :=
      fun c hc => List.mem_takeWhile_imp hc
    have hcut : tail.takeWhile Text.isBlank ++ Text.trimStart tail = tail :=
      List.takeWhile_append_dropWhile
    rw [← hcut,
      Text.partsWith_gap_append fun c hc => isSeparator_of_isBlank (hblank c hc)] at hwords
    obtain ⟨more, hmore, hs, hne, rfl⟩ := exists_of_condition hwords hcond
    rw [hmore] at hcut
    rw [← hcut, List.nil_append]
    refine .otherwiseIf (fun hnil => ?_) hblank hs hne
    rw [hnil] at hcut
    exact absurd (htail 'i' (by rw [← hcut]; rfl)) (by decide)
  · next words hw =>
    split at h
    · next i v r =>
      split at h
      · next hvars =>
        cases h
        obtain ⟨hi, hv⟩ := Bool.and_eq_true_iff.1 hvars
        exact .loop (map_ofList_eq_iff.1 hw) hi hv
      · cases h
    · cases h
  · next hw =>
    cases h
    exact .join (map_ofList_eq_iff.1 hw)
  · next hw =>
    cases h
    exact .join (map_ofList_eq_iff.1 hw)
  · next hw =>
    cases h
    exact .close (map_ofList_eq_iff.1 hw)
  · cases h

theorem directiveWords_else_if {gap tail : List Char} (hgap : gap ≠ [])
    (hg : ∀ c ∈ gap, Text.isBlank c = true) (hs : ∀ c ∈ tail.head?, isSeparator c = true) :
    directiveWords (['e', 'l', 's', 'e'] ++ (gap ++ (['i', 'f'] ++ tail))) =
      ['e', 'l', 's', 'e'] :: ['i', 'f'] :: directiveWords tail := by
  have hgs : ∀ c ∈ gap, isSeparator c = true := fun c hc => isSeparator_of_isBlank (hg c hc)
  calc Text.partsWith isSeparator (['e', 'l', 's', 'e'] ++ (gap ++ (['i', 'f'] ++ tail)))
      = ['e', 'l', 's', 'e'] :: Text.partsWith isSeparator (['i', 'f'] ++ tail) :=
        Text.partsWith_word_gap (by simp) (not_isSeparator_of_mem_keywords (by decide)) hgap hgs _
    _ = ['e', 'l', 's', 'e'] :: ['i', 'f'] :: Text.partsWith isSeparator tail := by
        rw [Text.partsWith_append_word (by simp) (not_isSeparator_of_mem_keywords (by decide)) hs]

theorem readDirective_of_isSpelled {cs : List Char} {d : Directive} (h : d.IsSpelled cs) :
    readDirective cs = .ok d := by
  cases h with
  | @branch tail hs hne =>
    have hw : directiveWords (['i', 'f'] ++ tail) = ['i', 'f'] :: directiveWords tail :=
      Text.partsWith_append_word (by simp) (not_isSeparator_of_mem_keywords (by decide)) hs
    have hc := condition_eq_ok_iff.2 ⟨tail, rfl, hne, rfl⟩
    rw [readDirective, hw, hc]
    rfl
  | otherwise hw =>
    rw [readDirective, hw]
    rfl
  | @otherwiseIf gap tail hgap hg hs hne =>
    have hnone : ∀ c ∈ ([] : List Char), isSeparator c = true := by simp
    have hc : elseCondition (['e', 'l', 's', 'e'] ++ (gap ++ (['i', 'f'] ++ tail))) =
        .ok (.ofList (Text.trim tail)) := by
      refine (elseCondition_eq_ok_iff hnone).2 ⟨rfl, ?_⟩
      rw [Text.trimStart_append hg (by simp [show Text.isBlank 'i' = false by decide])]
      exact condition_eq_ok_iff.2 ⟨tail, rfl, hne, rfl⟩
    rw [readDirective, directiveWords_else_if hgap hg hs, hc]
    rfl
  | @loop _ index value range hw hi hv =>
    rw [readDirective, map_ofList_eq_iff.2 hw]
    simp [hi, hv]
  | @join _ kind hw =>
    rw [readDirective, hw]
    cases kind <;> rfl
  | close hw =>
    rw [readDirective, hw]
    rfl

/-- Exactly the texts that spell a directive are read as it. -/
theorem readDirective_eq_ok_iff {cs : List Char} {d : Directive} :
    readDirective cs = .ok d ↔ d.IsSpelled cs :=
  ⟨isSpelled_of_readDirective, readDirective_of_isSpelled⟩

/-! ## Go code in a directive -/

/-- The Go code that a directive carries behind its keywords. -/
def Directive.code : Directive → List Char
  | .branch cond => cond.toList
  | .otherwise (some cond) => cond.toList
  | .loop _ _ range => range.toList
  | _ => []

/-- The words of a directive before its Go code. -/
def Directive.leading : Directive → List String
  | .branch _ => ["if"]
  | .otherwise none => ["else"]
  | .otherwise (some _) => ["else", "if"]
  | .loop index value _ => ["for", index, value, "range"]
  | .join kind => [kind.keyword]
  | .close => ["end"]

/-- A character that neither opens nor closes anything in a directive. -/
def isInert (c : Char) : Bool := !isQuote c && c != '{' && c != '}'

theorem isInert_of_isSeparator {c : Char} (h : isSeparator c = true) : isInert c = true := by
  simp only [isInert, not_isQuote_of_isSeparator h, Bool.not_false, Bool.true_and, Bool.and_eq_true,
    bne_iff_ne, ne_eq]
  constructor <;> rintro rfl <;> exact absurd h (by decide)

theorem isInert_of_isIdentChar {c : Char} (h : Go.isIdentChar c = true) : isInert c = true := by
  simp only [isInert, not_isQuote_of_isIdentChar h, Bool.not_false, Bool.true_and, Bool.and_eq_true,
    bne_iff_ne, ne_eq]
  constructor <;> rintro rfl <;> exact absurd h (by decide)

/-- A text is inert characters, then `code`, then separators, and its words of Go code are `names`
and those of `code`. -/
def Carries (names : List String) (code cs : List Char) : Prop :=
  ∃ front back, cs = front ++ code ++ back ∧ (∀ c ∈ front, isInert c = true) ∧
    (∀ c ∈ back, isSeparator c = true) ∧
    codeWords cs = names.map String.toList ++ codeWords code

theorem Carries.of_trim (cs : List Char) : Carries [] (Text.trim cs) cs := by
  obtain ⟨front, back, he, hf, hb⟩ := Text.exists_of_trim cs
  have hf' := fun c hc => isSeparator_of_isBlank (hf c hc)
  have hb' := fun c hc => isSeparator_of_isBlank (hb c hc)
  refine ⟨front, back, he, fun c hc => isInert_of_isSeparator (hf' c hc), hb', ?_⟩
  conv_lhs => rw [he]
  rw [codeWords_append_gap hb', codeWords_gap_append hf']
  rfl

theorem Carries.of_separators {cs : List Char} (h : ∀ c ∈ cs, isSeparator c = true) :
    Carries [] [] cs :=
  ⟨[], cs, rfl, by simp, h, by simpa using codeWords_append_gap h []⟩

theorem Carries.between_separators {names : List String} {code cs front back : List Char}
    (h : Carries names code cs) (hf : ∀ c ∈ front, isSeparator c = true)
    (hb : ∀ c ∈ back, isSeparator c = true) : Carries names code (front ++ cs ++ back) := by
  obtain ⟨front', back', rfl, hf', hb', hw⟩ := h
  refine ⟨front ++ front', back' ++ back, by simp, ?_, ?_, ?_⟩
  · exact List.forall_mem_append.2 ⟨fun c hc => isInert_of_isSeparator (hf c hc), hf'⟩
  · exact List.forall_mem_append.2 ⟨hb', hb⟩
  · rw [codeWords_append_gap hb, codeWords_gap_append hf, hw]

/-- A word in front. -/
theorem Carries.cons {name : String} {names : List String} {code gap tail : List Char}
    (h : Carries names code tail) (hg : ∀ c ∈ gap, isSeparator c = true) (hne : name.toList ≠ [])
    (hn : ∀ c ∈ name.toList, Go.isIdentChar c = true)
    (ht : ∀ c ∈ tail.head?, isSeparator c = true) :
    Carries (name :: names) code (gap ++ name.toList ++ tail) := by
  obtain ⟨front, back, rfl, hf, hb, hw⟩ := h
  refine ⟨gap ++ name.toList ++ front, back, by simp, fun c hc => ?_, hb, ?_⟩
  · rcases List.mem_append.1 hc with hc | hc
    · rcases List.mem_append.1 hc with hc | hc
      · exact isInert_of_isSeparator (hg c hc)
      · exact isInert_of_isIdentChar (hn c hc)
    · exact hf c hc
  · rw [codeWords_append_word hg hne hn ht, hw]
    rfl

/-- A word in front, where the directive has it as its first. -/
theorem exists_carries_cons {name : String} (names : List String) {cs : List Char}
    {words : List (List Char)} (hw : directiveWords cs = name.toList :: words)
    (hn : ∀ c ∈ name.toList, Go.isIdentChar c = true) :
    ∃ tail, directiveWords tail = words ∧
      ∀ code, Carries names code tail → Carries (name :: names) code cs := by
  obtain ⟨gap, tail, rfl, hg, hne, -, ht, hparts⟩ := Text.exists_of_partsWith_eq_cons hw
  exact ⟨tail, hparts, fun code h => h.cons hg hne hn ht⟩

theorem Carries.of_keyword {name : String} {cs : List Char}
    (hw : directiveWords cs = [name.toList]) (hn : ∀ c ∈ name.toList, Go.isIdentChar c = true) :
    Carries [name] [] cs := by
  obtain ⟨tail, hparts, h⟩ := exists_carries_cons [] hw hn
  exact h [] (.of_separators (Text.forall_of_partsWith_eq_nil hparts))

/-- The last word of a directive, which may be any Go code. -/
theorem Carries.of_word {code cs : List Char} (hw : directiveWords cs = [code]) :
    Carries [] code cs := by
  obtain ⟨gap, tail, rfl, hg, -, -, -, hparts⟩ := Text.exists_of_partsWith_eq_cons hw
  have ht := Text.forall_of_partsWith_eq_nil hparts
  refine ⟨gap, tail, rfl, fun c hc => isInert_of_isSeparator (hg c hc), ht, ?_⟩
  rw [codeWords_append_gap ht, codeWords_gap_append hg]
  rfl

theorem isIdentChar_of_isIdentifierText {name : List Char} (h : Go.isIdentifierText name = true) :
    ∀ c ∈ name, Go.isIdentChar c = true := by
  cases name with
  | nil => simp
  | cons c rest =>
    simp only [Go.isIdentifierText, Bool.and_eq_true, List.all_eq_true] at h
    refine List.forall_mem_cons.2 ⟨?_, h.2⟩
    have hc := h.1
    simp only [Go.isIdentStart, Bool.or_eq_true] at hc
    simp only [Go.isIdentChar, Bool.or_eq_true]
    exact hc.imp_left Text.isWord_of_isLetter

/-- Every spelling of a directive has the same code, and the same words in front of it. -/
theorem carries_of_isSpelled {d : Directive} {cs : List Char} (h : d.IsSpelled cs) :
    Carries d.leading d.code cs := by
  have hif : ∀ c ∈ "if".toList, Go.isIdentChar c = true := isIdentChar_of_mem_keywords (by decide)
  have helse : ∀ c ∈ "else".toList, Go.isIdentChar c = true :=
    isIdentChar_of_mem_keywords (by decide)
  have hnone : ∀ c ∈ ([] : List Char), isSeparator c = true := by simp
  cases h with
  | @branch tail hs hne =>
    rw [Directive.code, String.toList_ofList]
    exact (Carries.of_trim tail).cons hnone (by decide) hif hs
  | otherwise hw => exact .of_keyword hw helse
  | @otherwiseIf gap tail hgap hg hs hne =>
    rw [Directive.code, String.toList_ofList]
    have hgs : ∀ c ∈ gap, isSeparator c = true := fun c hc => isSeparator_of_isBlank (hg c hc)
    have hcond : Carries ["if"] (Text.trim tail) (gap ++ (['i', 'f'] ++ tail)) := by
      rw [← List.append_assoc]
      exact (Carries.of_trim tail).cons hgs (by decide) hif hs
    exact hcond.cons hnone (by decide) helse (Text.forall_head?_append hgap hgs _)
  | @loop _ index value range hw hi hv =>
    obtain ⟨_, hw, hfor⟩ := exists_carries_cons [index, value, "range"] hw
      (isIdentChar_of_mem_keywords (by decide))
    obtain ⟨_, hw, hindex⟩ := exists_carries_cons [value, "range"] hw
      (isIdentChar_of_isIdentifierText hi)
    obtain ⟨_, hw, hvalue⟩ := exists_carries_cons ["range"] hw
      (isIdentChar_of_isIdentifierText hv)
    obtain ⟨_, hw, hrange⟩ := exists_carries_cons [] hw
      (isIdentChar_of_mem_keywords (by decide))
    exact hfor _ (hindex _ (hvalue _ (hrange _ (.of_word hw))))
  | @join _ kind hw =>
    refine .of_keyword hw (isIdentChar_of_mem_keywords ?_)
    cases kind <;> decide
  | close hw => exact .of_keyword hw (isIdentChar_of_mem_keywords (by decide))

/-! ## One text for each directive -/

/-- How a directive is written without its braces. -/
def Directive.text : Directive → String
  | .branch cond => "if " ++ cond
  | .otherwise none => "else"
  | .otherwise (some cond) => "else if " ++ cond
  | .loop index value range => "for " ++ index ++ ", " ++ value ++ " := range " ++ range
  | .join kind => kind.keyword
  | .close => "end"

theorem isBlank_of_not_isSeparator {c : Char} (h : isSeparator c = false) :
    Text.isBlank c = false := by
  cases hb : Text.isBlank c with
  | false => rfl
  | true => rw [isSeparator_of_isBlank hb] at h; cases h

theorem trimmed_of_not_isSeparator {cs : List Char} (h : ∀ c ∈ cs, isSeparator c = false) :
    Text.Trimmed cs :=
  Text.trimmed_of_forall fun c hc => isBlank_of_not_isSeparator (h c hc)

theorem trimmed_of_mem_keywords {w : List Char} (hw : w ∈ keywords) : Text.Trimmed w :=
  trimmed_of_not_isSeparator (not_isSeparator_of_mem_keywords hw)

theorem toList_text_branch (cond : String) :
    (Directive.branch cond).text.toList = ['i', 'f'] ++ ([' '] ++ cond.toList) := by
  simp [Directive.text]

theorem toList_text_otherwiseIf (cond : String) :
    (Directive.otherwise (some cond)).text.toList =
      ['e', 'l', 's', 'e'] ++ ([' '] ++ (['i', 'f'] ++ ([' '] ++ cond.toList))) := by
  simp [Directive.text]

theorem toList_text_loop (index value range : String) :
    (Directive.loop index value range).text.toList =
      ['f', 'o', 'r'] ++ ([' '] ++ (index.toList ++ ([',', ' '] ++ (value.toList ++
        ([' ', ':', '=', ' '] ++ (['r', 'a', 'n', 'g', 'e'] ++ ([' '] ++ range.toList))))))) := by
  simp [Directive.text]

theorem trim_space_trim (cs : List Char) : Text.trim ([' '] ++ Text.trim cs) = Text.trim cs := by
  have hback : ∀ c ∈ ([] : List Char), Text.isBlank c = true := by simp
  have hfront : ∀ c ∈ [' '], Text.isBlank c = true := List.forall_mem_singleton.2 Text.isBlank_space
  simpa using Text.trim_append hfront (Text.trimmed_trim cs) hback

theorem ne_nil_of_isLoopVariable {name : List Char} (h : isLoopVariable name = true) :
    name ≠ [] := by
  rintro rfl
  cases h

/-- The words of a loop's text. -/
theorem directiveWords_text_loop {index value range : String}
    (hi : isLoopVariable index.toList = true) (hv : isLoopVariable value.toList = true)
    (hne : range.toList ≠ []) (hr : ∀ c ∈ range.toList, isSeparator c = false) :
    directiveWords (Directive.loop index value range).text.toList =
      ["for", index, value, "range", range].map String.toList := by
  have hindex := fun c hc =>
    not_isSeparator_of_isIdentChar (isIdentChar_of_isIdentifierText hi c hc)
  have hvalue := fun c hc =>
    not_isSeparator_of_isIdentChar (isIdentChar_of_isIdentifierText hv c hc)
  rw [toList_text_loop, directiveWords_eq_partsWith]
  rw [Text.partsWith_word_gap (by simp) (not_isSeparator_of_mem_keywords (by decide)) (by simp)
      (isSeparator_of_mem_gaps (by decide)),
    Text.partsWith_word_gap (ne_nil_of_isLoopVariable hi) hindex (by simp)
      (isSeparator_of_mem_gaps (by decide)),
    Text.partsWith_word_gap (ne_nil_of_isLoopVariable hv) hvalue (by simp)
      (isSeparator_of_mem_gaps (by decide)),
    Text.partsWith_word_gap (by simp) (not_isSeparator_of_mem_keywords (by decide)) (by simp)
      (isSeparator_of_mem_gaps (by decide)),
    Text.partsWith_word hne hr]
  rfl

/-- The text of a directive spells it. -/
theorem isSpelled_text {d : Directive} {cs : List Char} (h : d.IsSpelled cs) :
    d.IsSpelled d.text.toList := by
  cases h with
  | @branch tail hs hne =>
    have hspace : Text.trim ([' '] ++ Text.trim tail) = Text.trim tail := trim_space_trim tail
    have hhead : ∀ c ∈ ([' '] ++ Text.trim tail).head?, isSeparator c = true :=
      Text.forall_head?_append (by simp) (isSeparator_of_mem_gaps (by decide)) _
    have hself : Directive.IsSpelled (.branch (.ofList (Text.trim ([' '] ++ Text.trim tail))))
        (['i', 'f'] ++ ([' '] ++ Text.trim tail)) :=
      .branch hhead (by rwa [hspace])
    rw [toList_text_branch, String.toList_ofList]
    rwa [hspace] at hself
  | otherwise hw => exact .otherwise rfl
  | @otherwiseIf gap tail hgap hg hs hne =>
    have hspace : Text.trim ([' '] ++ Text.trim tail) = Text.trim tail := trim_space_trim tail
    have hhead : ∀ c ∈ ([' '] ++ Text.trim tail).head?, isSeparator c = true :=
      Text.forall_head?_append (by simp) (isSeparator_of_mem_gaps (by decide)) _
    have hself : Directive.IsSpelled
        (.otherwise (some (.ofList (Text.trim ([' '] ++ Text.trim tail)))))
        (['e', 'l', 's', 'e'] ++ ([' '] ++ (['i', 'f'] ++ ([' '] ++ Text.trim tail)))) :=
      .otherwiseIf (by simp) (List.forall_mem_singleton.2 Text.isBlank_space) hhead
        (by rwa [hspace])
    rw [toList_text_otherwiseIf, String.toList_ofList]
    rwa [hspace] at hself
  | @loop _ index value range hw hi hv =>
    have hmem : range.toList ∈ directiveWords cs := by simp [hw]
    obtain ⟨hne, hr⟩ := Text.not_of_mem_partsWith hmem
    exact .loop (directiveWords_text_loop hi hv hne hr) hi hv
  | @join _ kind hw =>
    refine .join ?_
    cases kind <;> rfl
  | close hw => exact .close rfl

theorem trimmed_text {d : Directive} {cs : List Char} (h : d.IsSpelled cs) :
    Text.Trimmed d.text.toList := by
  cases h with
  | @branch tail hs hne =>
    rw [toList_text_branch, String.toList_ofList, ← List.append_assoc]
    exact .append (trimmed_of_mem_keywords (by decide)) (Text.trimmed_trim tail) (by simp) hne _
  | otherwise hw => exact trimmed_of_mem_keywords (by decide)
  | @otherwiseIf gap tail hgap hg hs hne =>
    rw [toList_text_otherwiseIf, String.toList_ofList]
    have helse : Text.Trimmed ['e', 'l', 's', 'e'] := trimmed_of_mem_keywords (by decide)
    exact helse.append (Text.trimmed_trim tail) (by simp) hne [' ', 'i', 'f', ' ']
  | @loop _ index value range hw hi hv =>
    have hmem : range.toList ∈ directiveWords cs := by simp [hw]
    obtain ⟨hne, hr⟩ := Text.not_of_mem_partsWith hmem
    have hfor : Text.Trimmed ['f', 'o', 'r'] := trimmed_of_mem_keywords (by decide)
    have happend := hfor.append (trimmed_of_not_isSeparator hr) (by simp) hne
      ([' '] ++ (index.toList ++ ([',', ' '] ++ (value.toList ++
        ([' ', ':', '=', ' '] ++ (['r', 'a', 'n', 'g', 'e'] ++ [' ']))))))
    simpa only [toList_text_loop, List.append_assoc] using happend
  | @join _ kind hw =>
    refine trimmed_of_mem_keywords ?_
    cases kind <;> decide
  | close hw => exact trimmed_of_mem_keywords (by decide)

/-! ## Reserved words -/

theorem checkReserved_eq_ok_iff {cs : List Char} :
    checkReserved cs = .ok () ↔ ∀ w ∈ codeWords cs, Reserved.isReserved (.ofList w) = false := by
  unfold checkReserved
  split
  · next w hf =>
    refine ⟨fun h => (nomatch h), fun h => ?_⟩
    have hw := h w (List.mem_of_find?_eq_some hf)
    have hr := List.find?_some hf
    rw [hw] at hr
    cases hr
  · next hf => simpa using hf

/-- A text is classified by what it spells, unless reserved words stand in its code. -/
theorem classify_eq_ok_iff {body : List Char} {d : Directive} :
    classify body = .ok d ↔ d.IsSpelled (Text.trim body) ∧
      (d.hasCode = true →
        ∀ w ∈ codeWords (Text.trim body), Reserved.isReserved (.ofList w) = false) := by
  rw [← readDirective_eq_ok_iff, ← checkReserved_eq_ok_iff, classify, bind_eq_ok_iff]
  constructor
  · rintro ⟨found, hread, h⟩
    simp only [] at h
    split at h
    · obtain ⟨_, hcheck, h⟩ := bind_eq_ok_iff.1 h
      cases h
      exact ⟨hread, fun _ => hcheck⟩
    · next hcode =>
      cases h
      exact ⟨hread, fun h => absurd h hcode⟩
  · rintro ⟨hread, hcheck⟩
    refine ⟨d, hread, ?_⟩
    split
    · next hcode => exact bind_eq_ok_iff.2 ⟨(), hcheck hcode, rfl⟩
    · rfl

/-- All spellings of a directive have the same words of Go code. -/
theorem codeWords_eq_of_isSpelled {d : Directive} {cs cs' : List Char} (h : d.IsSpelled cs)
    (h' : d.IsSpelled cs') : codeWords cs = codeWords cs' := by
  obtain ⟨_, _, _, _, _, hw⟩ := carries_of_isSpelled h
  obtain ⟨_, _, _, _, _, hw'⟩ := carries_of_isSpelled h'
  rw [hw, hw']

/-- The text of a directive stands for it, also between blanks. -/
theorem classify_text {body front back : List Char} {d : Directive} (h : classify body = .ok d)
    (hf : ∀ c ∈ front, Text.isBlank c = true) (hb : ∀ c ∈ back, Text.isBlank c = true) :
    classify (front ++ d.text.toList ++ back) = .ok d := by
  obtain ⟨hs, hcode⟩ := classify_eq_ok_iff.1 h
  have htext := isSpelled_text hs
  rw [classify_eq_ok_iff, Text.trim_append hf (trimmed_text hs) hb,
    codeWords_eq_of_isSpelled htext hs]
  exact ⟨htext, hcode⟩

/-! ## Sections of directives -/

/-- The directive that a section comes from. -/
def sectionDirective? : Section → Option Directive
  | .branch cond => some (.branch cond)
  | .otherwise cond => some (.otherwise cond)
  | .loop range => some (.loop range.index range.value range.range)
  | .join kind => some (.join kind)
  | .close => some .close
  | _ => none

theorem text_of_sectionDirective? {s : Section} {d : Directive}
    (h : sectionDirective? s = some d) : s.text = d.text ∧ s.isSql = false := by
  cases s with
  | literal text | data ref | quoted ref => cases h
  | otherwise cond =>
    cases h
    cases cond <;> exact ⟨rfl, rfl⟩
  | branch cond | loop range | join kind | close =>
    cases h
    exact ⟨rfl, rfl⟩

/-- A directive adds its section. -/
theorem section_of_readBody {scope : Scope} {receiver : Option String} {source : String}
    {r r' : Reading} {body : List Char} {d : Directive} (hd : classify body = .ok d)
    (h : readBody scope receiver source r body = .ok r') :
    ∃ s, r'.reversed = s :: r.reversed ∧ r'.buffer = r.buffer ∧ sectionDirective? s = some d := by
  unfold readBody at h
  rw [hd] at h
  cases d with
  | loop index value range =>
    obtain ⟨found, -, rfl⟩ := openRange_of_openLoop h
    exact ⟨_, rfl, rfl, rfl⟩
  | branch cond | otherwise cond | join kind | close =>
    cases h
    exact ⟨_, rfl, rfl, rfl⟩

end QueryGen.Template
