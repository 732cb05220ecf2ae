import QueryGen.Proofs.Template.Spelling

/-!
# Pieces in front of other text

A piece of a template is found by looking at what follows it as well. Where the same piece is put
in front of another text, it is found again if that text does not change its reading.

- `Closed`: the bodies of directives, by the quote and the braces that are open before them.
  Exactly these are cut off before closing braces (`closed_of_directiveBody?`,
  `directiveBody?_of_closed`).
- `Closed.exchange`: code that is closed in one directive is closed in another one.
- `DotsOnly`: no name goes on in a text.
- `Piece.Fits`: texts that a piece can stand before. Every piece of a template does
  (`fits_of_firstPiece`), and before any such text it is found again (`pieces_append_of_fits`).
-/

namespace QueryGen.Template

/-! ## Quoted strings -/

theorem closeQuote?_cons {q c : Char} {rest : List Char} (hc : c ≠ '\\') :
    closeQuote? q (c :: rest) =
      if c = q then some ([c], rest) else onto [c] (closeQuote? q rest) := by
  rw [closeQuote?]
  rintro d more he -
  exact hc he

/-- A quoted string ends the same way before any other text. -/
theorem closeQuote?_append {q : Char} {cs s after : List Char} (hq : q ≠ '\\')
    (h : closeQuote? q cs = some (s, after)) (k : List Char) :
    closeQuote? q (s ++ k) = some (s, k) := by
  fun_induction closeQuote? q cs generalizing s with
  | case1 => simp at h
  | case2 c rest ih =>
    obtain ⟨b, hb, rfl⟩ := onto_eq_some_iff.1 h
    simp [closeQuote?, ih hb, onto]
  | case3 rest _ =>
    cases h
    simp [closeQuote?_cons hq]
  | case4 c rest hesc hne ih =>
    obtain ⟨b, hb, rfl⟩ := onto_eq_some_iff.1 h
    have hc : c ≠ '\\' := by
      rintro rfl
      cases rest with
      | nil => simp [closeQuote?] at hb
      | cons d more => exact hesc d more rfl rfl
    simp [closeQuote?_cons hc, hne, ih hb, onto]

theorem getLast?_of_closeQuote? {q : Char} {cs s after : List Char}
    (h : closeQuote? q cs = some (s, after)) : s.getLast? = some q := by
  fun_induction closeQuote? q cs generalizing s with
  | case1 => simp at h
  | case2 c rest ih | case4 c rest _ _ ih =>
    obtain ⟨b, hb, rfl⟩ := onto_eq_some_iff.1 h
    rw [List.getLast?_append, ih hb]
    rfl
  | case3 rest _ =>
    cases h
    simp

/-! ## Bodies of directives -/

/-- A text in which every quote and every brace is closed that is open before it or opens in it, by
the open quote and the number of open braces before it. Two closing braces would end a directive. -/
inductive Closed : Option Char → Nat → List Char → Prop
  | nil : Closed none 0 []
  | escaped {q : Char} {depth : Nat} {rest : List Char} (hne : rest ≠ [])
      (h : Closed (some q) depth rest.tail) : Closed (some q) depth ('\\' :: rest)
  | inside {q : Char} {depth : Nat} {c : Char} {rest : List Char} (hc : c ≠ '\\')
      (h : Closed (if c = q then none else some q) depth rest) : Closed (some q) depth (c :: rest)
  | quote {depth : Nat} {c : Char} {rest : List Char} (hc : isQuote c = true)
      (h : Closed (some c) depth rest) : Closed none depth (c :: rest)
  | opening {depth : Nat} {rest : List Char} (h : Closed none (depth + 1) rest) :
      Closed none depth ('{' :: rest)
  | closing {depth : Nat} {rest : List Char} (h : Closed none depth rest) :
      Closed none (depth + 1) ('}' :: rest)
  | stray {rest : List Char} (hne : rest ≠ []) (hr : rest.head? ≠ some '}')
      (h : Closed none 0 rest) : Closed none 0 ('}' :: rest)
  | inert {depth : Nat} {c : Char} {rest : List Char} (hc : isInert c = true)
      (h : Closed none depth rest) : Closed none depth (c :: rest)

theorem directiveBody?_some_cons {q c : Char} {depth : Nat} {rest : List Char} (hc : c ≠ '\\') :
    directiveBody? (some q) depth (c :: rest) =
      onto [c] (directiveBody? (if c = q then none else some q) depth rest) := by
  rw [directiveBody?]
  rintro d more he -
  exact hc he

theorem directiveBody?_none_cons {c : Char} {depth : Nat} {rest : List Char}
    (h : depth = 0 → c = '}' → rest.head? ≠ some '}') :
    directiveBody? none depth (c :: rest) =
      if isQuote c then onto [c] (directiveBody? (some c) depth rest)
      else if c = '{' then onto [c] (directiveBody? none (depth + 1) rest)
      else if c = '}' then onto [c] (directiveBody? none (depth - 1) rest)
      else onto [c] (directiveBody? none depth rest) := by
  rw [directiveBody?]
  rintro more hd hc rfl
  exact h hd hc rfl

theorem closed_of_directiveBody? {quote : Option Char} {depth : Nat} {cs body after : List Char}
    (h : directiveBody? quote depth cs = some (body, after)) : Closed quote depth body := by
  fun_induction directiveBody? quote depth cs generalizing body with
  | case1 => simp at h
  | case2 q depth c rest ih =>
    obtain ⟨b, hb, rfl⟩ := onto_eq_some_iff.1 h
    exact .escaped (by simp) (ih hb)
  | case3 q depth c rest hesc ih =>
    obtain ⟨b, hb, rfl⟩ := onto_eq_some_iff.1 h
    refine .inside ?_ (ih hb)
    rintro rfl
    cases rest with
    | nil => simp [directiveBody?] at hb
    | cons d more => exact hesc d more rfl rfl
  | case4 rest =>
    cases h
    exact .nil
  | case5 depth c rest _ hq ih =>
    obtain ⟨b, hb, rfl⟩ := onto_eq_some_iff.1 h
    exact .quote hq (ih hb)
  | case6 depth rest _ _ ih =>
    obtain ⟨b, hb, rfl⟩ := onto_eq_some_iff.1 h
    exact .opening (ih hb)
  | case7 depth rest hend _ _ ih =>
    obtain ⟨b, hb, rfl⟩ := onto_eq_some_iff.1 h
    have hbody := append_of_directiveBody? hb
    cases depth with
    | succ depth => exact .closing (ih hb)
    | zero =>
      cases b with
      | nil => exact absurd hbody.symm (hend _ rfl rfl)
      | cons c more =>
        refine .stray (by simp) (fun he => ?_) (ih hb)
        obtain rfl := Option.some.inj he
        exact hend _ rfl rfl hbody.symm
  | case8 depth c rest _ hq hopen hclose ih =>
    obtain ⟨b, hb, rfl⟩ := onto_eq_some_iff.1 h
    exact .inert (by simp [isInert, hq, hopen, hclose]) (ih hb)

theorem directiveBody?_of_closed {quote : Option Char} {depth : Nat} {body : List Char}
    (h : Closed quote depth body) (k : List Char) :
    directiveBody? quote depth (body ++ '}' :: '}' :: k) = some (body, k) := by
  induction h with
  | nil => simp [directiveBody?]
  | @escaped _ _ rest hne h ih =>
    obtain ⟨c, more, rfl⟩ := List.exists_cons_of_ne_nil hne
    simpa [directiveBody?, onto] using ih
  | inside hc h ih => simp [directiveBody?_some_cons hc, ih, onto]
  | @quote _ c _ hc h ih =>
    have hbrace : c ≠ '}' := by
      rintro rfl
      exact absurd hc (by decide)
    rw [List.cons_append, directiveBody?_none_cons fun _ he => absurd he hbrace]
    simp [hc, ih, onto]
  | opening h ih =>
    rw [List.cons_append, directiveBody?_none_cons fun _ he => absurd he (by decide)]
    simp [isQuote, ih, onto]
  | closing h ih =>
    rw [List.cons_append, directiveBody?_none_cons fun he => absurd he (by simp)]
    simp [isQuote, ih, onto]
  | @stray rest hne hr h ih =>
    obtain ⟨c, more, rfl⟩ := List.exists_cons_of_ne_nil hne
    rw [List.cons_append, directiveBody?_none_cons fun _ _ => by simpa using hr]
    rw [List.cons_append] at ih ⊢
    simp [isQuote, ih, onto]
  | @inert _ c _ hc h ih =>
    simp only [isInert, Bool.and_eq_true, Bool.not_eq_true', bne_iff_ne] at hc
    obtain ⟨⟨hq, hopen⟩, hclose⟩ := hc
    rw [List.cons_append, directiveBody?_none_cons fun _ he => absurd he hclose]
    simp [hq, hopen, hclose, ih, onto]

theorem closed_append_iff {depth : Nat} {front rest : List Char}
    (hf : ∀ c ∈ front, isInert c = true) :
    Closed none depth (front ++ rest) ↔ Closed none depth rest := by
  induction front with
  | nil => rfl
  | cons c more ih =>
    obtain ⟨hc, hmore⟩ := List.forall_mem_cons.1 hf
    rw [List.cons_append, ← ih hmore]
    refine ⟨fun h => ?_, .inert hc⟩
    cases h with
    | inert _ h => exact h
    | quote hq _ => simp [isInert, hq] at hc
    | opening _ => exact absurd hc (by decide)
    | closing _ => exact absurd hc (by decide)
    | stray _ _ _ => exact absurd hc (by decide)

/-- Separators close nothing. -/
theorem Closed.of_separators {quote : Option Char} {depth : Nat} {cs : List Char}
    (h : Closed quote depth cs) (hq : ∀ q ∈ quote, isQuote q = true)
    (hcs : ∀ c ∈ cs, isSeparator c = true) : quote = none ∧ depth = 0 := by
  induction h with
  | nil => exact ⟨rfl, rfl⟩
  | escaped | opening | closing | stray => exact absurd (hcs _ List.mem_cons_self) (by decide)
  | @inside q _ c _ _ _ ih =>
    obtain ⟨hc, hrest⟩ := List.forall_mem_cons.1 hcs
    have hne : c ≠ q := by
      rintro rfl
      exact absurd (hq c rfl) (by simp [not_isQuote_of_isSeparator hc])
    rw [if_neg hne] at ih
    exact absurd (ih hq hrest).1 (by simp)
  | quote hc _ _ =>
    rw [not_isQuote_of_isSeparator (hcs _ List.mem_cons_self)] at hc
    cases hc
  | inert _ _ ih => exact ih hq (List.forall_mem_cons.1 hcs).2

/-- Separators behind a text can be exchanged. -/
theorem Closed.exchange_back {back back' : List Char} (hb : ∀ c ∈ back, isSeparator c = true)
    (hback : ∀ c ∈ back', isSeparator c = true) (hne : back' ≠ []) :
    ∀ {quote : Option Char} {depth : Nat} (cs : List Char), (∀ q ∈ quote, isQuote q = true) →
      Closed quote depth (cs ++ back) → Closed quote depth (cs ++ back')
  | _, _, [], hq, h => by
    obtain ⟨rfl, rfl⟩ := h.of_separators hq hb
    have hnil : Closed none 0 (back' ++ []) :=
      (closed_append_iff fun c hc => isInert_of_isSeparator (hback c hc)).2 .nil
    simpa using hnil
  | _, _, c :: cs, hq, h => by
    cases h with
    | @escaped q _ _ _ h =>
      cases cs with
      | nil =>
        exact absurd (h.of_separators hq fun c hc => hb c (List.mem_of_mem_tail hc)).1 (by simp)
      | cons d more => exact .escaped (by simp) (exchange_back hb hback hne more hq h)
    | @inside q _ _ _ hc h =>
      refine .inside hc (exchange_back hb hback hne cs (fun q hmem => ?_) h)
      split at hmem
      · cases hmem
      · exact hq q hmem
    | quote hc h => exact .quote hc (exchange_back hb hback hne cs (by simpa using hc) h)
    | opening h => exact .opening (exchange_back hb hback hne cs hq h)
    | closing h => exact .closing (exchange_back hb hback hne cs hq h)
    | stray _ hr h =>
      refine .stray (by simp [hne]) (fun he => ?_) (exchange_back hb hback hne cs hq h)
      cases cs with
      | nil => exact absurd (hback '}' (List.mem_of_mem_head? he)) (by decide)
      | cons d more => exact hr he
    | inert hc h => exact .inert hc (exchange_back hb hback hne cs hq h)
  termination_by _ _ cs => cs.length

/-- Code that is closed in one text is closed in every other text that carries it. -/
theorem Closed.exchange {names names' : List String} {code body cs back : List Char}
    (h : Closed none 0 body) (hbody : Carries names code body) (hcs : Carries names' code cs)
    (hb : ∀ c ∈ back, isSeparator c = true) (hne : back ≠ []) : Closed none 0 (cs ++ back) := by
  obtain ⟨front, back₁, rfl, hfront, hback₁, -⟩ := hbody
  obtain ⟨front', back₂, rfl, hfront', hback₂, -⟩ := hcs
  rw [List.append_assoc, closed_append_iff hfront] at h
  rw [List.append_assoc, List.append_assoc, closed_append_iff hfront']
  exact h.exchange_back hback₁ (List.forall_mem_append.2 ⟨hback₂, hb⟩) (by simp [hne]) code
    (by simp)

/-- The text of a directive between blanks is closed if the directive is. -/
theorem closed_text {body front back : List Char} {d : Directive} (hbody : Closed none 0 body)
    (h : classify body = .ok d) (hf : ∀ c ∈ front, Text.isBlank c = true)
    (hb : ∀ c ∈ back, Text.isBlank c = true) (hne : back ≠ []) :
    Closed none 0 (front ++ d.text.toList ++ back) := by
  obtain ⟨hs, -⟩ := classify_eq_ok_iff.1 h
  obtain ⟨front', back', he, hf', hb'⟩ := Text.exists_of_trim body
  have hcarries : Carries d.leading d.code body := by
    rw [he]
    exact (carries_of_isSpelled hs).between_separators
      (fun c hc => isSeparator_of_isBlank (hf' c hc)) fun c hc => isSeparator_of_isBlank (hb' c hc)
  have htext : Carries d.leading d.code (front ++ d.text.toList ++ []) :=
    (carries_of_isSpelled (isSpelled_text hs)).between_separators
      (fun c hc => isSeparator_of_isBlank (hf c hc)) (by simp)
  simpa using hbody.exchange hcarries htext (fun c hc => isSeparator_of_isBlank (hb c hc)) hne

/-! ## Names -/

/-- No name goes on here: dots are all that is left of one. -/
def DotsOnly (cs : List Char) : Prop := ∀ c ∈ cs.takeWhile isNameChar, c = '.'

/-- A name as references have it. -/
structure IsName (name : List Char) : Prop where
  ne_nil : name ≠ []
  chars : ∀ c ∈ name, isNameChar c = true
  last : name.getLast? ≠ some '.'

theorem dotsOnly_cons {c : Char} (hc : isNameChar c = false) (rest : List Char) :
    DotsOnly (c :: rest) := by
  simp [DotsOnly, hc]

/-- What follows a character that no name has does not count. -/
theorem dotsOnly_append_cons_iff {c : Char} (hc : isNameChar c = false) (front rest : List Char) :
    DotsOnly (front ++ c :: rest) ↔ DotsOnly front := by
  have htake : (front ++ c :: rest).takeWhile isNameChar = front.takeWhile isNameChar := by
    rw [List.takeWhile_append]
    split
    · next hlen =>
      rw [List.takeWhile_cons_of_neg (by simp [hc]), List.append_nil,
        (List.takeWhile_prefix isNameChar).eq_of_length hlen]
    · rfl
  rw [DotsOnly, DotsOnly, htake]

/-- The name that a text begins with. -/
theorem splitName_append {name k : List Char} (hn : IsName name) (hk : DotsOnly k) :
    splitName (name ++ k) = (name, k) := by
  have htake : (name ++ k).takeWhile isNameChar = name ++ k.takeWhile isNameChar :=
    List.takeWhile_append_of_pos hn.chars
  have hdrop : Text.dropEndWhile (· == '.') (name ++ k.takeWhile isNameChar) = name := by
    refine Text.dropEndWhile_append (by simpa [DotsOnly] using hk) fun c hc => ?_
    have hne : c ≠ '.' := by
      rintro rfl
      exact hn.last hc
    simpa using hne
  rw [splitName]
  simp only [htake, hdrop]
  simp

/-- What is cut off as a name is one, and it does not go on. -/
theorem isName_of_splitName {cs name after : List Char} (h : splitName cs = (name, after))
    (hne : name ≠ []) : IsName name ∧ DotsOnly after := by
  have happ := append_splitName cs
  have hchars := isNameChar_splitName cs
  rw [h] at happ hchars
  have hname : name = (cs.takeWhile isNameChar).rdropWhile (· == '.') := (congrArg Prod.fst h).symm
  have hdots : name ++ (cs.takeWhile isNameChar).rtakeWhile (· == '.') =
      cs.takeWhile isNameChar := by
    rw [hname]
    exact List.rdropWhile_append_rtakeWhile
  refine ⟨⟨hne, hchars, fun hlast => ?_⟩, fun c hc => ?_⟩
  · have hnot := List.rdropWhile_last_not (· == '.') (cs.takeWhile isNameChar) (hname ▸ hne)
    simp only [← hname] at hnot
    rw [List.getLast?_eq_some_getLast hne] at hlast
    exact hnot (by simp [Option.some.inj hlast])
  · have htake : cs.takeWhile isNameChar = name ++ after.takeWhile isNameChar := by
      conv_lhs => rw [← happ]
      exact List.takeWhile_append_of_pos hchars
    rw [← List.append_cancel_left (hdots.trans htake)] at hc
    simpa using List.mem_rtakeWhile_imp hc

/-! ## Pieces -/

/-- The texts that a piece can stand before. -/
inductive Piece.Fits : Piece → List Char → Prop
  | plain {c : Char} {k : List Char} (hq : isQuote c = false) (ha : c ≠ '@')
      (he : c = '\\' → k.head? ≠ some '@') (hd : c = '{' → k.head? ≠ some '{') :
      Fits (.plain c) k
  | quoted {q : Char} {s k : List Char} (hq : isQuote q = true)
      (h : closeQuote? q s = some (s, [])) : Fits (.quoted (q :: s)) k
  | escapedAt {k : List Char} : Fits .escapedAt k
  | ref {doubled : Bool} {name k : List Char} (hn : IsName name) (hk : DotsOnly k) :
      Fits (.ref doubled name) k
  | directive {body k : List Char} (h : Closed none 0 body) : Fits (.directive body) k

/-- A piece of a template fits what follows it. -/
theorem fits_of_firstPiece {c : Char} {rest after : List Char} {p : Piece}
    (h : firstPiece c rest = (p, after)) (hp : ∀ r, p ≠ .broken r) : p.Fits after := by
  unfold firstPiece at h
  split at h
  · next hq =>
    split at h
    · next s k hs =>
      cases h
      refine .quoted hq ?_
      simpa using closeQuote?_append (ne_backslash_of_isQuote hq) hs []
    · cases h
      exact absurd rfl (hp _)
  · next hq =>
    split at h
    · cases h
      exact .escapedAt
    · split at h
      · next body k hb =>
        cases h
        exact .directive (closed_of_directiveBody? hb)
      · cases h
        exact absurd rfl (hp _)
    · split at h
      · cases h
        exact absurd rfl (hp _)
      · next name k hne hs =>
        cases h
        obtain ⟨hn, hk⟩ := isName_of_splitName hs hne
        exact .ref hn hk
    · split at h
      · cases h
        exact absurd rfl (hp _)
      · next name k hne hs =>
        cases h
        obtain ⟨hn, hk⟩ := isName_of_splitName hs hne
        exact .ref hn hk
    · next hat hesc hopen hdouble =>
      cases h
      refine .plain (by simpa using hq) hat (fun he hk => ?_) fun he hk => ?_
      · obtain ⟨more, rfl⟩ := List.head?_eq_some_iff.1 hk
        exact hesc more he rfl
      · obtain ⟨more, rfl⟩ := List.head?_eq_some_iff.1 hk
        exact hopen more he rfl

theorem firstPiece_plain {c : Char} {k : List Char} (hq : isQuote c = false) (ha : c ≠ '@')
      (he : c = '\\' → k.head? ≠ some '@') (hd : c = '{' → k.head? ≠ some '{') :
    firstPiece c k = (.plain c, k) := by
  unfold firstPiece
  rw [if_neg (by simp [hq])]
  split
  · exact absurd rfl (he rfl)
  · exact absurd rfl (hd rfl)
  · exact absurd rfl ha
  · exact absurd rfl ha
  · rfl

theorem firstPiece_ref {name k : List Char} (hn : IsName name) (hk : DotsOnly k) :
    firstPiece '@' (name ++ k) = (.ref false name, k) := by
  have hs := splitName_append hn hk
  obtain ⟨d, more, rfl⟩ := List.exists_cons_of_ne_nil hn.ne_nil
  have hd : d ≠ '@' := by
    rintro rfl
    exact absurd (hn.chars '@' List.mem_cons_self) (by decide)
  unfold firstPiece
  rw [if_neg (by decide)]
  split
  · next he _ => cases he
  · next he _ => cases he
  · next inner _ he => exact absurd (List.cons.inj he).1 hd
  · next he => rw [hs]
  · next hat _ _ _ => exact absurd rfl hat

theorem firstPiece_doubled {name k : List Char} (hn : IsName name) (hk : DotsOnly k) :
    firstPiece '@' ('@' :: (name ++ k)) = (.ref true name, k) := by
  have hs := splitName_append hn hk
  obtain ⟨d, more, rfl⟩ := List.exists_cons_of_ne_nil hn.ne_nil
  simp only [firstPiece, isQuote, hs]
  rfl

/-- A piece is found again before every text that it fits. -/
theorem pieces_append_of_fits {p : Piece} {k : List Char} (h : p.Fits k) :
    pieces (p.source ++ k) = p :: pieces k := by
  cases h with
  | @plain c _ hq ha he hd =>
    rw [Piece.source, List.cons_append, pieces_cons, List.nil_append, firstPiece_plain hq ha he hd]
  | @quoted q s _ hq h =>
    have hs := closeQuote?_append (ne_backslash_of_isQuote hq) h k
    rw [Piece.source, List.cons_append, pieces_cons]
    simp [firstPiece, hq, hs]
  | escapedAt =>
    rw [Piece.source, List.cons_append, pieces_cons]
    simp [firstPiece, isQuote]
  | @ref doubled name _ hn hk =>
    cases doubled with
    | false => rw [Piece.source, List.cons_append, pieces_cons, firstPiece_ref hn hk]
    | true =>
      rw [Piece.source, List.cons_append, List.cons_append, pieces_cons, firstPiece_doubled hn hk]
  | @directive body _ h =>
    have hb := directiveBody?_of_closed h k
    rw [Piece.source, List.cons_append, pieces_cons]
    simp [firstPiece, isQuote, hb]

end QueryGen.Template
