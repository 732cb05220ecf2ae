import Mathlib.Data.List.TakeDrop
import QueryGen.Go.Declaration
import QueryGen.Proofs.Template.Words

/-!
# Pairs of struct tags

A struct tag holds pairs of a key and a value in double quotes. A value is looked for by the key, a
colon and a quote, wherever these stand, in a tag that has lost all quotes at its ends.

- `Text.splitAt?_quote`: where a text that ends in a quote stands for the first time.
- `TagPair`, `TagPair.literal`: a pair, and pairs as a raw string literal.
- `TagPair.found?`, `tagValue?_of_literal`: what is found for a key in such a literal.
- `TagPair.Sound`, `found?_eq_lookup?_iff`: where this is the value of the first pair with the key.
-/

namespace QueryGen

namespace Text

/-! ## Looking for a quote -/

variable {q : Char} {key front : List Char}

theorem cutFirst?_quote (hf : q ∉ front) (rest : List Char) :
    cutFirst? (· == q) (front ++ q :: rest) = some (front, rest) := by
  have hall : ∀ c ∈ front, (!(c == q)) = true := fun c hc => by
    simpa using ne_of_mem_of_not_mem hc hf
  simp [cutFirst?, List.span_eq_takeWhile_dropWhile, List.takeWhile_append_of_pos hall,
    List.dropWhile_append_of_pos hall]

/-- The text in front of the first quote is determined. -/
theorem append_quote_inj (hk : q ∉ key) (hf : q ∉ front) {rest after : List Char}
    (h : key ++ q :: after = front ++ q :: rest) : key = front ∧ after = rest := by
  have hcut := congrArg (cutFirst? (· == q)) h
  rw [cutFirst?_quote hk, cutFirst?_quote hf] at hcut
  simpa using hcut

/-- A text with the quote `q` at its end stands in front of a quote, if anywhere. -/
theorem splitAt?_quote (hk : q ∉ key) (hf : q ∉ front) (rest : List Char) :
    (splitAt? (key ++ [q]) (front ++ q :: rest)).map Prod.snd =
      if key <:+ front then some rest else (splitAt? (key ++ [q]) rest).map Prod.snd := by
  induction front with
  | nil =>
    by_cases hnil : key = []
    · subst hnil
      simp [splitAt?, List.isPrefixOf?]
    · have hnot : (key ++ [q]).isPrefixOf? (q :: rest) = none := by
        obtain ⟨c, more, rfl⟩ := List.exists_cons_of_ne_nil hnil
        have hc : ¬ c = q := fun he => hk (by simp [he])
        simp [List.isPrefixOf?, hc]
      rw [if_neg (mt List.suffix_nil.1 hnil), List.nil_append, splitAt?, hnot, Option.map_map]
      rfl
  | cons c front ih =>
    have hfront : q ∉ front := fun h => hf (List.mem_cons_of_mem _ h)
    rw [List.cons_append, splitAt?]
    split
    · next after h =>
      rw [List.isPrefixOf?_eq_some_iff_append_eq, List.append_assoc] at h
      obtain ⟨rfl, rfl⟩ := append_quote_inj hk hf h
      simp
    · next h =>
      have hne : key ≠ c :: front := by
        rintro rfl
        have hp : (c :: front ++ [q]).isPrefixOf? (c :: (front ++ q :: rest)) = some rest :=
          List.isPrefixOf?_eq_some_iff_append_eq.2 (by simp)
        rw [hp] at h
        cases h
      simp only [List.suffix_cons_iff, hne, false_or]
      rw [Option.map_map, ← ih hfront]
      rfl

/-- A text with a quote does not stand in one without. -/
theorem splitAt?_eq_none (hf : q ∉ front) : splitAt? (key ++ [q]) front = none := by
  by_contra hne
  have hi := contains_iff_isInfix.1 (Option.isSome_iff_ne_none.2 hne)
  exact hf (hi.subset (by simp))

theorem cutFirst?_eq_none (hf : q ∉ front) : cutFirst? (· == q) front = none := by
  have hall : ∀ c ∈ front, (!(c == q)) = true := fun c hc => by
    simpa using ne_of_mem_of_not_mem hc hf
  simp [cutFirst?, List.span_eq_takeWhile_dropWhile, List.dropWhile_eq_nil_iff.2 hall]

end Text

/-! ## Pairs -/

/-- What may be a key of a tag: no space and no quote stands in it. -/
def IsTagKey (s : String) : Prop := ∀ c ∈ s.toList, c ≠ ' ' ∧ c ≠ '"' ∧ c ≠ '\x60'

/-- What may be a value of a tag: no quote stands in it. -/
def IsTagValue (s : String) : Prop := ∀ c ∈ s.toList, c ≠ '"' ∧ c ≠ '\x60'

instance (s : String) : Decidable (IsTagKey s) := List.decidableBAll _ _

instance (s : String) : Decidable (IsTagValue s) := List.decidableBAll _ _

/-- A pair of a struct tag, and how many spaces stand in front of it. -/
structure TagPair where
  spaces : Nat
  key : String
  value : String
  isKey : IsTagKey key
  isValue : IsTagValue value

namespace TagPair

variable {p : TagPair} {q : String} {pairs front back : List TagPair}

/-- What stands in front of the value. -/
def lead (p : TagPair) : List Char := List.replicate p.spaces ' ' ++ p.key.toList ++ [':']

def text (p : TagPair) : List Char := p.lead ++ '"' :: (p.value.toList ++ ['"'])

/-- Pairs as a raw string literal. -/
def literal (pairs : List TagPair) : String := .ofList ('\x60' :: (pairs.flatMap text ++ ['\x60']))

/-- What is left of pairs without the quotes at their end: the last pair is not closed. -/
def unclosed : List TagPair → List Char
  | [] => []
  | [p] => p.lead ++ if p.value = "" then [] else '"' :: p.value.toList
  | p :: next :: rest => p.text ++ unclosed (next :: rest)

theorem lead_plain (p : TagPair) : '"' ∉ p.lead := by
  intro h
  simp only [lead, List.mem_append, List.mem_replicate, List.mem_singleton] at h
  rcases h with (⟨-, h⟩ | h) | h
  · exact absurd h (by decide)
  · exact (p.isKey _ h).2.1 rfl
  · exact absurd h (by decide)

theorem value_plain (p : TagPair) : '"' ∉ p.value.toList := fun h => (p.isValue _ h).1 rfl

/-- Whether a tag loses a character at its ends. -/
def isDropped (c : Char) : Bool := c == '"' || c == '\x60'

theorem isDropped_lead {c : Char} (hc : c ∈ p.lead) : isDropped c = false := by
  simp only [lead, List.mem_append, List.mem_replicate, List.mem_singleton] at hc
  rcases hc with (⟨-, rfl⟩ | hc) | rfl
  · rfl
  · have := p.isKey c hc
    simp [isDropped, this]
  · rfl

theorem isDropped_value {c : Char} (hc : c ∈ p.value.toList) : isDropped c = false := by
  have := p.isValue c hc
  simp [isDropped, this]

theorem lead_ne_nil (p : TagPair) : p.lead ≠ [] := by simp [lead]

/-- All quotes at the end are lost, and with them the closing quote of the last pair. -/
theorem dropEndWhile_text (p : TagPair) (front : List Char) :
    Text.dropEndWhile isDropped (front ++ (p.text ++ ['\x60'])) =
      front ++ unclosed [p] := by
  have hlast : ∀ body : List Char, body ≠ [] → (∀ c ∈ body.getLast?, isDropped c = false) →
      ∀ back, (∀ c ∈ back, isDropped c = true) →
        Text.dropEndWhile isDropped (front ++ (body ++ back)) = front ++ body := by
    intro body hne hc back hb
    rw [← List.append_assoc]
    refine Text.dropEndWhile_append hb fun c h => hc c ?_
    rwa [List.getLast?_append_of_ne_nil _ hne] at h
  unfold unclosed text
  by_cases hv : p.value = ""
  · have := hlast p.lead p.lead_ne_nil (fun c hc => isDropped_lead (List.mem_of_getLast? hc))
      ['"', '"', '\x60'] (by simp [isDropped])
    simpa [hv] using this
  · have hne : p.value.toList ≠ [] := by simpa using hv
    have := hlast (p.lead ++ '"' :: p.value.toList) (by simp) (fun c hc => by
      rw [List.getLast?_append_of_ne_nil _ (by simp), List.getLast?_cons_of_ne_nil hne] at hc
      exact isDropped_value (List.mem_of_getLast? hc)) ['"', '\x60'] (by simp [isDropped])
    simpa [hv] using this

theorem dropEndWhile_texts (hne : pairs ≠ []) (front : List Char) :
    Text.dropEndWhile isDropped (front ++ (pairs.flatMap text ++ ['\x60'])) =
      front ++ unclosed pairs := by
  induction pairs generalizing front with
  | nil => exact absurd rfl hne
  | cons p rest ih =>
    cases rest with
    | nil => simpa using dropEndWhile_text p front
    | cons next rest => simpa [unclosed] using ih (List.cons_ne_nil _ _) (front ++ p.text)

/-- A tag loses all quotes at its ends, and with them the closing quote of the last pair. -/
theorem trimMatches_literal (pairs : List TagPair) :
    Text.trimMatches isDropped (literal pairs).toList = unclosed pairs := by
  rw [literal, String.toList_ofList, Text.trimMatches, List.dropWhile_cons_of_pos (by decide)]
  cases pairs with
  | nil => decide
  | cons p rest =>
    obtain ⟨c, more, hc⟩ := List.exists_cons_of_ne_nil p.lead_ne_nil
    have hkeep : isDropped c = false := isDropped_lead (p := p) (by simp [hc])
    have hopen : ((p :: rest).flatMap text ++ ['\x60']).dropWhile isDropped =
        (p :: rest).flatMap text ++ ['\x60'] := by
      simp [text, hc, hkeep]
    rw [hopen]
    exact dropEndWhile_texts (List.cons_ne_nil _ _) []

/-! ## Looking for a key -/

/-- The value of the first pair with a key. -/
def lookup? (q : String) (pairs : List TagPair) : Option String :=
  (pairs.find? (·.key == q)).map (·.value)

/-- What is found for a key. The key of a pair may be longer, and a value may end like a key with a
colon. In the last pair nothing is found. -/
def found? (q : String) : List TagPair → Option String
  | [] => none
  | [_] => none
  | p :: next :: rest =>
    if q.toList <:+ p.key.toList then some p.value
    else if q.toList ++ [':'] <:+ p.value.toList then
      if rest.isEmpty ∧ next.value = "" then none else some (.ofList next.lead)
    else found? q (next :: rest)

/-- A key ends what stands in front of a value where it ends the key there. -/
theorem suffix_lead_iff (hq : IsTagKey q) :
    q.toList ++ [':'] <:+ p.lead ↔ q.toList <:+ p.key.toList := by
  rw [lead, List.suffix_append_self_iff]
  refine ⟨fun h => ?_, fun h => h.trans (List.suffix_append _ _)⟩
  rcases List.suffix_or_suffix_of_suffix h (List.suffix_append _ _) with hs | ⟨gap, hg⟩
  · exact hs
  · rw [← hg, List.suffix_append_self_iff] at h
    have hnil : gap = [] := List.eq_nil_iff_forall_not_mem.2 fun c hc =>
      (hq c (by simp [← hg, hc])).1 (List.eq_of_mem_replicate (h.subset hc))
    simp [← hg, hnil]

end TagPair

/-- The text between quotes behind the first place where `key` stands in front of a quote. -/
def Text.quoted? (key cs : List Char) : Option (List Char) := do
  let (_, rest) ← splitAt? (key ++ ['"']) cs
  let (value, _) ← cutFirst? (· == '"') rest
  return value

theorem Text.quoted?_quote {key front : List Char} (hk : '"' ∉ key) (hf : '"' ∉ front)
    (rest : List Char) : quoted? key (front ++ '"' :: rest) =
      if key <:+ front then (cutFirst? (· == '"') rest).map Prod.fst else quoted? key rest := by
  have hquoted : ∀ cs, quoted? key cs = ((splitAt? (key ++ ['"']) cs).map Prod.snd).bind
      fun rest => (cutFirst? (· == '"') rest).map Prod.fst := by
    intro cs
    unfold quoted?
    cases splitAt? (key ++ ['"']) cs with
    | none => rfl
    | some cut => cases h : cutFirst? (· == '"') cut.2 <;> simp [h]
  rw [hquoted, hquoted, splitAt?_quote hk hf]
  split <;> rfl

theorem Text.quoted?_eq_none {key front : List Char} (hf : '"' ∉ front) :
    quoted? key front = none := by
  simp [quoted?, splitAt?_eq_none hf]

namespace TagPair

variable {p : TagPair} {q : String} {pairs front back : List TagPair}

/-- The first quote of what is left of pairs stands behind the first key, if any. -/
theorem cutFirst?_unclosed (p : TagPair) (rest : List TagPair) :
    (Text.cutFirst? (· == '"') (unclosed (p :: rest))).map Prod.fst =
      if rest.isEmpty ∧ p.value = "" then none else some p.lead := by
  cases rest with
  | nil =>
    by_cases hv : p.value = ""
    · simp [unclosed, hv, Text.cutFirst?_eq_none p.lead_plain]
    · simp [unclosed, hv, Text.cutFirst?_quote p.lead_plain]
  | cons next rest => simp [unclosed, text, Text.cutFirst?_quote p.lead_plain]

theorem plain_of_isTagKey (hq : IsTagKey q) : '"' ∉ q.toList ++ [':'] := by
  simp only [List.mem_append, List.mem_singleton, not_or]
  exact ⟨fun h => (hq _ h).2.1 rfl, by decide⟩

/-- A pair with more behind it. -/
theorem quoted?_text (hq : IsTagKey q) (p : TagPair) (rest : List Char) :
    Text.quoted? (q.toList ++ [':']) (p.text ++ rest) =
      if q.toList <:+ p.key.toList then some p.value.toList
      else if q.toList ++ [':'] <:+ p.value.toList then
        (Text.cutFirst? (· == '"') rest).map Prod.fst
      else Text.quoted? (q.toList ++ [':']) rest := by
  have htext : p.text ++ rest = p.lead ++ '"' :: (p.value.toList ++ '"' :: rest) := by simp [text]
  rw [htext, Text.quoted?_quote (plain_of_isTagKey hq) p.lead_plain,
    Text.quoted?_quote (plain_of_isTagKey hq) p.value_plain, Text.cutFirst?_quote p.value_plain]
  simp only [suffix_lead_iff hq, Option.map_some]

/-- Nothing is found in a pair that is not closed. -/
theorem quoted?_last (hq : IsTagKey q) (p : TagPair) :
    Text.quoted? (q.toList ++ [':']) (unclosed [p]) = none := by
  by_cases hv : p.value = ""
  · simp [unclosed, hv, Text.quoted?_eq_none p.lead_plain]
  · rw [unclosed, if_neg hv, Text.quoted?_quote (plain_of_isTagKey hq) p.lead_plain,
      Text.cutFirst?_eq_none p.value_plain, Text.quoted?_eq_none p.value_plain]
    simp

theorem quoted?_unclosed (hq : IsTagKey q) (pairs : List TagPair) :
    Text.quoted? (q.toList ++ [':']) (unclosed pairs) = (found? q pairs).map String.toList := by
  fun_induction found? q pairs with
  | case1 => exact Text.quoted?_eq_none (by simp [unclosed])
  | case2 p => exact quoted?_last hq p
  | case3 p next rest hs => rw [unclosed, quoted?_text hq, if_pos hs]; rfl
  | case4 p next rest hs hv hlast =>
    rw [unclosed, quoted?_text hq, if_neg hs, if_pos hv, cutFirst?_unclosed, if_pos hlast]
    rfl
  | case5 p next rest hs hv hlast =>
    rw [unclosed, quoted?_text hq, if_neg hs, if_pos hv, cutFirst?_unclosed, if_neg hlast]
    simp
  | case6 p next rest hs hv ih => rw [unclosed, quoted?_text hq, if_neg hs, if_neg hv, ih]

/-! ## Where the right value is found -/

/-- Whether the search for a key stops at a pair. -/
def Hit (q : String) (p : TagPair) : Prop :=
  q.toList <:+ p.key.toList ∨ q.toList ++ [':'] <:+ p.value.toList

instance (q : String) (p : TagPair) : Decidable (p.Hit q) := inferInstanceAs (Decidable (_ ∨ _))

theorem hit_key (p : TagPair) : p.Hit p.key := .inl List.suffix_rfl

/-- The search goes on behind pairs that it does not stop at. -/
theorem found?_append (hf : ∀ x ∈ front, ¬ x.Hit q) (hb : back ≠ []) :
    found? q (front ++ back) = found? q back := by
  induction front with
  | nil => rfl
  | cons p front ih =>
    obtain ⟨hp, hfront⟩ := List.forall_mem_cons.1 hf
    obtain ⟨hkey, hvalue⟩ := not_or.1 hp
    obtain ⟨next, rest, hn⟩ :=
      List.exists_cons_of_ne_nil (List.append_ne_nil_of_right_ne_nil front hb)
    rw [← ih hfront, List.cons_append, hn, found?, if_neg hkey, if_neg hvalue]

theorem found?_eq_none (h : ∀ x ∈ pairs, ¬ x.Hit q) : found? q pairs = none := by
  rcases List.eq_nil_or_concat pairs with rfl | ⟨front, last, rfl⟩
  · rfl
  · rw [List.concat_eq_append] at h ⊢
    rw [found?_append (fun x hx => h x (List.mem_append_left _ hx)) (List.cons_ne_nil _ _)]
    rfl

theorem lookup?_append (hf : ∀ x ∈ front, x.key ≠ q) :
    lookup? q (front ++ back) = lookup? q back := by
  have hnone : front.find? (·.key == q) = none :=
    List.find?_eq_none.2 fun x hx => by simpa using hf x hx
  simp [lookup?, List.find?_append, hnone]

/-- The first pair at which the search for a key stops is the one that is asked for, and it is not
the last one; or the text that is found in its place is the same. -/
def Sound (q : String) (pairs : List TagPair) : Prop :=
  ∀ front p back, pairs = front ++ p :: back → (∀ x ∈ front, ¬ x.Hit q) → p.Hit q →
    if p.key = q then back ≠ [] else found? q (p :: back) = lookup? q back

/-- The first pair is the right one where it has the key and another one follows. -/
theorem found?_eq_lookup?_cons_iff (p : TagPair) (back : List TagPair) :
    found? q (p :: back) = lookup? q (p :: back) ↔
      if p.key = q then back ≠ [] else found? q (p :: back) = lookup? q back := by
  by_cases hkey : p.key = q
  · have hl : lookup? q (p :: back) = some p.value := by simp [lookup?, hkey]
    rw [if_pos hkey, hl]
    cases back with
    | nil => simp [found?]
    | cons next rest => simp [found?, ← hkey]
  · rw [if_neg hkey, ← List.singleton_append, lookup?_append (by simpa using hkey)]

theorem found?_eq_lookup?_iff : found? q pairs = lookup? q pairs ↔ Sound q pairs := by
  have hother : ∀ x : TagPair, ¬ x.Hit q → x.key ≠ q := by
    rintro x hx rfl
    exact hx x.hit_key
  have hfirst : ∀ front p back, (∀ x ∈ front, ¬ x.Hit q) →
      (found? q (front ++ p :: back) = lookup? q (front ++ p :: back) ↔
        found? q (p :: back) = lookup? q (p :: back)) := by
    intro front p back hf
    rw [found?_append hf (List.cons_ne_nil _ _), lookup?_append fun x hx => hother x (hf x hx)]
  constructor
  · rintro h front p back rfl hf -
    exact (found?_eq_lookup?_cons_iff p back).1 ((hfirst front p back hf).1 h)
  · intro h
    cases hstop : pairs.find? (fun p => p.Hit q) with
    | none =>
      have hno : ∀ x ∈ pairs, ¬ x.Hit q := by simpa using hstop
      rw [found?_eq_none hno, ← pairs.append_nil, lookup?_append fun x hx => hother x (hno x hx)]
      rfl
    | some p =>
      obtain ⟨hp, front, back, rfl, hf⟩ := List.find?_eq_some_iff_append.1 hstop
      have hf : ∀ x ∈ front, ¬ x.Hit q := by simpa using hf
      rw [hfirst front p back hf, found?_eq_lookup?_cons_iff]
      exact h front p back rfl hf (of_decide_eq_true hp)

end TagPair

theorem StructField.tagValue?_eq (f : StructField) (q : String) :
    f.tagValue? q = f.tag.bind fun tag =>
      (Text.quoted? (q.toList ++ [':']) tag.toList).map String.ofList := by
  unfold tagValue? Text.quoted?
  cases f.tag with
  | none => rfl
  | some tag =>
    simp only [Option.bind_eq_bind, Option.bind_some, Option.map_bind, List.append_assoc,
      List.singleton_append]
    refine Option.bind_congr fun cut _ => ?_
    rw [Function.comp_apply, Option.map_bind]
    rfl

/-- What is found for a key in a tag of pairs. -/
theorem StructField.tagValue?_of_literal {f : StructField} {pairs : List TagPair} {q : String}
    (hf : f.tag = some (.ofList (Text.trimMatches TagPair.isDropped
      (TagPair.literal pairs).toList))) (hq : IsTagKey q) :
    f.tagValue? q = TagPair.found? q pairs := by
  rw [tagValue?_eq, hf, Option.bind_some, String.toList_ofList, TagPair.trimMatches_literal,
    TagPair.quoted?_unclosed hq, Option.map_map]
  simp [Function.comp_def]

end QueryGen
