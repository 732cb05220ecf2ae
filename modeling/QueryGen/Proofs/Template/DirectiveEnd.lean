import QueryGen.Proofs.Template.Positions

/-!
# Where a directive ends

Two scanners read the string literals of a directive: one looks for its closing braces
(`directiveBody?`), the other one for reserved names in its body (`blankLiterals`). The first one
takes a backslash for an escape in every literal, the second one does not in raw literals, as in
Go. Both are instances of one reading, by the quotes of the literals that have escapes.

- `CodeState.next`, `literalMarks`: how a reading goes on, and which characters it finds in
  literals. `blankLiterals` blanks what Go's reading marks (`blankLiterals_eq_blankMarked`).
- `Place`, `FirstEnd`: a place among literals and braces, and the first closing braces outside of
  both. `directiveBody?` finds those of the reading with escapes everywhere
  (`directiveBody?_eq_some_iff`).
- `RawBackslash`: a raw literal closes behind an odd number of backslashes. Up to there the two
  readings are in step (`InStep`), from there on they are apart (`Diverged`).
- `FollowsGo`: the directive ends where it does in Go, with the same literals. `directive_end` says
  when it does.
-/

namespace QueryGen.Template

/-! ## Literals -/

/-- The quotes of the literals in which a backslash takes the next character with it in Go. -/
def goEscapes (q : Char) : Bool := q != '\x60'

/-- Literals of every kind have escapes. -/
def allEscapes (_ : Char) : Bool := true

namespace CodeState

/-- Where a reader stands behind the next character. -/
def next (escapes : Char → Bool) : CodeState → Char → CodeState
  | code, c => if isQuote c then literal c else code
  | escaped q, _ => literal q
  | literal q, c =>
    if c = '\\' ∧ escapes q = true then escaped q else if c = q then code else literal q

/-- Whether the next character belongs to a literal. Quotes do. -/
def marks (state : CodeState) (c : Char) : Bool := decide (state ≠ code) || isQuote c

/-- The quote of the literal that is open. -/
def quote? : CodeState → Option Char
  | code => none
  | literal q | escaped q => some q

variable {escapes : Char → Bool} {state : CodeState} {q c : Char}

theorem next_code (hc : isQuote c = true) : code.next escapes c = literal c := if_pos hc

theorem next_backslash (hq : escapes q = true) :
    (literal q).next escapes '\\' = escaped q := if_pos ⟨rfl, hq⟩

theorem next_literal (hc : c ≠ '\\') :
    (literal q).next escapes c = if c = q then code else literal q :=
  if_neg fun h => hc h.1

/-- A literal stays open unless its quote comes. -/
theorem next_of_quote? (h : state.quote? = some q) (escapes : Char → Bool) (c : Char) :
    (c = q ∧ state.next escapes c = code) ∨ (state.next escapes c).quote? = some q := by
  cases state with
  | code => cases h
  | escaped p => exact .inr h
  | literal p =>
    cases h
    simp only [next]
    split
    · exact .inr rfl
    · split
      · next hc => exact .inl ⟨hc, rfl⟩
      · exact .inr rfl

/-- Behind any other character but a backslash no escape is open. -/
theorem next_eq_literal (h : state.quote? = some q) (hc : c ≠ '\\') (hq : c ≠ q) :
    state.next escapes c = literal q := by
  cases state with
  | code => cases h
  | escaped p => exact congrArg literal (Option.some.inj h)
  | literal p =>
    cases h
    rw [next_literal hc, if_neg hq]

end CodeState

/-- The characters of a text that belong to literals. -/
def literalMarks (escapes : Char → Bool) : CodeState → List Char → List Bool
  | _, [] => []
  | state, c :: rest => state.marks c :: literalMarks escapes (state.next escapes c) rest

/-- A text with a space for every marked character. -/
def blankMarked (cs : List Char) (marked : List Bool) : List Char :=
  cs.zipWith (fun c m => if m then ' ' else c) marked

/-- Reserved names are looked for outside the literals of Go's reading. -/
theorem blankLiterals_eq_blankMarked (state : CodeState) (cs : List Char) :
    blankLiterals state cs = blankMarked cs (literalMarks goEscapes state cs) := by
  unfold blankMarked
  fun_induction blankLiterals state cs with
  | case1 => rfl
  | case2 c rest hq ih | case3 c rest hq ih =>
    simp [literalMarks, CodeState.marks, CodeState.next, hq, ih]
  | case4 q c rest ih => simp [literalMarks, CodeState.marks, CodeState.next, ih]
  | case5 q c rest he ih =>
    simp [literalMarks, CodeState.marks, CodeState.next, goEscapes, he, ih]
  | case6 c rest he ih =>
    simp [literalMarks, CodeState.marks, CodeState.next, goEscapes, he, ih]
  | case7 q c rest he hq ih =>
    simp [literalMarks, CodeState.marks, CodeState.next, goEscapes, he, hq, ih]

/-! ## Places -/

/-- A place in a directive: how literals stand there, and how many braces are open. -/
@[ext]
structure Place where
  state : CodeState
  depth : Nat
deriving DecidableEq

namespace Place

/-- Outside literals, with no open brace. -/
def outside : Place := ⟨.code, 0⟩

/-- The place behind the next character. Braces count outside literals only. -/
def next (escapes : Char → Bool) (p : Place) (c : Char) : Place where
  state := p.state.next escapes c
  depth :=
    if p.state = .code ∧ c = '{' then p.depth + 1
    else if p.state = .code ∧ c = '}' then p.depth - 1
    else p.depth

/-- The place behind a text. -/
def behind (escapes : Char → Bool) (p : Place) (cs : List Char) : Place :=
  cs.foldl (next escapes) p

variable {escapes : Char → Bool} {p : Place}

@[simp] theorem behind_nil : p.behind escapes [] = p := rfl

@[simp] theorem behind_cons (c : Char) (rest : List Char) :
    p.behind escapes (c :: rest) = (p.next escapes c).behind escapes rest := rfl

theorem behind_concat (cs : List Char) (c : Char) :
    p.behind escapes (cs ++ [c]) = (p.behind escapes cs).next escapes c := by
  simp [behind]

end Place

theorem literalMarks_concat (escapes : Char → Bool) (p : Place) (cs : List Char) (c : Char) :
    literalMarks escapes p.state (cs ++ [c]) =
      literalMarks escapes p.state cs ++ [(p.behind escapes cs).state.marks c] := by
  induction cs generalizing p with
  | nil => rfl
  | cons d rest ih => exact congrArg (_ :: ·) (ih (p.next escapes d))

@[simp] theorem length_literalMarks (escapes : Char → Bool) (state : CodeState) (cs : List Char) :
    (literalMarks escapes state cs).length = cs.length := by
  induction cs generalizing state with
  | nil => rfl
  | cons c rest ih => simp [literalMarks, ih]

/-! ## Ends -/

/-- Closing braces stand outside literals and other braces. -/
def IsEnd (escapes : Char → Bool) (p : Place) (cs body after : List Char) : Prop :=
  cs = body ++ '}' :: '}' :: after ∧ p.behind escapes body = .outside

/-- The first closing braces outside literals and other braces. -/
structure FirstEnd (escapes : Char → Bool) (p : Place) (cs body after : List Char) : Prop where
  isEnd : IsEnd escapes p cs body after
  first : ∀ front back, IsEnd escapes p cs front back → body.length ≤ front.length

/-- The text before the first closing braces and what follows them. -/
def endFrom? (escapes : Char → Bool) : Place → List Char → Option (List Char × List Char)
  | _, [] => none
  | p, c :: rest =>
    if p = .outside ∧ c = '}' ∧ rest.head? = some '}' then some ([], rest.tail)
    else onto [c] (endFrom? escapes (p.next escapes c) rest)

variable {escapes : Char → Bool} {p : Place} {cs body after : List Char}

theorem not_isEnd_nil : ¬IsEnd escapes p [] body after := fun h => by simpa using h.1

theorem isEnd_cons_iff {c : Char} {rest : List Char} :
    IsEnd escapes p (c :: rest) body after ↔
      (body = [] ∧ p = .outside ∧ c = '}' ∧ rest = '}' :: after) ∨
        ∃ b, body = c :: b ∧ IsEnd escapes (p.next escapes c) rest b after := by
  cases body with
  | nil =>
    simp only [IsEnd, List.nil_append, List.cons.injEq, Place.behind_nil]
    tauto
  | cons d b =>
    simp only [IsEnd, List.cons_append, List.cons.injEq, Place.behind_cons]
    constructor
    · rintro ⟨⟨rfl, hrest⟩, hp⟩
      exact .inr ⟨b, ⟨rfl, rfl⟩, hrest, hp⟩
    · rintro (⟨he, -⟩ | ⟨_, ⟨rfl, rfl⟩, hrest, hp⟩)
      · cases he
      · exact ⟨⟨rfl, hrest⟩, hp⟩

theorem isEnd_cons_iff_of_not {c : Char} {rest : List Char}
    (h : ¬(p = .outside ∧ c = '}' ∧ rest.head? = some '}')) :
    IsEnd escapes p (c :: rest) body after ↔
      ∃ b, body = c :: b ∧ IsEnd escapes (p.next escapes c) rest b after := by
  rw [isEnd_cons_iff, or_iff_right]
  rintro ⟨-, hp, hc, rfl⟩
  exact h ⟨hp, hc, rfl⟩

theorem endFrom?_eq_some_iff :
    endFrom? escapes p cs = some (body, after) ↔ FirstEnd escapes p cs body after := by
  induction cs generalizing p body with
  | nil => exact ⟨fun h => (nomatch h), fun h => absurd h.isEnd not_isEnd_nil⟩
  | cons c rest ih =>
    rw [endFrom?]
    split
    · next h =>
      obtain ⟨hp, rfl, hhead⟩ := h
      obtain ⟨more, rfl⟩ := List.head?_eq_some_iff.1 hhead
      constructor
      · intro h
        cases h
        exact ⟨⟨rfl, hp⟩, fun front back _ => Nat.zero_le _⟩
      · intro h
        have hlen : body.length ≤ 0 := h.first [] more ⟨rfl, hp⟩
        obtain rfl := List.length_eq_zero_iff.1 (Nat.le_zero.1 hlen)
        obtain ⟨-, hmore⟩ := List.cons.inj (List.cons.inj h.isEnd.1).2
        rw [List.tail_cons, hmore]
    · next h =>
      rw [onto_eq_some_iff]
      constructor
      · rintro ⟨b, hb, rfl⟩
        obtain ⟨hend, hfirst⟩ := ih.1 hb
        refine ⟨(isEnd_cons_iff_of_not h).2 ⟨b, rfl, hend⟩, fun front back hfront => ?_⟩
        obtain ⟨f, rfl, hf⟩ := (isEnd_cons_iff_of_not h).1 hfront
        exact Nat.succ_le_succ (hfirst f back hf)
      · rintro ⟨hend, hfirst⟩
        obtain ⟨b, rfl, hb⟩ := (isEnd_cons_iff_of_not h).1 hend
        refine ⟨b, ih.2 ⟨hb, fun front back hfront => ?_⟩, rfl⟩
        have hle := hfirst (c :: front) back ((isEnd_cons_iff_of_not h).2 ⟨front, rfl, hfront⟩)
        exact Nat.le_of_succ_le_succ hle

theorem endFrom?_eq_none_iff :
    endFrom? escapes p cs = none ↔ ∀ body after, ¬IsEnd escapes p cs body after := by
  induction cs generalizing p with
  | nil => exact ⟨fun _ _ _ => not_isEnd_nil, fun _ => rfl⟩
  | cons c rest ih =>
    rw [endFrom?]
    split
    · next h =>
      obtain ⟨hp, rfl, hhead⟩ := h
      obtain ⟨more, rfl⟩ := List.head?_eq_some_iff.1 hhead
      exact ⟨fun he => (nomatch he), fun hnone => absurd ⟨rfl, hp⟩ (hnone [] more)⟩
    · next h =>
      rw [onto, Option.map_eq_none_iff, ih]
      constructor
      · intro hnone body after hend
        obtain ⟨b, -, hb⟩ := (isEnd_cons_iff_of_not h).1 hend
        exact hnone b after hb
      · intro hnone b after hb
        exact hnone (c :: b) after ((isEnd_cons_iff_of_not h).2 ⟨b, rfl, hb⟩)

/-- The place at which the end of a directive is looked for. -/
def placeOf : Option Char → Nat → Place
  | none, depth => ⟨.code, depth⟩
  | some q, depth => ⟨.literal q, depth⟩

/-- A directive is cut off by the reading in which every literal has escapes. -/
theorem directiveBody?_eq_endFrom? (quote : Option Char) (depth : Nat) (cs : List Char) :
    directiveBody? quote depth cs = endFrom? allEscapes (placeOf quote depth) cs := by
  fun_induction directiveBody? quote depth cs with
  | case1 => rfl
  | case2 q depth c rest ih =>
    simp [endFrom?, placeOf, Place.outside, Place.next, CodeState.next, allEscapes, onto_onto, ih]
  | case3 q depth c rest hesc ih =>
    by_cases hc : c = '\\'
    · subst hc
      cases rest with
      | nil => simp [endFrom?, directiveBody?, onto]
      | cons d more => exact absurd rfl (hesc d more rfl)
    · have hnext : (placeOf (some q) depth).next allEscapes c =
          placeOf (if c = q then none else some q) depth := by
        rw [placeOf, Place.next, CodeState.next_literal hc]
        split <;> rfl
      have hinside : placeOf (some q) depth ≠ .outside := by simp [placeOf, Place.outside]
      rw [ih, endFrom?, if_neg (c := _ ∧ _) fun h => hinside h.1, hnext]
  | case4 rest => simp [endFrom?, placeOf, Place.outside]
  | case5 depth c rest hend hq ih =>
    have hbrace : c ≠ '{' ∧ c ≠ '}' := by
      constructor <;> rintro rfl <;> exact absurd hq (by decide)
    simp [endFrom?, placeOf, Place.outside, Place.next, CodeState.next, hbrace, hq, ih]
  | case6 depth rest _ hq ih =>
    simp [endFrom?, placeOf, Place.outside, Place.next, CodeState.next, hq, ih]
  | case7 depth rest hend hq _ ih =>
    have hnot : ¬(depth = 0 ∧ rest.head? = some '}') := by
      rintro ⟨rfl, hhead⟩
      obtain ⟨more, rfl⟩ := List.head?_eq_some_iff.1 hhead
      exact hend more rfl rfl rfl
    simp [endFrom?, placeOf, Place.outside, Place.next, CodeState.next, hq, ih, hnot]
  | case8 depth c rest _ hq hopen hclose ih =>
    simp [endFrom?, placeOf, Place.outside, Place.next, CodeState.next, hopen, hclose, hq, ih]

/-- What the scanner for closing braces finds. -/
theorem directiveBody?_eq_some_iff :
    directiveBody? none 0 cs = some (body, after) ↔
      FirstEnd allEscapes .outside cs body after := by
  rw [directiveBody?_eq_endFrom?]
  exact endFrom?_eq_some_iff

theorem directiveBody?_eq_none_iff :
    directiveBody? none 0 cs = none ↔
      ∀ body after, ¬IsEnd allEscapes .outside cs body after := by
  rw [directiveBody?_eq_endFrom?]
  exact endFrom?_eq_none_iff

/-! ## Two readings of one text -/

/-- The number of backslashes at the end of a text. -/
def backslashes (cs : List Char) : Nat := (cs.rtakeWhile (· == '\\')).length

/-- A raw literal of a text closes behind an odd number of backslashes. -/
def RawBackslash (cs : List Char) : Prop :=
  ∃ front back, cs = front ++ '\x60' :: back ∧
    (Place.outside.behind goEscapes front).state = .literal '\x60' ∧ backslashes front % 2 = 1

theorem backslashes_concat (cs : List Char) (c : Char) :
    backslashes (cs ++ [c]) = if c = '\\' then backslashes cs + 1 else 0 := by
  by_cases hc : c = '\\' <;> simp [backslashes, hc]

theorem not_rawBackslash_nil : ¬RawBackslash [] := fun ⟨_, _, h, _⟩ => by simp at h

theorem RawBackslash.append (h : RawBackslash cs) (more : List Char) :
    RawBackslash (cs ++ more) := by
  obtain ⟨front, back, rfl, hf⟩ := h
  exact ⟨front, back ++ more, by simp, hf⟩

theorem rawBackslash_concat_iff {c : Char} :
    RawBackslash (cs ++ [c]) ↔ RawBackslash cs ∨
      c = '\x60' ∧ (Place.outside.behind goEscapes cs).state = .literal '\x60' ∧
        backslashes cs % 2 = 1 := by
  constructor
  · rintro ⟨front, back, he, hf⟩
    rcases List.eq_nil_or_concat back with rfl | ⟨back, d, rfl⟩
    · obtain ⟨rfl, hc⟩ := List.append_inj' he rfl
      exact .inr ⟨(List.cons.inj hc).1, hf⟩
    · rw [List.concat_eq_append, ← List.cons_append, ← List.append_assoc] at he
      obtain ⟨rfl, -⟩ := List.append_inj' he rfl
      exact .inl ⟨front, back, rfl, hf⟩
  · rintro (h | ⟨rfl, hf⟩)
    · exact h.append [c]
    · exact ⟨cs, [], rfl, hf⟩

/-- Both readings of a text stand at the same place, but in a raw literal one of them may take the
last backslash for an escape. -/
structure InStep (cs : List Char) (go all : Place) : Prop where
  depth : all.depth = go.depth
  state : all.state =
    if go.state = .literal '\x60' ∧ backslashes cs % 2 = 1 then .escaped '\x60' else go.state
  raw : go.state ≠ .escaped '\x60'

/-- Two readings that do not get outside literals together as long as they mark the same
characters: literals with different quotes are open, or one that the other reading has closed. -/
inductive Diverged : CodeState → CodeState → Prop
  | left {q : Char} (hq : q ≠ '\\') : Diverged .code (.literal q)
  | right {q : Char} (hq : q ≠ '\\') : Diverged (.literal q) .code
  | both {go all : CodeState} {q r : Char} (hgo : go.quote? = some q) (hall : all.quote? = some r)
      (hq : q ≠ '\\') (hr : r ≠ '\\') (hne : q ≠ r) : Diverged go all

theorem Diverged.symm {go all : CodeState} (h : Diverged go all) : Diverged all go := by
  cases h with
  | left hq => exact .right hq
  | right hq => exact .left hq
  | both hgo hall hq hr hne => exact .both hall hgo hr hq hne.symm

theorem not_diverged_code : ¬Diverged .code .code := by
  intro h
  cases h with
  | both hgo => cases hgo

/-- A reading in code goes on with a literal where the other one has a literal open. -/
theorem diverged_next_of_code {q c : Char} (hq : q ≠ '\\')
    (hc : (CodeState.literal q).marks c = CodeState.code.marks c) (escapes escapes' : Char → Bool) :
    Diverged (CodeState.code.next escapes c) ((CodeState.literal q).next escapes' c) := by
  have hquote : isQuote c = true := by
    rw [CodeState.marks, CodeState.marks, decide_eq_true (by simp)] at hc
    simpa using hc.symm
  have hb := ne_backslash_of_isQuote hquote
  rw [CodeState.next_code hquote, CodeState.next_literal hb]
  split
  · exact .right hb
  · next hne => exact .both rfl rfl hb hq hne

/-- Readings that are apart stay apart where they mark the same character. -/
theorem Diverged.next {go all : CodeState} {c : Char} (h : Diverged go all)
    (hc : all.marks c = go.marks c) (escapes escapes' : Char → Bool) :
    Diverged (go.next escapes c) (all.next escapes' c) := by
  cases h with
  | left hq => exact diverged_next_of_code hq hc escapes escapes'
  | right hq => exact (diverged_next_of_code hq hc.symm escapes' escapes).symm
  | both hgo hall hq hr hne =>
    rcases CodeState.next_of_quote? hgo escapes c with ⟨rfl, hcode⟩ | hopen
    · rw [hcode, CodeState.next_eq_literal hall hq hne]
      exact .left hr
    · rcases CodeState.next_of_quote? hall escapes' c with ⟨rfl, hcode⟩ | hopen'
      · rw [hcode, CodeState.next_eq_literal hgo hr hne.symm]
        exact .right hq
      · exact .both hopen hopen' hq hr hne

namespace InStep

variable {go all : Place} {c : Char}

theorem code_iff (h : InStep cs go all) : all.state = .code ↔ go.state = .code := by
  rw [h.state]
  split
  · next hraw => simp [hraw.1]
  · rfl

theorem marks (h : InStep cs go all) (c : Char) : all.state.marks c = go.state.marks c := by
  rw [CodeState.marks, CodeState.marks, decide_eq_decide.2 (not_congr h.code_iff)]

theorem outside_iff (h : InStep cs go all) : all = .outside ↔ go = .outside := by
  simp only [Place.ext_iff, Place.outside, h.code_iff, h.depth]

/-- A raw literal that closes behind an escape is closed in one reading only. -/
theorem diverged (h : InStep cs go all) (hgo : go.state = .literal '\x60')
    (hodd : backslashes cs % 2 = 1) :
    Diverged (go.next goEscapes '\x60').state (all.next allEscapes '\x60').state := by
  have hall : all.state = .escaped '\x60' := by rw [h.state, if_pos ⟨hgo, hodd⟩]
  simp only [Place.next, hgo, hall]
  exact .left (by decide)

/-- Outside raw literals both readings go on in the same way. -/
theorem state_next (h : InStep cs go all) (hgo : go.state ≠ .literal '\x60') :
    (all.next allEscapes c).state = (go.next goEscapes c).state := by
  have hall : all.state = go.state := by rw [h.state, if_neg fun hraw => hgo hraw.1]
  simp only [Place.next, hall]
  cases hs : go.state with
  | code | escaped q => rfl
  | literal q =>
    have hq : q ≠ '\x60' := by
      rintro rfl
      exact hgo hs
    simp [CodeState.next, goEscapes, allEscapes, hq]

/-- Outside raw literals a raw literal is open behind a backtick only. -/
theorem eq_of_next_state (h : InStep cs go all) (hgo : go.state ≠ .literal '\x60')
    (hnext : (go.next goEscapes c).state = .literal '\x60') : c = '\x60' := by
  simp only [Place.next] at hnext
  cases hs : go.state with
  | code =>
    rw [hs, CodeState.next] at hnext
    split at hnext
    · exact CodeState.literal.inj hnext
    · cases hnext
  | escaped q =>
    rw [hs] at hnext
    exact absurd (hs.trans (congrArg _ (CodeState.literal.inj hnext))) h.raw
  | literal q =>
    rw [hs, CodeState.next] at hnext
    split at hnext
    · cases hnext
    · split at hnext
      · cases hnext
      · exact absurd (hs.trans hnext) hgo

/-- In a raw literal a backslash counts in one reading only. -/
theorem state_next_of_raw (h : InStep cs go all) (hgo : go.state = .literal '\x60')
    (hc : ¬(c = '\x60' ∧ backslashes cs % 2 = 1)) :
    (all.next allEscapes c).state =
      if (go.next goEscapes c).state = .literal '\x60' ∧ backslashes (cs ++ [c]) % 2 = 1 then
        .escaped '\x60'
      else (go.next goEscapes c).state := by
  have hall := h.state
  simp only [hgo, true_and] at hall
  simp only [Place.next, hgo, hall, backslashes_concat]
  by_cases hslash : c = '\\'
  · subst hslash
    have hopen : (CodeState.literal '\x60').next goEscapes '\\' = .literal '\x60' := by decide
    rw [if_pos rfl, hopen]
    split
    · rw [if_neg (by omega)]
      rfl
    · rw [if_pos ⟨rfl, by omega⟩]
      rfl
  · rw [if_neg hslash, if_neg (c := _ ∧ _) (by simp), CodeState.next_literal hslash]
    by_cases hodd : backslashes cs % 2 = 1
    · rw [if_pos hodd, if_neg fun he => hc ⟨he, hodd⟩]
      rfl
    · rw [if_neg hodd, CodeState.next_literal hslash]

/-- A character that does not close a raw literal behind an odd number of backslashes keeps the
readings in step. -/
theorem next (h : InStep cs go all)
    (hc : ¬(c = '\x60' ∧ go.state = .literal '\x60' ∧ backslashes cs % 2 = 1)) :
    InStep (cs ++ [c]) (go.next goEscapes c) (all.next allEscapes c) where
  depth := by simp only [Place.next, h.code_iff, h.depth]
  state := by
    by_cases hgo : go.state = .literal '\x60'
    · exact h.state_next_of_raw hgo fun hodd => hc ⟨hodd.1, hgo, hodd.2⟩
    · rw [h.state_next hgo, if_neg]
      rintro ⟨hnext, hodd⟩
      obtain rfl := h.eq_of_next_state hgo hnext
      simp [backslashes_concat] at hodd
  raw := by
    simp only [Place.next]
    cases go.state with
    | code => rw [CodeState.next]; split <;> simp
    | escaped q => simp [CodeState.next]
    | literal q =>
      rw [CodeState.next]
      split
      · next he =>
        rintro he'
        cases he'
        exact absurd he.2 (by decide)
      · split <;> simp

end InStep

/-! ## Whole texts -/

/-- Two readings of a text are in step until a raw literal closes behind an odd number of
backslashes. Then they are apart if they mark the same characters. -/
theorem inStep_or_diverged (cs : List Char) :
    ¬RawBackslash cs ∧ InStep cs (Place.outside.behind goEscapes cs)
        (Place.outside.behind allEscapes cs) ∨
      RawBackslash cs ∧ (literalMarks allEscapes .code cs = literalMarks goEscapes .code cs →
        Diverged (Place.outside.behind goEscapes cs).state
          (Place.outside.behind allEscapes cs).state) := by
  induction cs using List.reverseRecOn with
  | nil => exact .inl ⟨not_rawBackslash_nil, rfl, rfl, by simp [Place.outside]⟩
  | append_singleton front c ih =>
    rw [rawBackslash_concat_iff, Place.behind_concat, Place.behind_concat]
    rcases ih with ⟨hnot, hstep⟩ | ⟨hraw, hdiverged⟩
    · by_cases hc : c = '\x60' ∧ (Place.outside.behind goEscapes front).state = .literal '\x60' ∧
        backslashes front % 2 = 1
      · refine .inr ⟨.inr hc, fun _ => ?_⟩
        obtain ⟨rfl, hgo, hodd⟩ := hc
        exact hstep.diverged hgo hodd
      · exact .inl ⟨not_or.2 ⟨hnot, hc⟩, hstep.next hc⟩
    · refine .inr ⟨.inl hraw, fun hmarks => ?_⟩
      have hall := literalMarks_concat allEscapes .outside front c
      have hgo := literalMarks_concat goEscapes .outside front c
      rw [Place.outside] at hall hgo
      rw [hall, hgo] at hmarks
      obtain ⟨hfront, hlast⟩ := List.append_inj hmarks (by simp)
      exact (hdiverged hfront).next (List.cons.inj hlast).1 _ _

theorem inStep_of_not_rawBackslash (h : ¬RawBackslash cs) :
    InStep cs (Place.outside.behind goEscapes cs) (Place.outside.behind allEscapes cs) := by
  rcases inStep_or_diverged cs with ⟨-, hstep⟩ | ⟨hraw, -⟩
  · exact hstep
  · exact absurd hraw h

/-- Both readings find the same literals if no raw literal closes behind an odd number of
backslashes. -/
theorem literalMarks_eq_of_not_rawBackslash (h : ¬RawBackslash cs) :
    literalMarks allEscapes .code cs = literalMarks goEscapes .code cs := by
  induction cs using List.reverseRecOn with
  | nil => rfl
  | append_singleton front c ih =>
    have hfront : ¬RawBackslash front := fun hraw => h (hraw.append [c])
    have hall := literalMarks_concat allEscapes .outside front c
    have hgo := literalMarks_concat goEscapes .outside front c
    rw [Place.outside] at hall hgo
    rw [hall, hgo, ih hfront]
    exact congrArg (_ ++ [·]) ((inStep_of_not_rawBackslash hfront).marks c)

/-- Then they find the same ends as well. -/
theorem isEnd_iff_of_not_rawBackslash (h : ¬RawBackslash body) :
    IsEnd allEscapes .outside cs body after ↔ IsEnd goEscapes .outside cs body after :=
  and_congr_right fun _ => (inStep_of_not_rawBackslash h).outside_iff

/-- A text at whose end both readings are outside, with the same literals in it, has no raw literal
that closes behind an odd number of backslashes. -/
theorem not_rawBackslash_of_outside (hgo : Place.outside.behind goEscapes cs = .outside)
    (hall : Place.outside.behind allEscapes cs = .outside)
    (hmarks : literalMarks allEscapes .code cs = literalMarks goEscapes .code cs) :
    ¬RawBackslash cs := by
  intro hraw
  rcases inStep_or_diverged cs with ⟨hnot, -⟩ | ⟨-, hdiverged⟩
  · exact hnot hraw
  · have h := hdiverged hmarks
    rw [hgo, hall] at h
    exact not_diverged_code h

/-- Of two ends of a text, the shorter body is in the longer one. -/
theorem prefix_of_isEnd {escapes' : Char → Bool} {front back : List Char}
    (h : IsEnd escapes p cs body after) (hfront : IsEnd escapes' p cs front back)
    (hlen : front.length ≤ body.length) : front <+: body :=
  List.prefix_of_prefix_length_le ⟨_, hfront.1.symm⟩ ⟨_, h.1.symm⟩ hlen

/-- The end of a directive is where it is in Go, and the reader of its words sees the same
literals. -/
structure FollowsGo (cs : List Char) : Prop where
  first : ∀ {body after}, directiveBody? none 0 cs = some (body, after) →
    FirstEnd goEscapes .outside cs body after
  literals : ∀ {body after}, directiveBody? none 0 cs = some (body, after) →
    literalMarks allEscapes .code body = literalMarks goEscapes .code body
  complete : directiveBody? none 0 cs = none → ∀ body after, ¬IsEnd goEscapes .outside cs body after

theorem FollowsGo.not_rawBackslash (h : FollowsGo cs)
    (hbody : directiveBody? none 0 cs = some (body, after)) : ¬RawBackslash body :=
  not_rawBackslash_of_outside (h.first hbody).isEnd.2 (directiveBody?_eq_some_iff.1 hbody).isEnd.2
    (h.literals hbody)

/-- What is found is Go's end if no raw literal in it closes behind an odd number of backslashes. -/
theorem firstEnd_of_directiveBody? (h : directiveBody? none 0 cs = some (body, after))
    (hraw : ¬RawBackslash body) : FirstEnd goEscapes .outside cs body after := by
  obtain ⟨hend, hfirst⟩ := directiveBody?_eq_some_iff.1 h
  refine ⟨(isEnd_iff_of_not_rawBackslash hraw).1 hend, fun front back hfront => ?_⟩
  by_contra hlt
  obtain ⟨more, rfl⟩ := prefix_of_isEnd hend hfront (by omega)
  have hnot : ¬RawBackslash front := fun hr => hraw (hr.append more)
  exact hlt (hfirst front back ((isEnd_iff_of_not_rawBackslash hnot).2 hfront))

theorem followsGo_iff :
    FollowsGo cs ↔ ∀ body after, FirstEnd goEscapes .outside cs body after ∨
      directiveBody? none 0 cs = some (body, after) → ¬RawBackslash body := by
  constructor
  · rintro h body after (hend | hbody)
    · cases hd : directiveBody? none 0 cs with
      | none => exact absurd hend.isEnd (h.complete hd body after)
      | some cut =>
        have hsame : some cut = some (body, after) := by
          rw [← endFrom?_eq_some_iff.2 (h.first hd), ← endFrom?_eq_some_iff.2 hend]
        exact h.not_rawBackslash (hd.trans hsame)
    · exact h.not_rawBackslash hbody
  · intro h
    refine ⟨fun hbody => firstEnd_of_directiveBody? hbody (h _ _ (.inr hbody)), fun hbody =>
      literalMarks_eq_of_not_rawBackslash (h _ _ (.inr hbody)), fun hnone body after hend => ?_⟩
    cases hgo : endFrom? goEscapes .outside cs with
    | none => exact endFrom?_eq_none_iff.1 hgo body after hend
    | some cut =>
      have hfirst := endFrom?_eq_some_iff.1 hgo
      have hraw := h cut.1 cut.2 (.inl hfirst)
      exact directiveBody?_eq_none_iff.1 hnone cut.1 cut.2
        ((isEnd_iff_of_not_rawBackslash hraw).2 hfirst.isEnd)

/-- A directive ends at the first closing braces outside braces and literals if a backslash is an
escape in literals of every kind. Reserved names are looked for outside Go's literals. So the end is
Go's and the literals are the same exactly if no raw literal in the body, cut off in either way,
closes behind an odd number of backslashes. -/
theorem directive_end (cs : List Char) :
    (∀ body after, directiveBody? none 0 cs = some (body, after) ↔
      FirstEnd allEscapes .outside cs body after) ∧
    (∀ body, blankLiterals .code body = blankMarked body (literalMarks goEscapes .code body)) ∧
    (FollowsGo cs ↔ ∀ body after, FirstEnd goEscapes .outside cs body after ∨
      directiveBody? none 0 cs = some (body, after) → ¬RawBackslash body) :=
  ⟨fun _ _ => directiveBody?_eq_some_iff, blankLiterals_eq_blankMarked .code, followsGo_iff⟩

/-- A backslash in front of the closing backtick hides it, and the directive has no end. -/
theorem not_followsGo_of_backslash :
    ¬FollowsGo "if name == `\\`\x7d\x7d x \x7b\x7bend\x7d\x7d".toList := by
  intro h
  have hend : IsEnd goEscapes .outside "if name == `\\`\x7d\x7d x \x7b\x7bend\x7d\x7d".toList
      "if name == `\\`".toList " x \x7b\x7bend\x7d\x7d".toList := ⟨rfl, by decide⟩
  exact h.complete (by decide) _ _ hend

end QueryGen.Template
