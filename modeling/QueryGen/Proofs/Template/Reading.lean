import QueryGen.Results
import QueryGen.Template.Tokenize

/-!
# What reading a piece can do

- `Piece.IsRead`: the states that reading a piece can lead to, one case for each kind of section.
- `isRead_of_readPiece`: reading does nothing else.
- `tokenize_induction`: what every piece keeps holds of a finished reading.
- `tokenize_ofList`: how the letters of a template are read.
- `found_of_resolve`: what looking a path up finds.
- `isNameChar_of_mem_pieces`, `nameOnly_of_tokenize`: the names of references, in which no blank
  stands.
-/

namespace QueryGen.Template

/-! ## Cases of a piece -/

/-- The variables that a loop opens, with their types. -/
def LoopVars.ofRange (r : ForRange) : LoopVars :=
  let types := r.type.rangeTypes?.getD (.unknown, .unknown)
  ⟨r.index, types.1, r.value, types.2⟩

/-- The type of a range, by what the path at its start was found to be. -/
def rangeType (range : String) (found : ParamRef) : GoType :=
  if rangePath range = range.toList then found.type else .unknown

/-- The state `r` with a loop opened. -/
def Reading.openRange (r : Reading) (range : ForRange) : Reading :=
  { r.open_ (some (.ofRange range)) with
    loopValues := if range.value = "_" then r.loopValues else range.value :: r.loopValues }.add
    (.loop range)

/-- What reading a piece can lead to. -/
inductive Piece.IsRead (scope : Scope) (source : String) (r : Reading) (p : Piece) :
    Reading → Prop where
  | text (buffer : SqlBuffer) : IsRead scope source r p { r with buffer }
  | data {name : List Char} {ref : ParamRef} (hp : p = .ref false name)
      (h : resolve scope source (r.flush true) name = .ok ref) :
      IsRead scope source r p ((r.flush true).add (.data ref))
  | quoted {name : List Char} {ref : ParamRef} (hp : p = .ref true name)
      (h : resolve scope source (r.flush true) name = .ok ref) (hs : ref.type.isString = true) :
      IsRead scope source r p ((r.flush true).add (.quoted ref))
  | branch (cond : String) :
      IsRead scope source r p (((r.flush false).open_ none).add (.branch cond))
  | otherwise (cond : Option String) :
      IsRead scope source r p ((r.flush false).add (.otherwise cond))
  | join (kind : JoinKind) :
      IsRead scope source r p (((r.flush false).open_ none).add (.join kind))
  | close : IsRead scope source r p ((r.flush false).close.add .close)
  | loop {body : List Char} {index value range : String} {found : ParamRef}
      (hc : classify body = .ok (.loop index value range))
      (h : resolve scope source (r.flush false) (Text.dropEndWhile (· == '.') (rangePath range)) =
        .ok found) :
      IsRead scope source r p
        ((r.flush false).openRange ⟨index, value, range, rangeType range found⟩)

theorem openRange_of_openLoop {scope : Scope} {receiver : Option String}
    {source body index value range : String} {r r' : Reading}
    (h : openLoop scope receiver source body r index value range = .ok r') :
    ∃ found, resolve scope source r (Text.dropEndWhile (· == '.') (rangePath range)) = .ok found ∧
      r' = r.openRange ⟨index, value, range, rangeType range found⟩ := by
  unfold openLoop at h
  split at h
  · simp at h
  · split at h
    · simp at h
    · simp only [] at h
      split at h
      · simp at h
      · obtain ⟨found, hf, h⟩ := bind_eq_ok_iff.1 h
        refine ⟨found, hf, ?_⟩
        cases h
        rfl

theorem isRead_of_readRef {scope : Scope} {source : String} {r r' : Reading} {doubled : Bool}
    {name : List Char} (h : readRef scope source r doubled name = .ok r') :
    (Piece.ref doubled name).IsRead scope source r r' := by
  unfold readRef at h
  split at h
  · cases h
    exact .text _
  · obtain ⟨ref, hr, h⟩ := bind_eq_ok_iff.1 h
    cases doubled with
    | false =>
      cases h
      exact .data rfl hr
    | true =>
      simp only [↓reduceIte] at h
      split at h
      · next hs =>
        cases h
        exact .quoted rfl hr hs
      · cases h

theorem isRead_of_readBody {scope : Scope} {receiver : Option String} {source : String}
    {r r' : Reading} {body : List Char}
    (h : readBody scope receiver source (r.flush false) body = .ok r') :
    (Piece.directive body).IsRead scope source r r' := by
  unfold readBody at h
  obtain ⟨directive, hc, h⟩ := bind_eq_ok_iff.1 h
  cases directive with
  | branch cond =>
    cases h
    exact .branch cond
  | otherwise cond =>
    cases h
    exact .otherwise cond
  | join kind =>
    cases h
    exact .join kind
  | close =>
    cases h
    exact .close
  | loop index value range =>
    obtain ⟨found, hf, rfl⟩ := openRange_of_openLoop h
    exact .loop hc hf

/-- Reading a piece does one of the listed things. -/
theorem isRead_of_readPiece {scope : Scope} {receiver : Option String} {source : String}
    {r r' : Reading} {p : Piece} (h : readPiece scope receiver source r p = .ok r') :
    p.IsRead scope source r r' := by
  cases p with
  | plain c | quoted cs | escapedAt =>
    cases h
    exact .text _
  | ref doubled name => exact isRead_of_readRef h
  | directive body => exact isRead_of_readBody h
  | broken rest => cases h

/-! ## Whole readings -/

theorem foldlM_readPiece_induction {scope : Scope} {receiver : Option String} {source : String}
    {P : Reading → Prop} {ps : List Piece}
    (step : ∀ r p r', p ∈ ps → P r → readPiece scope receiver source r p = .ok r' → P r')
    {r r' : Reading} (hr : P r) (h : ps.foldlM (readPiece scope receiver source) r = .ok r') :
    P r' := by
  induction ps generalizing r with
  | nil =>
    cases h
    exact hr
  | cons p rest ih =>
    rw [List.foldlM_cons] at h
    obtain ⟨next, hn, h⟩ := bind_eq_ok_iff.1 h
    exact ih (fun r q r' hq => step r q r' (List.mem_cons_of_mem _ hq))
      (step r p next List.mem_cons_self hr hn) h

/-- What holds at first and is kept by every piece that is read holds of a finished reading. -/
theorem tokenize_readPiece_induction {template : String} {scope : Scope}
    {receiver : Option String} {sections : List Section} {P : Reading → Prop} (start : P {})
    (step : ∀ r p r', p ∈ pieces template.toList → P r →
      readPiece scope receiver (trimmed template) r p = .ok r' → P r')
    (h : tokenize template scope receiver = .ok sections) : ∃ r, P r ∧ r.sections = sections := by
  unfold tokenize at h
  obtain ⟨r, hr, h⟩ := bind_eq_ok_iff.1 h
  cases h
  exact ⟨r, foldlM_readPiece_induction step start hr, rfl⟩

/-- What holds at first and is kept by every piece holds of a finished reading. -/
theorem tokenize_induction {template : String} {scope : Scope} {receiver : Option String}
    {sections : List Section} {P : Reading → Prop} (start : P {})
    (step : ∀ r p r', p ∈ pieces template.toList → P r →
      p.IsRead scope (trimmed template) r r' → P r')
    (h : tokenize template scope receiver = .ok sections) : ∃ r, P r ∧ r.sections = sections :=
  tokenize_readPiece_induction start
    (fun r p r' hp hr hn => step r p r' hp hr (isRead_of_readPiece hn)) h

/-- The sections of a template that is given by its letters. -/
def tokenizeLetters (letters : List Char) (scope : Scope) (receiver : Option String := none) :
    Except TemplateError (List Section) := do
  let r ← (pieces letters).foldlM (readPiece scope receiver (.ofList (Text.trim letters))) {}
  return r.sections

/-- A template is read by its letters, which need not be decoded from its bytes. -/
theorem tokenize_ofList (letters : List Char) (scope : Scope) (receiver : Option String) :
    tokenize (.ofList letters) scope receiver = tokenizeLetters letters scope receiver := by
  rw [tokenize, trimmed, String.toList_ofList, tokenizeLetters]

/-! ## Collected text -/

/-- Flushing adds a piece of text at most. -/
theorem reversed_flush (r : Reading) (keepBlank : Bool) :
    (r.flush keepBlank).reversed = r.reversed ∨
      ∃ text, (r.flush keepBlank).reversed = .literal text :: r.reversed := by
  unfold Reading.flush
  split
  · exact .inl rfl
  · exact .inr ⟨_, rfl⟩

@[simp] theorem blocks_flush (r : Reading) (keepBlank : Bool) :
    (r.flush keepBlank).blocks = r.blocks := by
  unfold Reading.flush
  split <;> rfl

/-! ## Names of references -/

theorem isNameChar_splitName (cs : List Char) : ∀ c ∈ (splitName cs).1, isNameChar c = true := by
  intro c hc
  have hd : (splitName cs).1 <+: cs.takeWhile isNameChar := by
    simp only [splitName, Text.dropEndWhile]
    rw [← List.reverse_suffix, List.reverse_reverse]
    exact List.dropWhile_suffix _
  exact List.all_eq_true.1 List.all_takeWhile c (hd.subset hc)

theorem isNameChar_firstPiece {c : Char} {rest name : List Char} {doubled : Bool}
    (h : (firstPiece c rest).1 = .ref doubled name) : ∀ d ∈ name, isNameChar d = true := by
  unfold firstPiece at h
  split at h
  · split at h <;> simp at h
  · split at h
    · simp at h
    · split at h <;> simp at h
    · next inner _ =>
      split at h
      · simp at h
      · next hs =>
        cases h
        have := isNameChar_splitName inner
        rwa [hs] at this
    · split at h
      · simp at h
      · next hs =>
        cases h
        have := isNameChar_splitName rest
        rwa [hs] at this
    · simp at h

/-- The name of a reference has the characters of names only. -/
theorem isNameChar_of_mem_pieces {cs name : List Char} {doubled : Bool}
    (h : Piece.ref doubled name ∈ pieces cs) : ∀ c ∈ name, isNameChar c = true := by
  fun_induction pieces cs with
  | case1 => simp at h
  | case2 c rest ih =>
    rcases List.mem_cons.1 h with h | h
    · exact isNameChar_firstPiece h.symm
    · exact ih h

/-- The code points of blanks. -/
def blanks : List Nat :=
  [0x09, 0x0A, 0x0B, 0x0C, 0x0D, 0x20, 0x85, 0xA0, 0x1680, 0x2000, 0x2001, 0x2002, 0x2003, 0x2004,
   0x2005, 0x2006, 0x2007, 0x2008, 0x2009, 0x200A, 0x2028, 0x2029, 0x202F, 0x205F, 0x3000]

theorem toNat_mem_blanks {c : Char} (h : Text.isBlank c = true) : c.toNat ∈ blanks := by
  simp only [Text.isBlank, Text.inIntervals, List.any_cons, List.any_nil, Bool.or_eq_true,
    Bool.and_eq_true, decide_eq_true_eq, Bool.or_false] at h
  simp only [blanks, List.mem_cons, List.not_mem_nil, or_false]
  omega

/-- What holds of the blanks one by one holds of every blank. -/
theorem of_forall_blanks (P : Char → Prop) (h : ∀ n ∈ blanks, P (Char.ofNat n)) {c : Char}
    (hc : Text.isBlank c = true) : P c := by
  have hp := h c.toNat (toNat_mem_blanks hc)
  rwa [Char.ofNat_toNat] at hp

/-- No blank belongs to a name. -/
theorem isBlank_of_isNameChar {c : Char} (h : isNameChar c = true) : Text.isBlank c = false := by
  refine Bool.eq_false_iff.2 fun hb => ?_
  have hname : isNameChar c = false :=
    of_forall_blanks (fun c => isNameChar c = false) (by decide +kernel) hb
  rw [h] at hname
  cases hname

/-- The first part of a cut ends where the first cut is. -/
theorem splitWith_eq_cons {α : Type} (p : α → Bool) (cs : List α) :
    ∃ parts, Text.splitWith p cs = (cs.takeWhile fun c => !p c) :: parts := by
  induction cs with
  | nil => exact ⟨[], rfl⟩
  | cons c rest ih =>
    obtain ⟨parts, hp⟩ := ih
    unfold Text.splitWith
    by_cases hc : p c = true
    · exact ⟨Text.splitWith p rest, by simp [hc]⟩
    · exact ⟨parts, by simp [hc, hp]⟩

/-- What lookup finds: the variable of the first name, and a type behind the other ones. -/
theorem found_of_resolve {scope : Scope} {source : String} {r : Reading} {path : List Char}
    {ref : ParamRef} (h : resolve scope source r path = .ok ref) :
    ∃ root fields origin type last,
      (Text.splitOn '.' path).map String.ofList = root :: fields ∧ root ≠ "_" ∧
        rootType? scope r root = some (origin, type) ∧
        fieldsType scope source (.ofList path) type fields = .ok last ∧
        ref = ⟨.ofList path, origin, last⟩ := by
  unfold resolve at h
  simp only [] at h
  split at h
  · cases h
  · next root fields hs =>
    split at h
    · cases h
    · next hroot =>
      split at h
      · cases h
      · next origin type ht =>
        obtain ⟨last, hl, h⟩ := bind_eq_ok_iff.1 h
        exact ⟨root, fields, origin, type, last, hs, fun he => hroot (.inr he), ht, hl,
          (Except.ok.inj h).symm⟩

/-- Lookup keeps the path as it is written. -/
theorem path_of_resolve {scope : Scope} {source : String} {r : Reading} {path : List Char}
    {ref : ParamRef} (h : resolve scope source r path = .ok ref) : ref.path = .ofList path := by
  obtain ⟨root, fields, origin, type, last, -, -, -, -, rfl⟩ := found_of_resolve h
  rfl

/-- A section of a value that is bound has a name for its path. -/
def NameOnly : Section → Prop
  | .data ref => ∀ c ∈ ref.path.toList, isNameChar c = true
  | _ => True

theorem nameOnly_flush {r : Reading} (h : ∀ s ∈ r.reversed, NameOnly s) (keepBlank : Bool) :
    ∀ s ∈ (r.flush keepBlank).reversed, NameOnly s := by
  rcases reversed_flush r keepBlank with hr | ⟨text, hr⟩
  · rw [hr]
    exact h
  · rw [hr]
    exact List.forall_mem_cons.2 ⟨trivial, h⟩

/-- The paths of values that are bound are names. -/
theorem nameOnly_of_tokenize {template : String} {scope : Scope} {receiver : Option String}
    {sections : List Section} (h : tokenize template scope receiver = .ok sections) :
    ∀ s ∈ sections, NameOnly s := by
  have step : ∀ r p r', p ∈ pieces template.toList → (∀ s ∈ r.reversed, NameOnly s) →
      p.IsRead scope (trimmed template) r r' → ∀ s ∈ r'.reversed, NameOnly s := by
    intro r p r' hp hr hn
    cases hn with
    | text buffer => exact hr
    | data hname href =>
      refine List.forall_mem_cons.2 ⟨fun c hc => ?_, nameOnly_flush hr true⟩
      rw [path_of_resolve href, String.toList_ofList] at hc
      exact isNameChar_of_mem_pieces (hname ▸ hp) c hc
    | quoted hname href hs => exact List.forall_mem_cons.2 ⟨trivial, nameOnly_flush hr true⟩
    | branch | otherwise | join | close | loop =>
      exact List.forall_mem_cons.2 ⟨trivial, nameOnly_flush hr false⟩
  obtain ⟨r, hr, rfl⟩ := tokenize_induction (by simp) step h
  intro s hs
  exact nameOnly_flush hr false s (List.mem_reverse.1 hs)

end QueryGen.Template
