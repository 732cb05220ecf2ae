import QueryGen.Proofs.Method.DocTexts
import QueryGen.Proofs.Model.TagPairs
import QueryGen.Proofs.Naming.Qualified
import QueryGen.Schema.DataType

/-!
# Values of enumerations

The declaration of an enumeration lists its values in single quotes. It is read in lower case and
cut at every comma, also inside the quotes.

- `Text.lowerFrom_append`: the lower case of a text, up to a place where no sigma looks across.
- `EnumEntry`: a value as it stands in a declaration. `enumDeclaration`: the declaration.
- `DataType.ofSql_enumDeclaration`: the values that are read from a declaration, one entry after
  the other.
- `DataType.ofSql_enum_iff`: they are the declared ones exactly if these are in lower case and hold
  no comma.
-/

namespace QueryGen

/-! ## Lower case of parts -/

namespace Text

variable {a b before cs : List Char} {c d : Char}

/-- Nothing behind the character matters for a sigma in front of it, and the other way round. -/
def stopsSigma (c : Char) : Bool := !isCaseIgnorable c && !isCased c

theorem nextIsCased_of_stop (h : stopsSigma c = true) (rest : List Char) :
    nextIsCased (c :: rest) = false := by
  simp only [stopsSigma, Bool.and_eq_true, Bool.not_eq_true'] at h
  rw [nextIsCased, List.dropWhile_cons_of_neg (by simp [h.1])]
  exact h.2

theorem nextIsCased_append (h : nextIsCased b = false) (a : List Char) :
    nextIsCased (a ++ b) = nextIsCased a := by
  induction a with
  | nil => exact h
  | cons c rest ih =>
    by_cases hc : isCaseIgnorable c = true
    · have hdrop : ∀ l, nextIsCased (c :: l) = nextIsCased l := fun l => by
        rw [nextIsCased, nextIsCased, List.dropWhile_cons_of_pos hc]
      rw [List.cons_append, hdrop, hdrop, ih]
    · rw [List.cons_append, nextIsCased, nextIsCased, List.dropWhile_cons_of_neg hc,
        List.dropWhile_cons_of_neg hc]

/-- The text in front of a stop is lowered by itself. -/
theorem lowerFrom_append (h : nextIsCased b = false) (before a : List Char) :
    lowerFrom before (a ++ b) = lowerFrom before a ++ lowerFrom (a.reverse ++ before) b := by
  induction a generalizing before with
  | nil => rfl
  | cons c rest ih =>
    have hsigma : sigma before (rest ++ b) = sigma before rest := by
      rw [sigma, sigma, nextIsCased_append h]
    rw [List.cons_append, lowerFrom, lowerFrom, ih, hsigma, List.reverse_cons, List.append_assoc,
      List.append_assoc, List.singleton_append]

/-- So is the text behind a stop. -/
theorem lowerFrom_of_stop (h : nextIsCased b = false) (a cs : List Char) :
    lowerFrom (a ++ b) cs = lowerFrom a cs := by
  induction cs generalizing a with
  | nil => rfl
  | cons c rest ih =>
    have hsigma : sigma (a ++ b) rest = sigma a rest := by
      rw [sigma, sigma, nextIsCased_append h]
    rw [lowerFrom, lowerFrom, hsigma, ← List.cons_append, ih]

/-- A character that is its own lower case. -/
def isSmall (c : Char) : Bool := c ≠ 'Σ' && lowerChar c == [c]

theorem lowerFrom_small_append (h : ∀ c ∈ a, isSmall c = true) (before b : List Char) :
    lowerFrom before (a ++ b) = a ++ lowerFrom (a.reverse ++ before) b := by
  induction a generalizing before with
  | nil => rfl
  | cons c rest ih =>
    obtain ⟨hc, hrest⟩ := List.forall_mem_cons.1 h
    simp only [isSmall, Bool.and_eq_true, decide_eq_true_eq, beq_iff_eq] at hc
    rw [List.cons_append, lowerFrom, if_neg hc.1, hc.2, ih hrest, List.singleton_append,
      List.reverse_cons, List.append_assoc, List.singleton_append, List.cons_append]

theorem isSmall_of_isBlank (h : isBlank c = true) : isSmall c = true :=
  Template.of_forall_blanks (fun c => isSmall c = true) (by decide +kernel) h

theorem stopsSigma_of_isBlank (h : isBlank c = true) : stopsSigma c = true :=
  Template.of_forall_blanks (fun c => stopsSigma c = true) (by decide +kernel) h

/-- What a mapping gives is a character behind all capitals of ASCII. -/
theorem lt_toNat_of_mapRuns? {n m : Nat} (h : mapRuns? lowerRuns n = some m) :
    'A'.toNat < (Char.ofNat m).toNat := by
  have hruns : ∀ r ∈ lowerRuns, 'A'.toNat < r.target ∧
      (r.target + (r.run.last - r.run.first) < 0xD800 ∨
        0xDFFF < r.target ∧ r.target + (r.run.last - r.run.first) < 0x110000) := by
    decide +kernel
  obtain ⟨r, hr, rfl⟩ := Option.map_eq_some_iff.1 h
  have hcontains : r.run.contains n = true :=
    List.find?_some (p := fun r : CaseRun => r.run.contains n) hr
  simp only [CodeRun.contains, Bool.and_eq_true, decide_eq_true_eq] at hcontains
  obtain ⟨hlow, hhigh⟩ := hruns r (List.mem_of_find?_eq_some hr)
  have hvalid : (r.target + (n - r.run.first)).isValidChar := by
    unfold Nat.isValidChar
    omega
  rw [Char.toNat_ofNat (r.target + _), if_pos hvalid]
  exact Nat.lt_add_right _ hlow

/-- A quote is looked through, but the blanks behind it are not. -/
theorem nextIsCased_quote (h : ∀ c ∈ a, isBlank c = true) : nextIsCased ('\'' :: a) = false := by
  have hquote : nextIsCased ('\'' :: a) = nextIsCased a := by
    rw [nextIsCased, nextIsCased, List.dropWhile_cons_of_pos (by decide +kernel)]
  rw [hquote]
  cases a with
  | nil => rfl
  | cons c rest => exact nextIsCased_of_stop (stopsSigma_of_isBlank (h c List.mem_cons_self)) rest

/-- Lower case makes letters only, so a mark in it was there before. -/
theorem eq_of_mem_lowerChar (hd : d.toNat < 'A'.toNat) (h : d ∈ lowerChar c) : c = d := by
  have hascii : ∀ n < 0x80, (Char.ofNat n).toLower.toNat < 'A'.toNat →
      Char.ofNat n = (Char.ofNat n).toLower := by decide +kernel
  unfold lowerChar at h
  split at h
  · next hc =>
    obtain rfl := List.mem_singleton.1 h
    have hsame := hascii c.toNat hc
    rw [Char.ofNat_toNat] at hsame
    exact hsame hd
  · split at h
    · rcases List.mem_pair.1 h with rfl | rfl <;> exact absurd hd (by decide)
    · split at h
      · next n hn =>
        obtain rfl := List.mem_singleton.1 h
        exact absurd (lt_toNat_of_mapRuns? hn) (Nat.lt_asymm hd)
      · exact (List.mem_singleton.1 h).symm

theorem lowerChar_ne_nil (c : Char) : lowerChar c ≠ [] := by
  unfold lowerChar
  split
  · simp
  · split
    · simp
    · split <;> simp

theorem mem_of_mem_lowerFrom (hd : d.toNat < 'A'.toNat) (h : d ∈ lowerFrom before cs) :
    d ∈ cs := by
  induction cs generalizing before with
  | nil => simp [lowerFrom] at h
  | cons c rest ih =>
    rw [lowerFrom, List.mem_append] at h
    rcases h with h | h
    · split at h
      · rw [List.mem_singleton, sigma] at h
        subst h
        split at hd <;> exact absurd hd (by decide)
      · exact eq_of_mem_lowerChar hd h ▸ List.mem_cons_self
    · exact List.mem_cons_of_mem c (ih h)

theorem lower_ne_nil (h : cs ≠ []) : lower cs ≠ [] := by
  obtain ⟨c, rest, rfl⟩ := List.exists_cons_of_ne_nil h
  rw [lower, lowerFrom]
  split
  · simp
  · simp [lowerChar_ne_nil]

theorem mem_of_mem_trimMatches {p : Char → Bool} (h : c ∈ trimMatches p cs) : c ∈ cs := by
  have hdropped := (List.dropWhile_suffix p).subset (List.mem_reverse.1 h)
  exact (List.dropWhile_suffix p).subset (List.mem_reverse.1 hdropped)

theorem splitOn_join_eq_flatMap {sep : Char} {ls : List (List Char)} (hne : ls ≠ []) :
    splitOn sep (join [sep] ls) = ls.flatMap (splitOn sep) := by
  obtain ⟨l, rest, rfl⟩ := List.exists_cons_of_ne_nil hne
  rw [join_cons_eq, List.flatMap_cons]
  induction rest generalizing l with
  | nil => simp
  | cons next rest ih =>
    rw [List.flatMap_cons, List.append_assoc, List.singleton_append, splitOn_append_cons,
      ih next (List.cons_ne_nil _ _), List.flatMap_cons]

end Text

/-! ## Declarations -/

/-- A value as it stands in a declaration: in single quotes, perhaps with blanks around them. -/
structure EnumEntry where
  value : String
  before : List Char := []
  after : List Char := []
  ne_empty : value ≠ "" := by decide
  noQuote : '\'' ∉ value.toList := by decide
  isBlank_before : Text.isBlankText before = true := by decide
  isBlank_after : Text.isBlankText after = true := by decide

/-- A text in single quotes with blanks around it. -/
def quotedIn (before after cs : List Char) : List Char :=
  before ++ ('\'' :: cs ++ ['\'']) ++ after

namespace EnumEntry

/-- The spelling of an entry. -/
def text (e : EnumEntry) : List Char := quotedIn e.before e.after e.value.toList

/-- The spelling of an entry in lower case. -/
def lowered (e : EnumEntry) : List Char := quotedIn e.before e.after (Text.lower e.value.toList)

theorem blank_before (e : EnumEntry) : ∀ c ∈ e.before, Text.isBlank c = true :=
  List.all_eq_true.1 e.isBlank_before

theorem blank_after (e : EnumEntry) : ∀ c ∈ e.after, Text.isBlank c = true :=
  List.all_eq_true.1 e.isBlank_after

/-- The values that are read from an entry. -/
def values (e : EnumEntry) : List String := DataType.enumValues e.lowered

end EnumEntry

/-- A declaration with the given keyword. -/
def enumDeclaration (keyword : String) (entries : List EnumEntry) : String :=
  .ofList (keyword.toList ++ '(' :: (Text.join [','] (entries.map EnumEntry.text) ++ [')']))

variable {keyword : String} {entries : List EnumEntry} {e : EnumEntry} {before rest : List Char}

/-! ### Their lower case -/

theorem isSmall_quoted {blanks : List Char} (h : ∀ c ∈ blanks, Text.isBlank c = true) :
    ∀ c ∈ '\'' :: blanks, Text.isSmall c = true :=
  List.forall_mem_cons.2 ⟨by decide +kernel, fun c hc => Text.isSmall_of_isBlank (h c hc)⟩

/-- An entry is lowered by itself. -/
theorem EnumEntry.lowerFrom_text (hbefore : Text.nextIsCased before = false) {c : Char}
    (hc : Text.stopsSigma c = true) :
    Text.lowerFrom before (e.text ++ c :: rest) =
      e.lowered ++ Text.lowerFrom (e.text.reverse ++ before) (c :: rest) := by
  have hfront : ∀ c ∈ e.before ++ ['\''], Text.isSmall c = true := fun c hc =>
    isSmall_quoted e.blank_before c (by simpa [or_comm] using hc)
  have hopen : Text.nextIsCased ((e.before ++ ['\'']).reverse ++ before) = false := by
    rw [Text.nextIsCased_append hbefore, List.reverse_append]
    exact Text.nextIsCased_quote (by simpa using e.blank_before)
  have hclose : Text.nextIsCased ('\'' :: e.after ++ c :: rest) = false := by
    rw [Text.nextIsCased_append (Text.nextIsCased_of_stop hc rest)]
    exact Text.nextIsCased_quote e.blank_after
  have hvalue : Text.lowerFrom ((e.before ++ ['\'']).reverse ++ before) e.value.toList =
      Text.lower e.value.toList := Text.lowerFrom_of_stop hopen [] _
  have hparts : ∀ cs : List Char,
      quotedIn e.before e.after cs = (e.before ++ ['\'']) ++ (cs ++ '\'' :: e.after) := by
    simp [quotedIn]
  rw [text, lowered, hparts, hparts]
  generalize e.before ++ ['\''] = front at hfront hopen hvalue
  rw [List.append_assoc, List.append_assoc, Text.lowerFrom_small_append hfront,
    Text.lowerFrom_append hclose, hvalue,
    Text.lowerFrom_small_append (isSmall_quoted e.blank_after)]
  simp only [List.append_assoc, List.reverse_append]

theorem lowerFrom_entries (hne : entries ≠ []) (hbefore : Text.nextIsCased before = false) :
    Text.lowerFrom before (Text.join [','] (entries.map EnumEntry.text) ++ [')']) =
      Text.join [','] (entries.map EnumEntry.lowered) ++ [')'] := by
  have hcomma : Text.stopsSigma ',' = true := by decide +kernel
  have hclosing : Text.stopsSigma ')' = true := by decide +kernel
  have hsmall : ∀ c ∈ [','], Text.isSmall c = true :=
    List.forall_mem_singleton.2 (by decide +kernel)
  induction entries generalizing before with
  | nil => exact absurd rfl hne
  | cons e more ih =>
    cases more with
    | nil =>
      simp only [List.map_cons, List.map_nil, Text.join_singleton]
      rw [EnumEntry.lowerFrom_text hbefore hclosing]
      rfl
    | cons next more =>
      have hcons : ∀ f : EnumEntry → List Char, Text.join [','] ((e :: next :: more).map f) =
          f e ++ ',' :: Text.join [','] ((next :: more).map f) := fun f => by
        simp [Text.join_cons_eq]
      have hstep : ∀ front, Text.lowerFrom front
          (',' :: (Text.join [','] ((next :: more).map EnumEntry.text) ++ [')'])) =
            ',' :: (Text.join [','] ((next :: more).map EnumEntry.lowered) ++ [')']) := by
        intro front
        rw [← ih (List.cons_ne_nil _ _) (Text.nextIsCased_of_stop hcomma front)]
        exact Text.lowerFrom_small_append (a := [',']) hsmall front _
      rw [hcons, hcons, List.append_assoc, List.cons_append,
        EnumEntry.lowerFrom_text hbefore hcomma, hstep, List.append_assoc, List.cons_append]

/-- The keyword has letters of ASCII only, in whichever case it is written. -/
theorem of_mem_keyword (hkeyword : Text.sameAsciiCase keyword.toList "enum".toList = true)
    {c : Char} (hc : c ∈ keyword.toList) : c.toNat < 0x80 ∧ Text.isBlank c = false := by
  have hletters : ("enum".toList.all fun d =>
      d.toNat < 0x80 && d.toUpper.toNat < 0x80 && !Text.isBlank d) = true := by decide
  have hmap : keyword.toList.map Char.toLower = "enum".toList := eq_of_beq hkeyword
  have hmem : c.toLower ∈ "enum".toList := hmap ▸ List.mem_map_of_mem hc
  have hletter := List.all_eq_true.1 hletters c.toLower hmem
  simp only [Bool.and_eq_true, decide_eq_true_eq, Bool.not_eq_true'] at hletter
  obtain ⟨⟨hsmall, hlarge⟩, hblank⟩ := hletter
  refine ⟨?_, Bool.eq_false_iff.2 fun h => Bool.eq_false_iff.1 hblank (SqlDoc.isBlank_toLower h)⟩
  rcases Naming.eq_or_eq_of_toLower (c := c) rfl with h | h
  · exact h ▸ hsmall
  · exact h ▸ hlarge

/-- A declaration in lower case. -/
theorem lower_enumDeclaration (hkeyword : Text.sameAsciiCase keyword.toList "enum".toList = true)
    (hne : entries ≠ []) :
    Text.lower (enumDeclaration keyword entries).toList =
      "enum".toList ++ '(' :: (Text.join [','] (entries.map EnumEntry.lowered) ++ [')']) := by
  have hopening : Text.stopsSigma '(' = true := by decide +kernel
  have hsmall : ∀ c ∈ ['('], Text.isSmall c = true :=
    List.forall_mem_singleton.2 (by decide +kernel)
  have hmap : keyword.toList.map Char.toLower = "enum".toList := eq_of_beq hkeyword
  rw [enumDeclaration, String.toList_ofList, Text.lower,
    Text.lowerFrom_append (Text.nextIsCased_of_stop hopening _),
    Naming.lowerFrom_eq (fun c hc => (of_mem_keyword hkeyword hc).1), hmap,
    ← lowerFrom_entries hne (Text.nextIsCased_of_stop hopening _)]
  exact congrArg _ (Text.lowerFrom_small_append (a := ['(']) hsmall _ _)

theorem trimmed_enumDeclaration
    (hkeyword : Text.sameAsciiCase keyword.toList "enum".toList = true) :
    Text.Trimmed (enumDeclaration keyword entries).toList := by
  rw [enumDeclaration, String.toList_ofList]
  refine ⟨fun c hc => ?_, fun c hc => ?_⟩
  · rw [List.head?_append, List.head?_cons] at hc
    rcases Option.or_eq_some_iff.1 hc with hhead | ⟨-, hopening⟩
    · exact (of_mem_keyword hkeyword (List.mem_of_mem_head? hhead)).2
    · cases hopening
      decide
  · rw [← List.cons_append, ← List.append_assoc, List.getLast?_concat] at hc
    cases hc
    decide

/-! ### Their values -/

theorem enumValues_join (hne : entries ≠ []) :
    DataType.enumValues (Text.join [','] (entries.map EnumEntry.lowered)) =
      entries.flatMap EnumEntry.values := by
  have hmap : entries.map EnumEntry.lowered ≠ [] := by simpa using hne
  simp only [DataType.enumValues, Text.splitOn_join_eq_flatMap hmap, List.flatMap_map,
    List.map_flatMap, List.filter_flatMap]
  rfl

/-- A closing bracket in a value does not end the list of values, since the last one counts. -/
theorem DataType.ofSql_enumDeclaration
    (hkeyword : Text.sameAsciiCase keyword.toList "enum".toList = true) (hne : entries ≠ []) :
    DataType.ofSql (enumDeclaration keyword entries) =
      .enum (entries.flatMap EnumEntry.values) := by
  have hcut : DataType.cutArguments ("enum".toList ++
      '(' :: (Text.join [','] (entries.map EnumEntry.lowered) ++ [')'])) =
        ("enum".toList, some (Text.join [','] (entries.map EnumEntry.lowered))) := by
    have hopening : '(' ∉ "enum".toList := by decide
    have hlast : Text.cutLast? (· == ')')
        (Text.join [','] (entries.map EnumEntry.lowered) ++ [')']) =
          some (Text.join [','] (entries.map EnumEntry.lowered), []) :=
      Text.cutLast?_eq_some_iff.2 ⟨')', rfl, rfl, List.forall_mem_nil _⟩
    rw [cutArguments, Text.cutFirst?_quote hopening]
    simp only [hlast]
  have hname : (Text.words "enum".toList).headD [] = "enum".toList := by decide
  rw [ofSql, (trimmed_enumDeclaration hkeyword).trim_eq, lower_enumDeclaration hkeyword hne, hcut]
  simp only [hname, Option.getD_some]
  rw [← enumValues_join hne]
  rfl

namespace EnumEntry

theorem lower_ne_nil (e : EnumEntry) : Text.lower e.value.toList ≠ [] :=
  Text.lower_ne_nil fun h => e.ne_empty (String.toList_inj.1 (h.trans String.toList_empty.symm))

theorem quote_notMem_lower (e : EnumEntry) : '\'' ∉ Text.lower e.value.toList :=
  fun h => e.noQuote (Text.mem_of_mem_lowerFrom (by decide) h)

/-- A value without a comma is read in lower case. -/
theorem values_of_notMem (h : ',' ∉ e.value.toList) :
    e.values = [.ofList (Text.lower e.value.toList)] := by
  have hquoted : Text.Trimmed ('\'' :: Text.lower e.value.toList ++ ['\'']) := by
    refine ⟨fun c hc => ?_, fun c hc => ?_⟩
    · cases hc
      decide
    · rw [List.getLast?_concat] at hc
      cases hc
      decide
  have hcomma : ',' ∉ e.lowered := by
    have hblank : ∀ {blanks : List Char}, (∀ c ∈ blanks, Text.isBlank c = true) → ',' ∉ blanks :=
      fun hb hc => absurd (hb _ hc) (by decide)
    have hlower : ',' ∉ Text.lower e.value.toList :=
      fun hc => h (Text.mem_of_mem_lowerFrom (by decide) hc)
    simp [lowered, quotedIn, hblank e.blank_before, hblank e.blank_after, hlower]
  have hinner : Text.trimMatches (· == '\'') ('\'' :: Text.lower e.value.toList ++ ['\'']) =
      Text.lower e.value.toList := by
    have hfree : ∀ c ∈ Text.lower e.value.toList, (c == '\'') = false := fun c hc =>
      beq_false_of_ne (ne_of_mem_of_not_mem hc e.quote_notMem_lower)
    obtain ⟨c, rest, hvalue⟩ := List.exists_cons_of_ne_nil e.lower_ne_nil
    have hdrop : ('\'' :: Text.lower e.value.toList ++ ['\'']).dropWhile (· == '\'') =
        Text.lower e.value.toList ++ ['\''] := by
      have hc : (c == '\'') = false := hfree c (hvalue ▸ List.mem_cons_self)
      rw [hvalue, List.cons_append, List.dropWhile_cons_of_pos rfl, List.cons_append,
        List.dropWhile_cons_of_neg (by simp [hc])]
    rw [Text.trimMatches, hdrop]
    exact Text.dropEndWhile_append (List.forall_mem_singleton.2 rfl)
      fun c hc => hfree c (List.mem_of_mem_getLast? hc)
  rw [values, DataType.enumValues, Text.splitOn_of_notMem hcomma, lowered, quotedIn,
    List.map_singleton, Text.trim_append e.blank_before hquoted e.blank_after, hinner,
    List.filter_cons_of_pos (by simp [e.lower_ne_nil])]
  rfl

theorem comma_notMem_of_mem_values {v : String} (h : v ∈ e.values) : ',' ∉ v.toList := by
  obtain ⟨cs, hcs, rfl⟩ := List.mem_map.1 h
  obtain ⟨part, hpart, rfl⟩ := List.mem_map.1 (List.mem_of_mem_filter hcs)
  rw [String.toList_ofList]
  exact fun hc => Text.notMem_of_mem_splitOn hpart
    (Text.mem_of_mem_trimMatches (Text.mem_of_mem_trimMatches hc))

end EnumEntry

/-- The values that are read from a declaration are the declared ones exactly if these are in lower
case and hold no comma. -/
theorem DataType.ofSql_enum_iff
    (hkeyword : Text.sameAsciiCase keyword.toList "enum".toList = true) (hne : entries ≠ []) :
    DataType.ofSql (enumDeclaration keyword entries) = .enum (entries.map EnumEntry.value) ↔
      ∀ e ∈ entries, Text.lower e.value.toList = e.value.toList ∧ ',' ∉ e.value.toList := by
  have hflat : (∀ e ∈ entries, ',' ∉ e.value.toList) → entries.flatMap EnumEntry.values =
      entries.map fun e => .ofList (Text.lower e.value.toList) := fun h => by
    rw [List.flatMap_congr fun e he => EnumEntry.values_of_notMem (h e he), List.map_eq_flatMap]
  have hsame : ∀ {e : EnumEntry}, String.ofList (Text.lower e.value.toList) = e.value ↔
      Text.lower e.value.toList = e.value.toList := by
    intro e
    rw [← String.toList_inj, String.toList_ofList]
  rw [ofSql_enumDeclaration hkeyword hne, DataType.enum.injEq]
  constructor
  · intro h
    have hcomma : ∀ e ∈ entries, ',' ∉ e.value.toList := fun e he => by
      have hmem : e.value ∈ entries.flatMap EnumEntry.values := h ▸ List.mem_map_of_mem he
      obtain ⟨other, -, hvalue⟩ := List.mem_flatMap.1 hmem
      exact EnumEntry.comma_notMem_of_mem_values hvalue
    rw [hflat hcomma, List.map_inj_left] at h
    exact fun e he => ⟨hsame.1 (h e he), hcomma e he⟩
  · intro h
    rw [hflat fun e he => (h e he).2, List.map_inj_left]
    exact fun e he => hsame.2 (h e he).1

namespace Ticket

def states : List EnumEntry :=
  [{ value := "open" }, { value := "on hold (a)", before := [' '], after := ['\t'] },
    { value := " closed" }]

/-- Values with blanks and brackets are kept. -/
theorem ofSql_states :
    Text.sameAsciiCase "Enum".toList "enum".toList = true ∧ states ≠ [] ∧
      (DataType.ofSql (enumDeclaration "Enum" states) = .enum (states.map EnumEntry.value) ↔
        ∀ e ∈ states, Text.lower e.value.toList = e.value.toList ∧ ',' ∉ e.value.toList) ∧
      enumDeclaration "Enum" states = "Enum('open', 'on hold (a)'\t,' closed')" ∧
      DataType.ofSql (enumDeclaration "Enum" states) = .enum ["open", "on hold (a)", " closed"] :=
  ⟨by decide, by simp [states], DataType.ofSql_enum_iff (by decide) (by simp [states]),
    by decide +kernel, by decide +kernel⟩

def priorities : List EnumEntry := [{ value := "High" }, { value := "low,later" }]

/-- Capitals and commas are not. -/
theorem priorities_not_kept :
    enumDeclaration "enum" priorities = "enum('High','low,later')" ∧
      DataType.ofSql (enumDeclaration "enum" priorities) = .enum ["high", "low", "later"] ∧
      DataType.ofSql (enumDeclaration "enum" priorities) ≠
        .enum (priorities.map EnumEntry.value) := by
  have hread : DataType.ofSql (enumDeclaration "enum" priorities) =
      .enum ["high", "low", "later"] := by decide +kernel
  refine ⟨by decide +kernel, hread, ?_⟩
  rw [hread]
  decide

end Ticket

end QueryGen
