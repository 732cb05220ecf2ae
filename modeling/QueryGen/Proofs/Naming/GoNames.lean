import Mathlib
import QueryGen.Go.Identifier
import QueryGen.Naming.Basic
import QueryGen.Proofs.Template.Words

/-!
# Go names of columns

The Go name of a column has a capital for each word of the column and drops what sets the words
apart. It depends on how the column is spelled: on its letters and digits, without regard to case,
and on the letters that begin words.

- `IsColumnName`: names of ASCII letters, digits and underscores that begin with a letter.
- `words`, `spelling`: the words of a name, and its letters and digits marked where words begin.
- `toList_goName`: the Go name is made of the words.
- `isGoIdentifier_goName`: it is an identifier.
- `goName_inj`: two columns have one Go name if they are spelled alike.
- `goName_eq_id_iff`: the columns whose Go name is `ID`.
-/

namespace QueryGen.Naming

/-- A name of ASCII letters, digits and underscores that begins with a letter. -/
def IsColumnName (name : String) : Prop :=
  (∃ c ∈ name.toList.head?, c.isAlpha = true) ∧
    ∀ c ∈ name.toList, c.isAlphanum = true ∨ c = '_'

/-- The words of a part of a name. Initialisms are spelled out. -/
def segmentWords (cs : List Char) : List (List Char) :=
  if initialisms.contains (.ofList (Text.upper cs)) then cs.map ([·]) else splitCase .none [] cs

/-- The words of a name. -/
def words (name : String) : List (List Char) := (segments name.toList).flatMap segmentWords

/-- A word in lower case. Its first character is marked if it is a letter. -/
def mark : List Char → List (Char × Bool)
  | [] => []
  | c :: rest => (c.toLower, c.isAlpha) :: rest.map fun d => (d.toLower, false)

/-- The letters and digits of a name in lower case, those letters marked that begin words. -/
def spelling (name : String) : List (Char × Bool) := (words name).flatMap mark

/-! ## ASCII -/

section Ascii

variable {c : Char}

theorem toNat_lt_of_isAlphanum (h : c.isAlphanum = true) : c.toNat < 0x80 := by
  simp only [Char.isAlphanum, Char.isAlpha, Char.isUpper, Char.isLower, Char.isDigit,
    Bool.or_eq_true, Bool.and_eq_true, decide_eq_true_eq, ge_iff_le, UInt32.le_iff_toNat_le] at h
  change ((65 ≤ c.toNat ∧ c.toNat ≤ 90) ∨ 97 ≤ c.toNat ∧ c.toNat ≤ 122) ∨
    48 ≤ c.toNat ∧ c.toNat ≤ 57 at h
  omega

theorem not_isDigit_of_isUpper (h : c.isUpper = true) : ¬c.isDigit = true := by
  intro hd
  simp only [Char.isUpper, Char.isDigit, Bool.and_eq_true, decide_eq_true_eq, ge_iff_le,
    UInt32.le_iff_toNat_le] at h hd
  change 65 ≤ c.toNat ∧ c.toNat ≤ 90 at h
  change 48 ≤ c.toNat ∧ c.toNat ≤ 57 at hd
  omega

theorem upperChar_of_isAlphanum (h : c.isAlphanum = true) : Text.upperChar c = [c.toUpper] :=
  if_pos (toNat_lt_of_isAlphanum h)

theorem lowerChar_of_isAlphanum (h : c.isAlphanum = true) : Text.lowerChar c = [c.toLower] :=
  if_pos (toNat_lt_of_isAlphanum h)

theorem isWord_of_isAlphanum (h : c.isAlphanum = true) : Text.isWord c = true := by
  rw [Text.isWord, if_pos (toNat_lt_of_isAlphanum h), h]

/-- A change of case keeps letters and digits. -/
theorem isAlphanum_toUpper (h : c.isAlphanum = true) : c.toUpper.isAlphanum = true := by
  by_cases hlower : c.isLower = true
  · simp [Char.isAlphanum, Char.isAlpha, hlower]
  · rwa [Char.toUpper_eq_of_not_isLower hlower]

theorem isAlphanum_toLower (h : c.isAlphanum = true) : c.toLower.isAlphanum = true := by
  by_cases hupper : c.isUpper = true
  · simp [Char.isAlphanum, Char.isAlpha, hupper]
  · rwa [Char.toLower_eq_of_not_isUpper hupper]

/-- A character is known by its lower case and whether it is a capital. -/
theorem case_injective : Function.Injective fun c : Char => (c.toLower, c.isUpper) := by
  have hupper : ∀ c : Char, c.isUpper = true → c.toLower.toUpper = c := fun c hc => by
    rw [Char.toUpper_toLower_eq_toUpper,
      Char.toUpper_eq_of_not_isLower (Char.not_isLower_of_isUpper hc)]
  intro a b hab
  obtain ⟨hlower, hcase⟩ := Prod.mk.inj hab
  by_cases ha : a.isUpper = true
  · rw [← hupper a ha, hlower, hupper b (hcase ▸ ha)]
  · rw [← Char.toLower_eq_of_not_isUpper ha, hlower,
      Char.toLower_eq_of_not_isUpper (hcase ▸ ha)]

/-- A letter is a small one or a capital. -/
theorem eq_or_eq_of_toLower {d : Char} (h : c.toLower = d) : c = d ∨ c = d.toUpper := by
  by_cases hc : c.isUpper = true
  · rw [← h, Char.toUpper_toLower_eq_toUpper,
      Char.toUpper_eq_of_not_isLower (Char.not_isLower_of_isUpper hc)]
    exact .inr rfl
  · exact .inl (by rw [← h, Char.toLower_eq_of_not_isUpper hc])

end Ascii

/-! ## Words -/

theorem flatten_splitWith {α : Type} (p : α → Bool) (cs : List α) :
    (Text.splitWith p cs).flatten = cs.filter (!p ·) := by
  induction cs with
  | nil => rfl
  | cons c rest ih =>
    obtain ⟨part, parts, hparts⟩ := List.exists_cons_of_ne_nil (Text.splitWith_ne_nil p rest)
    rw [hparts] at ih
    rw [Text.splitWith]
    cases hc : p c
    · rw [List.filter_cons_of_pos (by simp [hc]), ← ih]
      simp [hparts]
    · rw [List.filter_cons_of_neg (by simp [hc]), ← ih]
      simp [hparts]

theorem flatten_segments (cs : List Char) : (segments cs).flatten = cs.filter Text.isWord := by
  rw [segments, List.flatten_filter_ne_nil, flatten_splitWith]
  simp

theorem flatten_segmentWords {cs : List Char} (h : cs ≠ []) : (segmentWords cs).flatten = cs := by
  unfold segmentWords
  split
  · rw [← List.flatMap_def, List.flatMap_singleton']
  · exact flatten_splitCase .none [] cs h

/-- The words of a name hold its letters and digits, in order. -/
theorem flatten_words (name : String) : (words name).flatten = name.toList.filter Text.isWord := by
  have hsegments : (segments name.toList).map (fun cs => (segmentWords cs).flatten) =
      segments name.toList := by
    refine (List.map_congr_left fun cs hcs => ?_).trans (List.map_id _)
    exact flatten_segmentWords (by simpa using (List.mem_filter.1 hcs).2)
  rw [words, List.flatMap_def, List.flatten_flatten, List.map_map, ← flatten_segments]
  exact congrArg List.flatten hsegments

/-- Two letters are one part of a name, or two. -/
theorem eq_or_eq_of_flatten {α : Type} {a b : α} {parts : List (List α)} (hne : ∀ p ∈ parts, p ≠ [])
    (h : parts.flatten = [a, b]) : parts = [[a, b]] ∨ parts = [[a], [b]] := by
  rcases parts with _ | ⟨_ | ⟨x, _ | ⟨y, _ | ⟨z, first⟩⟩⟩, _ | ⟨_ | ⟨u, second⟩, rest⟩⟩ <;>
    simp_all
  exact List.eq_nil_iff_forall_not_mem.2 h.2.2.2

theorem map_fst_mark (w : List Char) : (mark w).map Prod.fst = w.map Char.toLower := by
  cases w with
  | nil => rfl
  | cons c rest => simp [mark, Function.comp_def]

/-! ## Go names -/

theorem lowerWord_eq {cs : List Char} (h : ∀ c ∈ cs, c.isAlphanum = true) :
    lowerWord cs = cs.map Char.toLower := by
  fun_induction lowerWord cs with
  | case1 => rfl
  | case2 => simp [Char.isAlphanum, Char.isAlpha, Char.isUpper, Char.isLower, Char.isDigit] at h
  | case3 c hc => rw [lowerChar_of_isAlphanum (h c (by simp)), List.map_singleton]
  | case4 c rest hrest ih =>
    obtain ⟨hc, htail⟩ := List.forall_mem_cons.1 h
    rw [lowerChar_of_isAlphanum hc, ih htail]
    rfl

theorem capitalize_cons {c : Char} {rest : List Char}
    (h : ∀ d ∈ c :: rest, d.isAlphanum = true) :
    capitalize (c :: rest) = c.toUpper :: rest.map Char.toLower := by
  obtain ⟨hc, hrest⟩ := List.forall_mem_cons.1 h
  rw [capitalize, upperChar_of_isAlphanum hc, lowerWord_eq hrest]
  rfl

/-- The case of a capitalized word shows how it is marked. -/
theorem map_capitalize {w : List Char} (h : ∀ c ∈ w, c.isAlphanum = true) :
    (capitalize w).map (fun c => (c.toLower, c.isUpper)) = mark w := by
  cases w with
  | nil => rfl
  | cons c rest =>
    rw [capitalize_cons h, mark, List.map_cons, List.map_map]
    simp [Function.comp_def]

theorem isAlphanum_capitalize {w : List Char} (h : ∀ c ∈ w, c.isAlphanum = true) :
    ∀ c ∈ capitalize w, c.isAlphanum = true := by
  cases w with
  | nil => exact h
  | cons c rest =>
    obtain ⟨hc, hrest⟩ := List.forall_mem_cons.1 h
    rw [capitalize_cons h]
    exact List.forall_mem_cons.2 ⟨isAlphanum_toUpper hc,
      List.forall_mem_map.2 fun d hd => isAlphanum_toLower (hrest d hd)⟩

/-- The first word that is not empty gives the first capital. -/
theorem head?_flatMap_capitalize {ws : List (List Char)}
    (h : ∀ w ∈ ws, ∀ c ∈ w, c.isAlphanum = true) :
    (ws.flatMap capitalize).head? = ws.flatten.head?.map Char.toUpper := by
  induction ws with
  | nil => rfl
  | cons w rest ih =>
    obtain ⟨hw, hrest⟩ := List.forall_mem_cons.1 h
    cases w with
    | nil => exact ih hrest
    | cons c cs =>
      rw [List.flatMap_cons, capitalize_cons hw]
      rfl

/-- A part of a name is made of its words. -/
theorem goSegment_eq {cs : List Char} (hne : cs ≠ []) (h : ∀ c ∈ cs, Text.isWord c = true) :
    goSegment cs = (segmentWords cs).flatMap capitalize := by
  have hsegments : segments cs = [cs] :=
    Text.partsWith_word hne fun c hc => by simp [h c hc]
  unfold goSegment segmentWords
  simp only
  split
  · rw [List.flatMap_map]
    simp [Text.upper, capitalize, lowerWord]
  · rw [camelCase, nameWords, hsegments, List.flatMap_singleton]

section ColumnNames

variable {name : String}

theorem isAlphanum_words (h : ∀ c ∈ name.toList, c.isAlphanum = true ∨ c = '_') :
    ∀ w ∈ words name, ∀ c ∈ w, c.isAlphanum = true := by
  intro w hw c hc
  have hmem : c ∈ (words name).flatten := List.mem_flatten.2 ⟨w, hw, hc⟩
  rw [flatten_words, List.mem_filter] at hmem
  rcases h c hmem.1 with halnum | rfl
  · exact halnum
  · exact absurd hmem.2 (by decide)

theorem flatMap_goSegment (name : String) :
    (segments name.toList).flatMap goSegment = (words name).flatMap capitalize := by
  rw [words, List.flatMap_assoc]
  refine List.flatMap_congr fun cs hcs => ?_
  refine goSegment_eq (by simpa using (List.mem_filter.1 hcs).2) fun c hc => ?_
  have hmem : c ∈ (segments name.toList).flatten := List.mem_flatten.2 ⟨cs, hcs, hc⟩
  rw [flatten_segments] at hmem
  exact (List.mem_filter.1 hmem).2

/-- Of a name of ASCII letters, digits and underscores the letters and digits are left. -/
theorem isAlphanum_goName (h : ∀ c ∈ name.toList, c.isAlphanum = true ∨ c = '_') :
    ∀ c ∈ (goName name).toList, c.isAlphanum = true := by
  have hwords : ∀ c ∈ (words name).flatMap capitalize, c.isAlphanum = true := by
    intro c hc
    obtain ⟨w, hw, hc⟩ := List.mem_flatMap.1 hc
    exact isAlphanum_capitalize (isAlphanum_words h w hw) c hc
  rw [goName, String.toList_ofList, flatMap_goSegment]
  unfold leadWithLetter
  split
  · exact List.forall_mem_singleton.2 (by decide)
  · next c rest heq =>
    rw [heq] at hwords
    split
    · exact List.forall_mem_cons.2 ⟨by decide, hwords⟩
    · exact hwords

/-- The Go name of a column begins with a capital. -/
theorem exists_capital (h : IsColumnName name) :
    ∃ c rest, (words name).flatMap capitalize = c :: rest ∧ c.isUpper = true := by
  obtain ⟨a, ha, hletter⟩ := h.1
  obtain ⟨tail, hname⟩ := List.head?_eq_some_iff.1 ha
  have hword : Text.isWord a = true := isWord_of_isAlphanum (by simp [Char.isAlphanum, hletter])
  have hhead := head?_flatMap_capitalize (isAlphanum_words h.2)
  rw [flatten_words, hname, List.filter_cons_of_pos hword, List.head?_cons,
    Option.map_some] at hhead
  obtain ⟨rest, hrest⟩ := List.head?_eq_some_iff.1 hhead
  exact ⟨_, rest, hrest, by rw [Char.isUpper_toUpper_eq_isAlpha, hletter]⟩

/-- The Go name of a column is made of its words. -/
theorem toList_goName (h : IsColumnName name) :
    (goName name).toList = (words name).flatMap capitalize := by
  obtain ⟨c, rest, hc, hcapital⟩ := exists_capital h
  rw [goName, String.toList_ofList, flatMap_goSegment, hc, leadWithLetter,
    if_neg (not_isDigit_of_isUpper hcapital)]

/-- The Go name of a column is an identifier. -/
theorem isGoIdentifier_goName (h : IsColumnName name) : Go.isGoIdentifier (goName name) = true := by
  obtain ⟨c, rest, hc, hcapital⟩ := exists_capital h
  have hname := toList_goName h
  have hkeywords : ∀ k ∈ Go.keywords, ∀ d ∈ k.toList.head?, d.isUpper = false := by
    simp [Go.keywords]
  have hall : ∀ d ∈ c :: rest, d.isAlphanum = true := by
    rw [← hc, ← hname]
    exact isAlphanum_goName h.2
  have hletter : Text.isLetter c = true := by
    rw [Text.isLetter, if_pos (toNat_lt_of_isAlphanum (hall c (by simp)))]
    simp [Char.isAlpha, hcapital]
  have hidentifier : Go.isIdentifier (goName name) = true := by
    rw [Go.isIdentifier, hname, hc, Go.isIdentifierText, Go.isIdentStart, hletter]
    simp only [Bool.true_or, Bool.true_and, List.all_eq_true]
    intro d hd
    rw [Go.isIdentChar, isWord_of_isAlphanum (hall d (List.mem_cons_of_mem c hd)), Bool.true_or]
  have hfree : goName name ∉ Go.keywords := by
    intro hmem
    have hlower := hkeywords _ hmem c (by rw [hname, hc]; rfl)
    rw [hcapital] at hlower
    cases hlower
  rw [Go.isGoIdentifier, hidentifier, Bool.true_and, Bool.not_eq_true']
  simpa using hfree

/-- The spelling of a column can be read off its Go name. -/
theorem spelling_eq (h : IsColumnName name) :
    spelling name = (goName name).toList.map fun c => (c.toLower, c.isUpper) := by
  rw [toList_goName h, List.map_flatMap]
  exact List.flatMap_congr fun w hw => (map_capitalize (isAlphanum_words h.2 w hw)).symm

/-- Two columns have one Go name if they are spelled alike. -/
theorem goName_inj {other : String} (h : IsColumnName name) (ho : IsColumnName other) :
    goName name = goName other ↔ spelling name = spelling other := by
  rw [spelling_eq h, spelling_eq ho, case_injective.list_map.eq_iff, String.toList_inj]

/-- The Go name of a column is `ID` if its letters and digits are `i` and `d`, in any case. -/
theorem goName_eq_id_iff (h : IsColumnName name) : goName name = "ID" ↔
    (name.toList.filter (· ≠ '_')).map Char.toLower = ['i', 'd'] := by
  have hletters : name.toList.filter (· ≠ '_') = name.toList.filter Text.isWord := by
    refine List.filter_congr fun c hc => ?_
    rcases h.2 c hc with halnum | rfl
    · have hne : c ≠ '_' := by
        rintro rfl
        exact absurd halnum (by decide)
      simp [hne, isWord_of_isAlphanum halnum]
    · decide
  rw [hletters]
  constructor
  · intro hid
    have hspelling := congrArg (List.map Prod.fst) (spelling_eq h)
    rw [spelling, List.map_flatMap, hid] at hspelling
    rw [← flatten_words, List.map_flatten, ← List.flatMap_def]
    exact (List.flatMap_congr fun w _ => (map_fst_mark w).symm).trans hspelling
  · intro hmap
    obtain ⟨a, rest, hfilter, ha, hrest⟩ := List.map_eq_cons_iff.1 hmap
    obtain ⟨b, tail, rfl, hb, htail⟩ := List.map_eq_cons_iff.1 hrest
    obtain rfl := List.map_eq_nil_iff.1 htail
    have hsegments : segments name.toList = [[a, b]] ∨ segments name.toList = [[a], [b]] :=
      eq_or_eq_of_flatten (fun p hp => by simpa using (List.mem_filter.1 hp).2)
        (by rw [flatten_segments, hfilter])
    have hwords : words name = [[a], [b]] := by
      rw [words]
      rcases eq_or_eq_of_toLower ha with rfl | rfl <;>
        rcases eq_or_eq_of_toLower hb with rfl | rfl <;>
          rcases hsegments with hs | hs <;> rw [hs] <;> decide +kernel
    have hspelling : spelling name = [('i', true), ('d', true)] := by
      rw [spelling, hwords]
      rcases eq_or_eq_of_toLower ha with rfl | rfl <;>
        rcases eq_or_eq_of_toLower hb with rfl | rfl <;> decide
    rw [← String.toList_inj]
    refine case_injective.list_map ?_
    rw [← spelling_eq h, hspelling]
    rfl

end ColumnNames

end QueryGen.Naming
