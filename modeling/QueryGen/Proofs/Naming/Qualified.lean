import QueryGen.Proofs.Naming.GoNames

/-!
# Struct names of qualified tables

The name of a struct is made from a table name as it is given. With a schema in front it is another
name: the schema is a part of the name like any word.

- `toList_goName_eq`: the Go name of a column is that of its parts, one after the other.
- `singularText_append`: the singular of a name with text in front.
- `structName_qualified`: the struct name of a table with its schema.
-/

namespace QueryGen.Naming

variable {name schema : String} {cs front suffix : List Char}

/-! ## Singular -/

/-- Only the end of a name matters for its singular, if it is long enough. -/
theorem isSuffixOf_append (h : suffix.length ≤ cs.length) (front : List Char) :
    suffix.isSuffixOf (front ++ cs) = suffix.isSuffixOf cs := by
  rw [Bool.eq_iff_iff, List.isSuffixOf_iff_suffix, List.isSuffixOf_iff_suffix]
  exact ⟨fun hs => List.suffix_of_suffix_length_le hs (List.suffix_append _ _) h,
    fun hs => hs.trans (List.suffix_append _ _)⟩

theorem lowerFrom_eq (h : ∀ c ∈ cs, c.toNat < 0x80) (before : List Char) :
    Text.lowerFrom before cs = cs.map Char.toLower := by
  induction cs generalizing before with
  | nil => rfl
  | cons c rest ih =>
    obtain ⟨hc, hrest⟩ := List.forall_mem_cons.1 h
    have hsigma : c ≠ 'Σ' := by
      rintro rfl
      exact absurd hc (by decide)
    rw [Text.lowerFrom, if_neg hsigma, Text.lowerChar, if_pos hc, ih hrest]
    rfl

theorem dropLast_append {n : Nat} (h : n ≤ cs.length) (front : List Char) :
    dropLast n (front ++ cs) = front ++ dropLast n cs := by
  rw [dropLast, dropLast, List.length_append, Nat.add_sub_assoc h, List.take_length_add_append]

/-- The singular of a name with text in front. -/
theorem singularText_append (hfront : ∀ c ∈ front, c.toNat < 0x80)
    (hcs : ∀ c ∈ cs, c.toNat < 0x80) (hlength : 3 < cs.length) :
    singularText (front ++ cs) = front ++ singularText cs := by
  have hlower : Text.lower (front ++ cs) = front.map Char.toLower ++ Text.lower cs := by
    rw [Text.lower, Text.lower, lowerFrom_eq (List.forall_mem_append.2 ⟨hfront, hcs⟩),
      lowerFrom_eq hcs, List.map_append]
  have hsmall : (Text.lower cs).length = cs.length := by
    rw [Text.lower, lowerFrom_eq hcs, List.length_map]
  have hends : ∀ suffix : List Char, suffix.length ≤ 4 →
      suffix.isSuffixOf (Text.lower (front ++ cs)) = suffix.isSuffixOf (Text.lower cs) :=
    fun suffix h => by
      rw [hlower]
      exact isSuffixOf_append (by omega) _
  have hsibilants : (sibilantPlurals.any fun suffix =>
      suffix.isSuffixOf (Text.lower (front ++ cs))) =
        sibilantPlurals.any fun suffix => suffix.isSuffixOf (Text.lower cs) := by
    have hshort : ∀ suffix ∈ sibilantPlurals, suffix.length ≤ 4 := by decide
    rw [Bool.eq_iff_iff, List.any_eq_true, List.any_eq_true]
    exact exists_congr fun suffix => and_congr_right fun h => by rw [hends _ (hshort _ h)]
  have hlonger : cs.length ≤ (front ++ cs).length := by simp
  unfold singularText
  simp only [hends _ (by decide : ['i', 'e', 's'].length ≤ 4),
    hends _ (by decide : ['s'].length ≤ 4), hends _ (by decide : ['s', 's'].length ≤ 4), hsibilants,
    decide_eq_true hlength, decide_eq_true (lt_of_lt_of_le hlength hlonger),
    decide_eq_true (by omega : 1 < cs.length), decide_eq_true (by omega : 1 < (front ++ cs).length),
    Bool.and_true]
  split
  · rw [dropLast_append (by omega), List.append_assoc]
  · split
    · rw [dropLast_append (by omega)]
    · split
      · rw [dropLast_append (by omega)]
      · rfl

/-- A column name that loses its end is one as long as it keeps its first letter. -/
theorem isColumnName_dropLast {n : Nat} (h : IsColumnName name) (hn : n < name.toList.length) :
    IsColumnName (.ofList (dropLast n name.toList)) := by
  obtain ⟨a, ha, hletter⟩ := h.1
  obtain ⟨tail, hname⟩ := List.head?_eq_some_iff.1 ha
  obtain ⟨k, hk⟩ : ∃ k, name.toList.length - n = k + 1 := Nat.exists_eq_add_one.2 (by omega)
  refine ⟨⟨a, ?_, hletter⟩, fun c hc => h.2 c ?_⟩
  · rw [String.toList_ofList, dropLast, hk, hname, List.take_succ_cons]
    rfl
  · rw [String.toList_ofList] at hc
    exact List.mem_of_mem_take hc

theorem IsColumnName.append (h : IsColumnName name) {back : List Char}
    (hb : ∀ c ∈ back, c.isAlphanum = true) : IsColumnName (.ofList (name.toList ++ back)) := by
  obtain ⟨a, ha, hletter⟩ := h.1
  refine ⟨⟨a, ?_, hletter⟩, ?_⟩
  · rw [String.toList_ofList, List.head?_append, Option.mem_def.1 ha]
    rfl
  · rw [String.toList_ofList]
    exact List.forall_mem_append.2 ⟨h.2, fun c hc => .inl (hb c hc)⟩

/-- The singular of a column name is one. -/
theorem isColumnName_singular (h : IsColumnName name) (hlength : 3 < name.toList.length) :
    IsColumnName (singular name) := by
  rw [singular, singularText]
  dsimp only
  split
  · have hback : ∀ c ∈ ['y'], c.isAlphanum = true := List.forall_mem_singleton.2 (by decide)
    have hkept := (isColumnName_dropLast h hlength).append hback
    rwa [String.toList_ofList] at hkept
  · split
    · exact isColumnName_dropLast h (by omega)
    · split
      · exact isColumnName_dropLast h (by omega)
      · rwa [String.ofList_toList]

/-! ## Go names -/

/-- The parts of a column name give its Go name. -/
theorem toList_goName_eq (h : IsColumnName name) :
    (goName name).toList = (segments name.toList).flatMap goSegment := by
  rw [toList_goName h, flatMap_goSegment]

/-- A schema in front of a name gives a word of its own. -/
theorem goName_qualified (hs : IsColumnName schema) (hn : IsColumnName name) :
    goName (schema ++ "." ++ name) = goName schema ++ goName name := by
  have hsegments : segments (schema ++ "." ++ name).toList =
      segments schema.toList ++ segments name.toList := by
    have htext : (schema ++ "." ++ name).toList = schema.toList ++ '.' :: name.toList := by simp
    rw [htext]
    exact Text.partsWith_append_cons (p := (!Text.isWord ·)) (by decide) _ _
  obtain ⟨c, rest, hc, hcapital⟩ := exists_capital hs
  rw [← String.toList_inj, goName, String.toList_ofList, hsegments, List.flatMap_append,
    ← toList_goName_eq hn, flatMap_goSegment, hc, List.cons_append, leadWithLetter,
    if_neg (not_isDigit_of_isUpper hcapital), String.toList_append, toList_goName hs, hc,
    List.cons_append]

/-- The struct name of a table with its schema is that of the table behind the Go name of the
schema. -/
theorem structName_qualified (hs : IsColumnName schema) (hn : IsColumnName name)
    (hlength : 3 < name.toList.length) :
    structName (schema ++ "." ++ name) = goName schema ++ structName name := by
  have hascii : ∀ {s}, IsColumnName s → ∀ c ∈ s.toList, c.toNat < 0x80 := fun h c hc => by
    rcases h.2 c hc with halnum | rfl
    · exact toNat_lt_of_isAlphanum halnum
    · decide
  have hsingular : singular (schema ++ "." ++ name) = schema ++ "." ++ singular name := by
    have htext : (schema ++ "." ++ name).toList = (schema.toList ++ ['.']) ++ name.toList := by simp
    have hfront : ∀ c ∈ schema.toList ++ ['.'], c.toNat < 0x80 :=
      List.forall_mem_append.2 ⟨hascii hs, List.forall_mem_singleton.2 (by decide)⟩
    rw [singular, htext, singularText_append hfront (hascii hn) hlength]
    simp [← String.toList_inj, singular]
  rw [structName, hsingular, goName_qualified hs (isColumnName_singular hn hlength), structName]

end QueryGen.Naming
