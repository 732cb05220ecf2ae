import QueryGen.Model.Basic
import QueryGen.Proofs.Model.TagPairs

/-!
# Settings of columns

The value of a tag holds settings with semicolons between them, each a key that may have a value
behind a colon. Blanks around them do not count, and neither does the case of a key.

- `AreSettings`, `tagSettings_eq`: the settings that a text holds are those that are read from it.
- `FirstSetting`, `setting?_eq_some_iff`: the first setting of a key counts.
- `ModelField.IsMapped`, `exists_isMapped`: a struct field is mapped to its column by its settings.
-/

namespace QueryGen

/-- What a part between semicolons sets. -/
inductive IsSetting : List Char → List (String × String) → Prop
  | blank {part : List Char} (hb : Text.isBlankText part = true) : IsSetting part []
  | key {part : List Char} (hb : Text.isBlankText part = false) (hc : ':' ∉ part) :
      IsSetting part [(.ofList (Text.trim part), "")]
  | pair {key value : List Char} (hc : ':' ∉ key) :
      IsSetting (key ++ ':' :: value) [(.ofList (Text.trim key), .ofList (Text.trim value))]

/-- What a text with semicolons between its parts sets. -/
inductive AreSettings : List Char → List (String × String) → Prop
  | last {part : List Char} {settings : List (String × String)} (hs : ';' ∉ part)
      (h : IsSetting part settings) : AreSettings part settings
  | more {part rest : List Char} {settings others : List (String × String)} (hs : ';' ∉ part)
      (h : IsSetting part settings) (hr : AreSettings rest others) :
      AreSettings (part ++ ';' :: rest) (settings ++ others)

/-- The settings that are read from parts. -/
def partSettings (parts : List (List Char)) : List (String × String) :=
  (parts.filter (!Text.isBlankText ·)).map fun part =>
    match Text.cutFirst? (· == ':') part with
    | some (key, value) => (.ofList (Text.trim key), .ofList (Text.trim value))
    | none => (.ofList (Text.trim part), "")

theorem partSettings_append (parts others : List (List Char)) :
    partSettings (parts ++ others) = partSettings parts ++ partSettings others := by
  simp [partSettings]

theorem partSettings_of_isSetting {part : List Char} {settings : List (String × String)}
    (h : IsSetting part settings) : partSettings [part] = settings := by
  cases h with
  | blank hb => simp [partSettings, hb]
  | key hb hc => simp [partSettings, hb, Text.cutFirst?_eq_none hc]
  | @pair key value hc =>
    have hb : Text.isBlankText (key ++ ':' :: value) = false := by
      simp [Text.isBlankText, show Text.isBlank ':' = false by decide]
    simp [partSettings, hb, Text.cutFirst?_quote hc]

theorem tagSettings_eq {text : String} {settings : List (String × String)}
    (h : AreSettings text.toList settings) : tagSettings text = settings := by
  have hparts : ∀ {cs : List Char} {settings}, AreSettings cs settings →
      partSettings (Text.splitOn ';' cs) = settings := by
    intro cs settings h
    have hplain : ∀ part : List Char, ';' ∉ part → ∀ c ∈ part, (c == ';') = false :=
      fun part hs c hc => by simpa using ne_of_mem_of_not_mem hc hs
    induction h with
    | @last part settings hs h =>
      rw [Text.splitOn, Text.splitWith_eq_splitOnP,
        List.splitOnP_eq_singleton (hplain part hs), partSettings_of_isSetting h]
    | @more part rest settings others hs h _ ih =>
      rw [Text.splitOn, Text.splitWith_eq_splitOnP] at ih ⊢
      rw [List.splitOnP_append_cons _ _ (by simp), List.splitOnP_eq_singleton (hplain part hs),
        partSettings_append, ih, partSettings_of_isSetting h]
  exact hparts h

/-! ## Keys -/

/-- Whether a setting has a key. -/
def IsNamed (key : String) (s : String × String) : Prop :=
  Text.sameAsciiCase s.1.toList key.toList = true

/-- The value of the first setting of a key. -/
def FirstSetting (settings : List (String × String)) (key value : String) : Prop :=
  ∃ front s back, settings = front ++ s :: back ∧ (∀ x ∈ front, ¬ IsNamed key x) ∧
    IsNamed key s ∧ s.2 = value

theorem setting?_eq_some_iff {settings : List (String × String)} {key value : String} :
    setting? settings key = some value ↔ FirstSetting settings key value := by
  simp only [setting?, Option.map_eq_some_iff, List.find?_eq_some_iff_append, FirstSetting, IsNamed]
  constructor
  · rintro ⟨s, ⟨hs, front, back, rfl, hf⟩, rfl⟩
    exact ⟨front, s, back, rfl, by simpa using hf, hs, rfl⟩
  · rintro ⟨front, s, back, rfl, hf, hs, rfl⟩
    exact ⟨s, ⟨hs, front, back, rfl, by simpa using hf⟩, rfl⟩

theorem isSome_setting?_iff {settings : List (String × String)} {key : String} :
    (setting? settings key).isSome = true ↔ ∃ s ∈ settings, IsNamed key s := by
  simp [setting?, IsNamed]

/-! ## Columns -/

/-- A model field is the struct field `f` with these settings. -/
structure ModelField.IsMapped (m : ModelField) (f : StructField)
    (settings : List (String × String)) : Prop where
  name : m.name = f.name
  type : m.type = f.type
  column : ∀ value, FirstSetting settings "column" value → value ≠ "" → m.column = value
  /-- Without a setting the column is named after the field. -/
  columnName : (∀ value, FirstSetting settings "column" value → value = "") →
    m.column = Naming.columnName f.name
  primaryKey : m.isPrimaryKey = true ↔
    f.name = "ID" ∨ ∃ s ∈ settings, IsNamed "primaryKey" s ∨ IsNamed "primary_key" s
  autoIncrement : m.autoIncrement = true ↔
    ∃ value, FirstSetting settings "autoIncrement" value ∧ value ≠ "false"
  comment : ∀ value, m.comment = some value ↔ FirstSetting settings "comment" value

/-- A field that is not left out by its tag has the column that its settings give. -/
theorem ModelField.exists_isMapped {f : StructField} {settings : List (String × String)}
    (he : f.embedded = false) (hx : f.isExported = true)
    (htag : (f.tagValue? "gorm").getD "" ≠ "-")
    (hs : AreSettings ((f.tagValue? "gorm").getD "").toList settings) :
    ∃ m, ModelField.ofStructField? f = some m ∧ m.IsMapped f settings := by
  have hread := tagSettings_eq hs
  unfold ofStructField?
  simp only [he, hx, beq_eq_false_iff_ne.2 htag, Bool.not_true, Bool.or_self, Bool.false_eq_true,
    if_false, hread]
  refine ⟨_, rfl, rfl, rfl, ?column, ?columnName, ?primaryKey, ?autoIncrement,
    fun value => setting?_eq_some_iff⟩
  case column =>
    intro value hv hne
    rw [setting?_eq_some_iff.2 hv, Option.filter_some_pos (by simpa using hne)]
    rfl
  case columnName =>
    intro h
    cases hc : setting? settings "column" with
    | none => rfl
    | some value =>
      obtain rfl := h value (setting?_eq_some_iff.1 hc)
      rfl
  case primaryKey =>
    simp only [Bool.or_eq_true, isSome_setting?_iff, beq_iff_eq, or_comm (b := f.name = "ID"),
      and_or_left, exists_or]
  case autoIncrement =>
    simp only [Option.any_eq_true, setting?_eq_some_iff]
    simp

end QueryGen
