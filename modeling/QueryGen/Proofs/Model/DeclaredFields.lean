import QueryGen.Proofs.Model.ColumnSettings
import QueryGen.Proofs.Naming.GoNames
import QueryGen.Proofs.Text.Lines

/-!
# Fields that are declared again

The struct of a model is written with its tags. Read as an existing struct it describes the same
columns, except that a field `ID` is a key whatever its tag says.

- `GoType.fieldKind_goType`: both ways to a model have one kind for a type.
- `ModelField.declared`: the struct field that is written for a model field.
- `ModelField.tagSettings_columnTag`, `setting?_readSettings`: its settings are read back.
- `ModelField.ofStructField?_declared`: what is read from a declared field.
- `ModelField.ofStructField?_ofColumn`: what is read from the field of a column.
-/

namespace QueryGen

/-- The kind of a column is that of its Go type. -/
theorem GoType.fieldKind_goType (t : DataType) (nullable : Bool) :
    (t.goType nullable).fieldKind = t.fieldKind := by
  cases t <;> cases nullable <;> rfl

namespace ModelField

variable {f : ModelField}

/-- The struct field that is written for a model field. -/
def declared (f : ModelField) : StructField := ⟨f.name, f.type, some f.tag, false⟩

/-- What a comment is read as behind a tag. Without a character it is not written. -/
def readComment (comment : Option String) : Option String :=
  (comment.filter (· ≠ "")).map fun s => trimmed (tagComment s)

/-- The setting of a key that has a value. -/
def optional (key : String) (value : Option String) : List (String × String) :=
  (value.map fun v => (key, v)).toList

/-- What the settings of a field are read as. -/
def readSettings (f : ModelField) : List (String × String) :=
  optional "column" (some f.column) ++
  optional "primaryKey" (if f.isPrimaryKey then some "" else none) ++
  optional "autoIncrement" (if f.autoIncrement then some "true" else none) ++
  optional "comment" (readComment f.comment)

/-! ## Settings -/

/-- Neither a quote nor what ends a setting. -/
def IsPlain (cs : List Char) : Prop := '"' ∉ cs ∧ ';' ∉ cs

instance (cs : List Char) : Decidable (IsPlain cs) := inferInstanceAs (Decidable (_ ∧ _))

theorem isPlain_tagComment (comment : String) : IsPlain (tagComment comment).toList := by
  simp only [IsPlain, tagComment, String.toList_ofList, List.mem_map]
  constructor <;>
  · rintro ⟨c, -, hc⟩
    split at hc
    · cases hc
    · simp_all

theorem IsPlain.append {front back : List Char} (hf : IsPlain front) (hb : IsPlain back) :
    IsPlain (front ++ back) :=
  ⟨by simp [hf.1, hb.1], by simp [hf.2, hb.2]⟩

theorem isPlain_settings (h : IsPlain f.column.toList) : ∀ s ∈ f.settings, IsPlain s.toList := by
  have hcolumn : IsPlain ("column:" ++ f.column).toList := by
    rw [String.toList_append]
    exact .append (by decide) h
  have hcomment : ∀ comment, IsPlain ("comment:" ++ tagComment comment).toList := fun comment => by
    rw [String.toList_append]
    exact .append (by decide) (isPlain_tagComment comment)
  simp only [settings, List.forall_mem_append, List.forall_mem_singleton]
  refine ⟨⟨⟨hcolumn, ?_⟩, ?_⟩, ?_⟩
  · split
    · simp [IsPlain]
    · simp
  · split
    · simp [IsPlain]
    · simp
  · split
    · simp
    · simp
    · simpa using hcomment _

theorem partSettings_pair {key : String} (hc : ':' ∉ key.toList) (ht : trimmed key = key)
    (value : String) : partSettings [(key ++ ":" ++ value).toList] = [(key, trimmed value)] := by
  have hset : partSettings [key.toList ++ ':' :: value.toList] =
      [(.ofList (Text.trim key.toList), .ofList (Text.trim value.toList))] :=
    partSettings_of_isSetting (.pair hc)
  have htext : (key ++ ":" ++ value).toList = key.toList ++ ':' :: value.toList := by simp
  rw [htext, hset]
  exact congrArg (fun k => [(k, trimmed value)]) ht

/-- A written setting is read back. -/
theorem partSettings_settings (ht : trimmed f.column = f.column) :
    partSettings (f.settings.map String.toList) = f.readSettings := by
  have hcolumn : partSettings [("column:" ++ f.column).toList] = [("column", f.column)] := by
    have hstart : "column:" = "column" ++ ":" := by decide
    rw [hstart, partSettings_pair (by decide) (by decide), ht]
  have hkey : partSettings ((if f.isPrimaryKey then ["primaryKey"] else []).map String.toList) =
      optional "primaryKey" (if f.isPrimaryKey then some "" else none) := by
    split <;> decide
  have hauto :
      partSettings ((if f.autoIncrement then ["autoIncrement:true"] else []).map String.toList) =
        optional "autoIncrement" (if f.autoIncrement then some "true" else none) := by
    split <;> decide
  simp only [settings, readSettings, List.map_append, partSettings_append, List.map_singleton,
    hcolumn, hkey, hauto]
  refine congrArg (List.append _) ?_
  split
  · next hnone => simp [hnone, readComment, partSettings, optional]
  · next hempty => simp [hempty, readComment, partSettings, optional]
  · next comment hne hsome =>
    have hstart : "comment:" = "comment" ++ ":" := by decide
    rw [List.map_singleton, hstart, partSettings_pair (by decide) (by decide), readComment, hsome,
      Option.filter_some_pos (by simpa using hne)]
    rfl

theorem toList_columnTag (f : ModelField) :
    f.columnTag.toList = Text.join [';'] (f.settings.map String.toList) := by
  simp [columnTag, Text.join]

/-- The settings of a field are read back from its tag. -/
theorem tagSettings_columnTag (h : IsPlain f.column.toList) (ht : trimmed f.column = f.column) :
    tagSettings f.columnTag = f.readSettings := by
  have hparts : Text.splitOn ';' f.columnTag.toList = f.settings.map String.toList := by
    rw [toList_columnTag]
    exact Text.splitOn_join (List.forall_mem_map.2 fun s hs => (isPlain_settings h s hs).2)
      (by simp [settings])
  rw [← partSettings_settings ht, ← hparts]
  rfl

/-- The tag of the column is found in the struct tag. -/
theorem tagValue?_declared (h : IsPlain f.column.toList) :
    f.declared.tagValue? "gorm" = some f.columnTag := by
  have hplain : '"' ∉ f.columnTag.toList := by
    intro hmem
    rw [toList_columnTag] at hmem
    rcases Text.mem_join hmem with hmem | ⟨part, hpart, hmem⟩
    · exact absurd hmem (by decide)
    · obtain ⟨s, hs, rfl⟩ := List.mem_map.1 hpart
      exact (isPlain_settings h s hs).1 hmem
  have htag : f.tag.toList = "gorm:".toList ++
      '"' :: (f.columnTag.toList ++ '"' :: (" json:\"" ++ f.column ++ "\"").toList) := by
    simp [tag]
  rw [StructField.tagValue?_eq, declared, Option.bind_some, htag,
    Text.quoted?_quote (by decide) (by decide), if_pos (by simp), Text.cutFirst?_quote hplain]
  simp

/-! ## What is read -/

theorem setting?_append (front back : List (String × String)) (key : String) :
    setting? (front ++ back) key = (setting? front key).or (setting? back key) := by
  rw [setting?, List.find?_append]
  cases h : front.find? fun s => Text.sameAsciiCase s.1.toList key.toList <;> simp [setting?, h]

theorem setting?_optional (name key : String) (value : Option String) :
    setting? (optional name value) key =
      if Text.sameAsciiCase name.toList key.toList then value else none := by
  cases value <;> simp [setting?, optional, List.find?_singleton]

/-- The first setting of a key is found, whichever others are written. -/
theorem setting?_readSettings (f : ModelField) :
    setting? f.readSettings "column" = some f.column ∧
    setting? f.readSettings "primaryKey" = (if f.isPrimaryKey then some "" else none) ∧
    setting? f.readSettings "primary_key" = none ∧
    setting? f.readSettings "autoIncrement" = (if f.autoIncrement then some "true" else none) ∧
    setting? f.readSettings "comment" = readComment f.comment := by
  simp only [readSettings, setting?_append, setting?_optional]
  refine ⟨?_, ?_, ?_, ?_, ?_⟩ <;> simp +decide

/-- A declared field is read back from its tag. -/
theorem ofStructField?_declared (hplain : IsPlain f.column.toList)
    (ht : trimmed f.column = f.column) (hne : f.column ≠ "")
    (hexported : f.declared.isExported = true) :
    ofStructField? f.declared = some { f with
      isPrimaryKey := f.isPrimaryKey || f.name == "ID"
      comment := readComment f.comment
      kind := f.type.fieldKind } := by
  obtain ⟨hcolumn, hkey, hother, hauto, hcomment⟩ := setting?_readSettings f
  have hembedded : f.declared.embedded = false := rfl
  have htag : (f.declared.tagValue? "gorm").getD "" = f.columnTag := by
    rw [tagValue?_declared hplain, Option.getD_some]
  have hdash : (f.columnTag == "-") = false := by
    refine beq_eq_false_iff_ne.2 fun hd => ?_
    have hlist := congrArg String.toList hd
    rw [toList_columnTag, settings, List.append_assoc, List.append_assoc, List.singleton_append,
      List.map_cons, Text.join_cons_eq] at hlist
    simp at hlist
  have hread : ((some f.column).filter (· ≠ "")).getD (Naming.columnName f.name) = f.column := by
    rw [Option.filter_some_pos (by simpa using hne), Option.getD_some]
  have hprimary : (if f.isPrimaryKey then some "" else none).isSome = f.isPrimaryKey := by
    cases f.isPrimaryKey <;> rfl
  have hincrement : (if f.autoIncrement then some "true" else none).any (· ≠ "false") =
      f.autoIncrement := by
    cases f.autoIncrement
    · rfl
    · decide
  unfold ofStructField?
  simp only [htag, hdash, hexported, hembedded, Bool.not_true, Bool.or_self, Bool.false_eq_true,
    if_false, tagSettings_columnTag hplain ht, hcolumn, hkey, hother, hauto, hcomment]
  simp only [declared, hread, hprimary, hincrement, Option.isSome_none, Bool.or_false]

/-! ## Fields of columns -/

section Columns

variable {c : Column}

theorem isPlain_columnName (h : Naming.IsColumnName c.name) : IsPlain c.name.toList := by
  constructor <;> intro hmem <;> rcases h.2 _ hmem with hd | hd <;> revert hd <;> decide

theorem trimmed_columnName (h : Naming.IsColumnName c.name) : trimmed c.name = c.name := by
  have hblank : ∀ d ∈ c.name.toList, Text.isBlank d = false := fun d hd => by
    refine Template.isBlank_of_isNameChar ?_
    rcases h.2 d hd with halnum | rfl
    · rw [Template.isNameChar, Naming.isWord_of_isAlphanum halnum]
      rfl
    · decide
  rw [trimmed, (Text.trimmed_of_forall hblank).trim_eq, String.ofList_toList]

theorem isExported_goName (h : Naming.IsColumnName c.name) :
    (ofColumn c).declared.isExported = true := by
  obtain ⟨d, rest, hd, hcapital⟩ := Naming.exists_capital h
  have hname : (ofColumn c).declared.name.toList = d :: rest := by
    rw [← hd, ← Naming.toList_goName h]
    rfl
  rw [StructField.isExported, hname, List.head?_cons, Option.any_some, Text.isUpper,
    if_pos (Naming.toNat_lt_of_isAlphanum (by simp [Char.isAlphanum, Char.isAlpha, hcapital]))]
  exact hcapital

/-- The declared field of a column describes it again. It is a key also if its Go name is `ID`,
whether the column is one or not: these are the columns `id` in any spelling. -/
theorem ofStructField?_ofColumn (h : Naming.IsColumnName c.name) :
    ofStructField? (ofColumn c).declared = some { ofColumn c with
      isPrimaryKey := c.isPrimaryKey || Naming.goName c.name == "ID"
      comment := readComment c.comment } ∧
    (Naming.goName c.name = "ID" ↔
      (c.name.toList.filter (· ≠ '_')).map Char.toLower = ['i', 'd']) := by
  have hne : c.name ≠ "" := by
    rintro hnil
    obtain ⟨d, hd, -⟩ := h.1
    rw [hnil] at hd
    cases hd
  refine ⟨(ofStructField?_declared (f := ofColumn c) (isPlain_columnName h) (trimmed_columnName h)
    hne (isExported_goName h)).trans ?_, Naming.goName_eq_id_iff h⟩
  have hkind : (ofColumn c).type.fieldKind = (ofColumn c).kind := GoType.fieldKind_goType _ _
  rw [hkind]
  rfl

/-- A key with a comment that a tag cannot hold as it is. -/
def number : Column :=
  { name := "order_no", type := .bigInt, comment := some "the \"number\"; ", isPrimaryKey := true
    autoIncrement := true }

theorem ofStructField?_number :
    Naming.IsColumnName number.name ∧
    (ofColumn number).columnTag =
      "column:order_no;primaryKey;autoIncrement:true;comment:the  number   " ∧
    ofStructField? (ofColumn number).declared =
      some { ofColumn number with comment := some "the  number" } := by
  have hname : Naming.IsColumnName number.name := by simp [number, Naming.IsColumnName]
  obtain ⟨hread, -⟩ := ofStructField?_ofColumn hname
  exact ⟨hname, by decide +kernel, hread.trans (by decide +kernel)⟩

/-- A column that is no key is read as one by its name. -/
theorem ofStructField?_id :
    (ofColumn { name := "id", type := .bigInt }).isPrimaryKey = false ∧
    (ofColumn { name := "id", type := .bigInt }).tag = "gorm:\"column:id\" json:\"id\"" ∧
    (ofStructField? (ofColumn { name := "id", type := .bigInt }).declared).map (·.isPrimaryKey) =
      some true := by
  exact ⟨rfl, by decide +kernel, by decide +kernel⟩

end Columns

end ModelField

end QueryGen
