import QueryGen.Proofs.Template.Scoping
import QueryGen.Proofs.Template.Spelling
import QueryGen.Proofs.Text.Lines

/-!
# References as selectors

The path of a reference is cut off by its characters, and looking it up narrows it.

- `IsSelector`: identifiers with dots between them.
- `Section.Spelled`: what reading alone says about the names in a section
  (`spelled_of_tokenize`): loop variables are identifiers, and a path has no empty field and no
  characters but those of identifiers and `-`.
- `Scope.strayFields`: the fields of a path that no known struct lists.
- `Selects`: what a reference inside loops may be. `selects_of_tokenize`: all are, and their paths
  are selectors exactly if their stray fields are identifiers.
-/

namespace QueryGen

namespace Template

/-- Identifiers with dots between them. -/
def IsSelector (path : String) : Prop :=
  ∀ part ∈ Text.splitOn '.' path.toList, Go.isIdentifierText part = true

/-- A character of an identifier, or `-`. -/
def IsFieldChar (c : Char) : Prop := Go.isIdentChar c = true ∨ c = '-'

/-- A field as paths have it. -/
def IsField (field : String) : Prop := field ≠ "" ∧ ∀ c ∈ field.toList, IsFieldChar c

/-- The fields of a path that are looked up in a type without a known shape. -/
def Scope.strayFields (scope : Scope) : GoType → List String → List String
  | _, [] => []
  | type, field :: fields =>
    match scope.structs.lookup type with
    | some shape => ((shape.field? field).map fun f => scope.strayFields f.type fields).getD []
    | none => field :: scope.strayFields .unknown fields

/-- The known structs list identifiers only. -/
def Scope.FieldsNamed (scope : Scope) : Prop :=
  ∀ type shape, scope.structs.lookup type = some shape →
    ∀ f ∈ shape.fields, Go.isIdentifier f.name = true

/-- What a reference inside loops may be. -/
structure Selects (scope : Scope) (loops : List ForRange) (ref : ParamRef) : Prop where
  root : Go.isIdentifier ref.root = true ∧ ref.root ≠ "_"
  fields : ∀ field ∈ ref.fields, IsField field
  selector_iff : ∃ type, RootType scope loops ref.root ref.source type ∧
    FieldPath scope type ref.fields ref.type ∧
    (scope.FieldsNamed → (IsSelector ref.path ↔
      ∀ field ∈ scope.strayFields type ref.fields, Go.isIdentifier field = true))

/-- What the reference in a section may be. -/
def SectionSelects (scope : Scope) (loops : List ForRange) : Section → Prop
  | .data ref => Selects scope loops ref
  | .quoted ref => Selects scope loops ref
  | _ => True

/-! ## Parts of paths -/

/-- The parts of a path are its first name and its fields. -/
theorem splitOn_path (ref : ParamRef) :
    (Text.splitOn '.' ref.path.toList).map String.ofList = ref.root :: ref.fields := by
  obtain ⟨part, parts, hs⟩ :=
    List.exists_cons_of_ne_nil (Text.splitWith_ne_nil (· == '.') ref.path.toList)
  have hmap : (Text.splitOn '.' ref.path.toList).map String.ofList =
      .ofList part :: parts.map String.ofList := by rw [Text.splitOn, hs, List.map_cons]
  obtain ⟨hroot, hfields⟩ := root_eq_of_splitOn hmap ref.source ref.type
  rw [hmap, ← hroot, ← hfields, String.ofList_toList]

theorem isSelector_iff (ref : ParamRef) :
    IsSelector ref.path ↔ Go.isIdentifier ref.root = true ∧
      ∀ field ∈ ref.fields, Go.isIdentifier field = true := by
  rw [← List.forall_mem_cons (p := fun name => Go.isIdentifier name = true), ← splitOn_path,
    List.forall_mem_map]
  simp only [IsSelector, Go.isIdentifier, String.toList_ofList]

theorem isFieldChar_of_isNameChar {c : Char} (h : isNameChar c = true) (hdot : c ≠ '.') :
    IsFieldChar c := by
  simp only [isNameChar, Bool.or_eq_true, beq_iff_eq] at h
  simp only [IsFieldChar, Go.isIdentChar, Bool.or_eq_true, beq_iff_eq]
  tauto

/-- The fields of a name have the characters of fields. -/
theorem isFieldChar_of_mem_fields {ref : ParamRef}
    (hn : ∀ c ∈ ref.path.toList, isNameChar c = true) {field : String} (hf : field ∈ ref.fields) :
    ∀ c ∈ field.toList, IsFieldChar c := by
  have hmem : field ∈ (Text.splitOn '.' ref.path.toList).map String.ofList := by
    rw [splitOn_path]
    exact List.mem_cons_of_mem _ hf
  obtain ⟨part, hpart, rfl⟩ := List.mem_map.1 hmem
  intro c hc
  rw [String.toList_ofList] at hc
  obtain ⟨hin, hdot⟩ := Text.mem_of_mem_splitWith hpart hc
  exact isFieldChar_of_isNameChar (hn c hin) (by simpa using hdot)

/-- No field that is looked up is empty. -/
theorem ne_empty_of_fieldsType {scope : Scope} {source path : String} {type last : GoType}
    {fields : List String} (h : fieldsType scope source path type fields = .ok last) :
    ∀ field ∈ fields, field ≠ "" := by
  induction fields generalizing type with
  | nil => simp
  | cons field rest ih =>
    unfold fieldsType at h
    split at h
    · cases h
    · next hne =>
      obtain ⟨next, -, h⟩ := bind_eq_ok_iff.1 h
      exact List.forall_mem_cons.2 ⟨hne, ih h⟩

/-! ## What reading says -/

/-- The names in a path, as they are spelled. -/
structure RefSpelled (ref : ParamRef) : Prop where
  root : ref.root ≠ "_"
  fields : ∀ field ∈ ref.fields, IsField field

/-- The names in a section, as they are spelled. -/
def Section.Spelled : Section → Prop
  | .data ref => RefSpelled ref
  | .quoted ref => RefSpelled ref
  | .loop range => Go.isIdentifier range.index = true ∧ Go.isIdentifier range.value = true
  | _ => True

variable {scope : Scope} {source : String} {r : Reading}

theorem spelled_flush (h : ∀ s ∈ r.reversed, Section.Spelled s) (keepBlank : Bool) :
    ∀ s ∈ (r.flush keepBlank).reversed, Section.Spelled s := by
  rcases reversed_flush r keepBlank with hr | ⟨text, hr⟩
  · rwa [hr]
  · rw [hr]
    exact List.forall_mem_cons.2 ⟨trivial, h⟩

theorem refSpelled_of_resolve {path : List Char} {ref : ParamRef}
    (hn : ∀ c ∈ path, isNameChar c = true) (h : resolve scope source r path = .ok ref) :
    RefSpelled ref := by
  obtain ⟨root, fields, origin, type, last, hs, hne, -, hl, rfl⟩ := found_of_resolve h
  obtain ⟨hroot, hfields⟩ := root_eq_of_splitOn hs origin last
  refine ⟨hroot ▸ hne, fun field hf => ?_⟩
  refine ⟨ne_empty_of_fieldsType hl field (hfields ▸ hf), isFieldChar_of_mem_fields ?_ hf⟩
  simpa using hn

/-- The variables of a loop are identifiers. -/
theorem isIdentifier_of_classify {body : List Char} {index value range : String}
    (h : classify body = .ok (.loop index value range)) :
    Go.isIdentifier index = true ∧ Go.isIdentifier value = true := by
  obtain ⟨hs, -⟩ := classify_eq_ok_iff.1 h
  cases hs with
  | loop _ hi hv => exact ⟨hi, hv⟩

theorem spelled_isRead {p : Piece} {next : Reading} {template : String}
    (hp : p ∈ pieces template.toList) (h : ∀ s ∈ r.reversed, Section.Spelled s)
    (hn : p.IsRead scope source r next) : ∀ s ∈ next.reversed, Section.Spelled s := by
  cases hn with
  | text buffer => exact h
  | data hname href =>
    have href := refSpelled_of_resolve (isNameChar_of_mem_pieces (hname ▸ hp)) href
    exact List.forall_mem_cons.2 ⟨href, spelled_flush h true⟩
  | quoted hname href hs =>
    have href := refSpelled_of_resolve (isNameChar_of_mem_pieces (hname ▸ hp)) href
    exact List.forall_mem_cons.2 ⟨href, spelled_flush h true⟩
  | branch | otherwise | join | close =>
    exact List.forall_mem_cons.2 ⟨trivial, spelled_flush h false⟩
  | loop hc hr =>
    exact List.forall_mem_cons.2 ⟨isIdentifier_of_classify hc, spelled_flush h false⟩

theorem spelled_of_tokenize {template : String} {receiver : Option String}
    {sections : List Section} (h : tokenize template scope receiver = .ok sections) :
    ∀ s ∈ sections, Section.Spelled s := by
  obtain ⟨r, hr, rfl⟩ := tokenize_induction
    (P := fun r => ∀ s ∈ r.reversed, Section.Spelled s) (by simp)
    (fun r p next hp hr hn => spelled_isRead hp hr hn) h
  intro s hs
  exact spelled_flush hr false s (List.mem_reverse.1 hs)

/-! ## What lookup says -/

/-- The loops around a section are opened before it. -/
theorem mem_of_mem_scopesOf {blocks : List (Option ForRange)} {sections : List Section}
    {loops : List ForRange} (h : loops ∈ scopesOf blocks sections) {range : ForRange}
    (hr : range ∈ loops) : range ∈ loopsOf blocks ∨ Section.loop range ∈ sections := by
  induction sections generalizing blocks with
  | nil => cases h
  | cons s rest ih =>
    rcases List.mem_cons.1 h with rfl | h
    · exact .inl hr
    · rcases ih h with hb | hs
      · cases s with
        | loop other =>
          rcases List.mem_cons.1 hb with rfl | hb
          · exact .inr List.mem_cons_self
          · exact .inl hb
        | close =>
          refine .inl ?_
          cases blocks with
          | nil => cases hb
          | cons b more => cases b with
            | none => exact hb
            | some other => exact List.mem_cons_of_mem _ hb
        | _ => exact .inl hb
      · exact .inr (List.mem_cons_of_mem s hs)

/-- A name that is found is an identifier, if parameters and loop variables are. -/
theorem isIdentifier_of_rootType (hp : ∀ p ∈ scope.params, Go.isIdentifier p.name = true)
    {loops : List ForRange}
    (hl : ∀ r ∈ loops, Go.isIdentifier r.index = true ∧ Go.isIdentifier r.value = true)
    {name : String} {origin : ParamSource} {type : GoType}
    (h : RootType scope loops name origin type) : Go.isIdentifier name = true := by
  cases h with
  | @loop inner outer r hloops _ hr =>
    obtain ⟨hindex, hvalue⟩ := hl r (by simp [hloops])
    rcases hr.2 with rfl | rfl
    · exact hvalue
    · exact hindex
  | @method p _ hparam =>
    obtain rfl : p.name = name := by simpa using List.find?_some hparam
    exact hp p (List.mem_of_find?_eq_some hparam)

/-- A field of a known struct is an identifier, and any other one is stray. -/
theorem forall_fields_iff (hnamed : scope.FieldsNamed) {type last : GoType} {fields : List String}
    (h : FieldPath scope type fields last) :
    (∀ field ∈ fields, Go.isIdentifier field = true) ↔
      ∀ field ∈ scope.strayFields type fields, Go.isIdentifier field = true := by
  induction h with
  | nil type => rfl
  | @known type last field fields shape found hs hf h ih =>
    have hfound : found.name = field := by simpa using List.find?_some hf
    have hid : Go.isIdentifier field = true :=
      hfound ▸ hnamed type shape hs found (List.mem_of_find?_eq_some hf)
    rw [List.forall_mem_cons, and_iff_right hid, ih, Scope.strayFields, hs]
    simp only [hf, Option.map_some, Option.getD_some]
  | foreign hs hb h ih =>
    rw [List.forall_mem_cons, ih, Scope.strayFields, hs, List.forall_mem_cons]

theorem selects_of_resolved (hp : ∀ p ∈ scope.params, Go.isIdentifier p.name = true)
    {loops : List ForRange}
    (hl : ∀ r ∈ loops, Go.isIdentifier r.index = true ∧ Go.isIdentifier r.value = true)
    {ref : ParamRef} (hs : RefSpelled ref) (h : ParamRefResolved scope loops ref) :
    Selects scope loops ref := by
  obtain ⟨type, hroot, hpath⟩ := h.type
  have hid := isIdentifier_of_rootType hp hl hroot
  refine ⟨⟨hid, hs.root⟩, hs.fields, type, hroot, hpath, fun hnamed => ?_⟩
  rw [isSelector_iff, and_iff_right hid, forall_fields_iff hnamed hpath]

/-- Every reference of a template begins with an identifier, and its fields are not empty and have
the characters of fields. Its path is a selector exactly if the fields that are looked up in types
without a known shape are identifiers. -/
theorem selects_of_tokenize {template : String} {receiver : Option String}
    {sections : List Section} (hp : ∀ p ∈ scope.params, Go.isIdentifier p.name = true)
    (h : tokenize template scope receiver = .ok sections) :
    List.Forall₂ (SectionSelects scope) (scopesOf [] sections) sections := by
  have hspelled := spelled_of_tokenize h
  have hloops : ∀ loops ∈ scopesOf [] sections, ∀ r ∈ loops,
      Go.isIdentifier r.index = true ∧ Go.isIdentifier r.value = true := by
    intro loops hloops r hr
    rcases mem_of_mem_scopesOf hloops hr with hb | hs
    · cases hb
    · exact hspelled _ hs
  obtain ⟨hlen, hresolved⟩ := List.forall₂_iff_zip.1 (resolved_of_tokenize h)
  refine List.forall₂_iff_zip.2 ⟨hlen, fun {loops s} hmem => ?_⟩
  obtain ⟨hin, hs⟩ := List.of_mem_zip hmem
  have hres := hresolved hmem
  have hname := hspelled s hs
  cases s with
  | data ref | quoted ref => exact selects_of_resolved hp (hloops loops hin) hname hres
  | _ => trivial

/-- A field of a loop variable whose type has no known shape. -/
theorem selects_of_tokenize_loop :
    ∃ sections,
      tokenize "\x7b\x7bfor _, v := range ext.Items\x7d\x7d@v.Name\x7b\x7bend\x7d\x7d"
        ⟨[⟨"ext", .qualified "other" "Thing", false⟩], "t", .empty⟩ = .ok sections ∧
      List.Forall₂ (SectionSelects ⟨[⟨"ext", .qualified "other" "Thing", false⟩], "t", .empty⟩)
        (scopesOf [] sections) sections ∧
      sections = [.loop ⟨"_", "v", "ext.Items", .unknown⟩, .data ⟨"v.Name", .loop, .unknown⟩,
        .close] := by
  refine ⟨_, ?tokens, selects_of_tokenize (by decide) ?tokens, rfl⟩
  rw [tokenize_ofList]
  decide +kernel

/-- Digits and a `-` pass in a field of a type without a known shape. -/
theorem not_isSelector_of_foreign :
    tokenize "x = @ext.0_0" ⟨[⟨"ext", .qualified "other" "Thing", false⟩], "t", .empty⟩ =
      .ok [.literal "x = ", .data ⟨"ext.0_0", .method, .unknown⟩] ∧
    Go.isIdentifier "ext" = true ∧ ¬IsSelector "ext.0_0" := by
  refine ⟨by rw [tokenize_ofList]; decide +kernel, by decide, fun h => ?_⟩
  exact absurd (h ['0', '_', '0'] (by decide)) (by decide)

end Template

end QueryGen
