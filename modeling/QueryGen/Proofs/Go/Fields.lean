import QueryGen.Go.Source.File
import QueryGen.Proofs.Go.Passing

/-!
# Where struct fields are declared

- `Declares`: a field is declared at the front of tokens, by its type or under a name.
- `tagLiteral?`: the literal behind the type of a field, which is its tag.
- `placed_of_parse?`: every field of a struct of a file is declared at a place of its text, and its
  tag is the literal there without quotes at its ends.
-/

namespace QueryGen.Go

/-! ## Fields -/

/-- A struct field is declared at the front of tokens, under a name, or by its type alone. Behind
the type are the given tokens. -/
inductive Declares (value : Pass) : List Token → StructField → List Token → Prop
  | named {n k : Nat} {ts rest behind : List Token} {names : List String} {name : String}
      {type : GoType} {tag : Option String} (hnames : namesAt k false ts = some (names, rest))
      (htype : typeAt value n true rest = some (type, behind)) (hname : name ∈ names) :
      Declares value ts ⟨name, type, tag, false⟩ behind
  | embedded {n : Nat} {ts behind : List Token} {type : GoType} {tag : Option String}
      (htype : embeddableAt value n ts = some (type, behind)) :
      Declares value ts ⟨type.typeName?.getD "", type, tag, true⟩ behind
  | pointer {n : Nat} {ts rest behind : List Token} {type : GoType} {tag : Option String}
      (hmark : mark? "*" ts = some rest) (htype : embeddableAt value n rest = some (type, behind)) :
      Declares value ts ⟨(GoType.pointer type).typeName?.getD "", .pointer type, tag, true⟩ behind

/-- The literal that is the tag of a field, behind its type. -/
def tagLiteral? : List Token → Option String
  | t :: _ => if t.kind = .string ∧ t.onNewLine = false then some t.text else none
  | [] => none

/-- A literal without quotes at its ends. -/
def unquoted (literal : String) : String :=
  .ofList (Text.trimMatches (fun c => c == '"' || c == '\x60') literal.toList)

theorem fst_tagAt (ts : List Token) : (tagAt ts).1 = (tagLiteral? ts).map unquoted := by
  unfold tagAt tagLiteral?
  cases ts with
  | nil => rfl
  | cons t rest =>
    by_cases h : t.kind = .string ∧ t.onNewLine = false
    · simp [h, unquoted]
    · simp [h]

/-- A field is declared among tokens, and its tag is the literal behind its type. -/
def Placed (origin : List Token) (f : StructField) : Prop :=
  ∃ n ts behind, ts <:+ origin ∧ Declares (valueAt n) ts f behind ∧
    f.tag = (tagLiteral? behind).map unquoted

variable {value : Pass} {n : Nat} {ts rest origin : List Token} {f : StructField}

theorem Placed.mono (h : Placed ts f) (hs : ts <:+ origin) : Placed origin f := by
  obtain ⟨n, place, behind, hp, hd, ht⟩ := h
  exact ⟨n, place, behind, hp.trans hs, hd, ht⟩

theorem eq_of_withTag {α : Type} {make : Option String → α} {r : Read α}
    (h : withTag make ts = some r) : r.1 = make ((tagLiteral? ts).map unquoted) := by
  unfold withTag at h
  rw [← fst_tagAt]
  grind

theorem declares_of_embeddedAt {r : Read (List StructField)} (h : embeddedAt value n ts = some r)
    (hf : f ∈ r.1) : ∃ behind, Declares value ts f behind ∧
      f.tag = (tagLiteral? behind).map unquoted := by
  cases n with
  | zero => simp [embeddedAt] at h
  | succ n =>
    simp only [embeddedAt, Option.bind_eq_bind, Option.pure_def, Option.bind_some] at h
    split at h
    · next rest hmark =>
      obtain ⟨⟨type, behind⟩, htype, h⟩ := Option.bind_eq_some_iff.1 h
      rw [eq_of_withTag h, List.mem_singleton] at hf
      subst hf
      exact ⟨behind, .pointer hmark htype, rfl⟩
    · obtain ⟨⟨type, behind⟩, htype, h⟩ := Option.bind_eq_some_iff.1 h
      rw [eq_of_withTag h, List.mem_singleton] at hf
      subst hf
      exact ⟨behind, .embedded htype, rfl⟩

theorem declares_of_namedFieldAt {r : Read (List StructField)}
    (h : namedFieldAt value n ts = some r) (hf : f ∈ r.1) :
    ∃ behind, Declares value ts f behind ∧ f.tag = (tagLiteral? behind).map unquoted := by
  cases n with
  | zero => simp [namedFieldAt] at h
  | succ n =>
    simp only [namedFieldAt, Option.bind_eq_bind, Option.bind_some] at h
    obtain ⟨⟨first, rest⟩, hfirst, h⟩ := Option.bind_eq_some_iff.1 h
    have hnames : ∀ {others : List String} {rest' behind : List Token} {type : GoType},
        namesAt (n + 1) false ts = some (first :: others, rest') →
        typeAt value n true rest' = some (type, behind) →
        withTag (fun tag => (first :: others).map fun name => ⟨name, type, tag, false⟩) behind =
          some r →
        ∃ behind, Declares value ts f behind ∧ f.tag = (tagLiteral? behind).map unquoted := by
      intro others rest' behind type hn ht hw
      rw [eq_of_withTag hw] at hf
      obtain ⟨name, hname, rfl⟩ := List.mem_map.1 hf
      exact ⟨behind, .named hn ht hname, rfl⟩
    split at h
    · simp at h
    · split at h
      · next more hmark =>
        obtain ⟨⟨others, rest'⟩, hothers, h⟩ := Option.bind_eq_some_iff.1 h
        obtain ⟨⟨type, behind⟩, htype, h⟩ := Option.bind_eq_some_iff.1 h
        refine hnames ?_ htype h
        simp [namesAt, hfirst, markIn?, atLineEnd, hmark, hothers]
      · next hmark =>
        obtain ⟨⟨type, behind⟩, htype, h⟩ := Option.bind_eq_some_iff.1 h
        refine hnames ?_ htype h
        simp [namesAt, hfirst, markIn?, atLineEnd, hmark]

theorem declares_of_mem_fieldAt {r : Read (List StructField)} (h : r ∈ fieldAt value n ts)
    (hf : f ∈ r.1) : ∃ behind, Declares value ts f behind ∧
      f.tag = (tagLiteral? behind).map unquoted := by
  cases n with
  | zero => simp [fieldAt] at h
  | succ n =>
    rw [fieldAt] at h
    obtain ⟨field, hfield, h⟩ := List.mem_filterMap.1 h
    simp only [Option.bind_eq_bind, Option.pure_def] at h
    obtain ⟨⟨fields, rest⟩, hread, h⟩ := Option.bind_eq_some_iff.1 h
    have hfields : r.1 = fields := by
      split at h
      all_goals
        obtain ⟨next, -, h⟩ := Option.bind_eq_some_iff.1 h
        exact (Option.some.inj h) ▸ rfl
    rw [hfields] at hf
    rcases List.mem_pair.1 hfield with rfl | rfl
    · exact declares_of_embeddedAt hread hf
    · exact declares_of_namedFieldAt hread hf

theorem valueAt_leaves (bound : Nat) : (valueAt bound).Leaves :=
  (exprRests (statementRests bound).block bound).expr .brackets

/-- Every field that is read is declared at a place of the tokens. -/
theorem placed_of_fieldsAt {bound : Nat} {r : Read (List StructField)}
    (h : fieldsAt (valueAt bound) n ts = some r) : ∀ f ∈ r.1, Placed ts f := by
  cases n with
  | zero => simp [fieldsAt] at h
  | succ n =>
    rw [fieldsAt] at h
    have hvalue : (valueAt bound).Leaves := valueAt_leaves bound
    have hfield : ∀ place, place <:+ ts → ∀ r ∈ fieldAt (valueAt bound) n place,
        (∀ f ∈ r.1, Placed ts f) ∧ r.2 <:+ place := by
      intro place hplace r hr
      refine ⟨fun f hf => ?_, (typeRests hvalue n).field place r hr⟩
      obtain ⟨behind, hd, ht⟩ := declares_of_mem_fieldAt hr hf
      exact ⟨bound, place, behind, hplace, hd, ht⟩
    exact (partsFrom_induction (fun _ _ => suffix_of_mark?) hfield (by simp) h).1

/-! ## Specifications -/

/-- The fields of a struct that is declared. -/
def TypeSpec.Placed (origin : List Token) : TypeSpec → Prop
  | .struct d => ∀ f ∈ d.fields, Go.Placed origin f
  | .interface _ | .other => True

theorem TypeSpec.Placed.mono {spec : TypeSpec} (h : spec.Placed ts) (hs : ts <:+ origin) :
    spec.Placed origin := by
  cases spec with
  | struct d => exact fun f hf => (h f hf).mono hs
  | interface => trivial
  | other => trivial

section Specs

variable {bound : Nat} {name : String}

theorem placed_of_declaredTypeAt {r : Read TypeSpec}
    (h : declaredTypeAt (valueAt bound) n name ts = some r) : r.1.Placed ts := by
  cases ts with
  | nil => simp [declaredTypeAt] at h
  | cons t rest =>
    simp only [declaredTypeAt, Option.bind_eq_bind, Option.pure_def] at h
    split at h
    · obtain ⟨inner, hmark, h⟩ := Option.bind_eq_some_iff.1 h
      obtain ⟨read, hread, h⟩ := Option.bind_eq_some_iff.1 h
      obtain rfl := Option.some.inj h
      have hin : inner <:+ t :: rest := (suffix_of_mark? hmark).trans (List.suffix_cons t rest)
      exact fun f hf => (placed_of_fieldsAt hread f hf).mono hin
    · split at h
      · obtain ⟨inner, -, h⟩ := Option.bind_eq_some_iff.1 h
        obtain ⟨read, -, h⟩ := Option.bind_eq_some_iff.1 h
        obtain rfl := Option.some.inj h
        trivial
      · obtain ⟨read, -, h⟩ := Option.bind_eq_some_iff.1 h
        obtain rfl := Option.some.inj h
        trivial

theorem placed_of_definitionAt {r : Read TypeSpec}
    (h : definitionAt (valueAt bound) n name ts = some r) : r.1.Placed ts := by
  unfold definitionAt at h
  split at h
  · obtain ⟨read, -, rfl⟩ := Option.map_eq_some_iff.1 h
    trivial
  · exact placed_of_declaredTypeAt h

theorem placed_of_mem_typeSpecAt {r : Read TypeSpec}
    (h : r ∈ typeSpecAt (valueAt bound) n ts) : r.1.Placed ts := by
  unfold typeSpecAt at h
  split at h
  · simp at h
  · next name rest hname =>
    have hrest := suffix_of_name? hname
    have hplain : ∀ r ∈ (definitionAt (valueAt bound) n name rest).toList, r.1.Placed ts :=
      fun r hr => (placed_of_definitionAt (Option.mem_toList.1 hr)).mono hrest
    split at h
    · exact hplain r h
    · next generic preferred hgeneric =>
      have hgen : generic.1.Placed ts := by
        simp only [genericSpecAt, Option.bind_eq_bind, Option.pure_def] at hgeneric
        obtain ⟨inner, hinner, hgeneric⟩ := Option.bind_eq_some_iff.1 hgeneric
        split at hgeneric
        · simp at hgeneric
        · obtain ⟨params, hparams, hgeneric⟩ := Option.bind_eq_some_iff.1 hgeneric
          obtain ⟨read, hread, hgeneric⟩ := Option.bind_eq_some_iff.1 hgeneric
          obtain ⟨rfl, -⟩ := Prod.mk.inj (Option.some.inj hgeneric)
          have hin := (suffix_of_typeParamsAt (valueAt_leaves bound) hparams).trans
            (suffix_of_mark? hinner)
          exact (placed_of_definitionAt hread).mono (hin.trans hrest)
      grind

theorem forall_mem_specsAt {α : Type} {P : α → Prop} {spec : List Token → List (Read α)}
    (hs : ∀ place, place <:+ ts → ∀ r ∈ spec place, P r.1 ∧ r.2 <:+ place) {closed : Bool}
    {r : Read (List α)} (h : r ∈ specsAt spec closed n ts) : ∀ x ∈ r.1, P x := by
  unfold specsAt at h
  split at h
  · next rest hmark =>
    have hgroup : ∀ place, place <:+ rest → ∀ r ∈ groupedAt spec closed place,
        (∀ x ∈ r.1, P x) ∧ r.2 <:+ place := by
      intro place hplace r hr
      obtain ⟨⟨one, behind⟩, hone, hend⟩ := List.mem_filterMap.1 hr
      obtain ⟨hP, hbehind⟩ := hs place (hplace.trans (suffix_of_mark? hmark)) _ hone
      obtain ⟨last, hlast, rfl⟩ := Option.map_eq_some_iff.1 hend
      refine ⟨by simpa using hP, List.IsSuffix.trans ?_ hbehind⟩
      split at hlast
      · exact Option.some.inj hlast ▸ List.suffix_rfl
      · exact suffix_of_endAt hlast
    exact (partsFrom_induction (fun _ _ => suffix_of_mark?) hgroup (by simp)
      (Option.mem_toList.1 h)).1
  · obtain ⟨⟨one, behind⟩, hone, rfl⟩ := List.mem_map.1 h
    simpa using (hs ts List.suffix_rfl _ hone).1

end Specs

/-! ## Files -/

/-- The fields of structs that are declared. -/
def Declaration.Placed (origin : List Token) : Declaration → Prop
  | .types specs => ∀ spec ∈ specs, spec.Placed origin
  | .package _ | .imports _ | .function | .other => True

theorem Declaration.Placed.mono {d : Declaration} (h : d.Placed ts) (hs : ts <:+ origin) :
    d.Placed origin := by
  cases d with
  | types specs => exact fun spec hm => (h spec hm).mono hs
  | package | imports | function | other => trivial

section Declarations

variable {bound : Nat}

theorem suffix_of_pathAt {r : Read String} (h : pathAt ts = some r) : r.2 <:+ ts := by
  unfold pathAt at h
  grind

theorem suffix_of_importSpecAt {r : Read Import} (h : importSpecAt ts = some r) : r.2 <:+ ts := by
  have hpath := @suffix_of_pathAt
  unfold importSpecAt at h
  simp only [Option.bind_eq_bind, Option.pure_def] at h
  grind

theorem suffix_of_importListAt {r : Read (List Import)} (h : importListAt n ts = some r) :
    r.2 <:+ ts := by
  have hspec := @suffix_of_importSpecAt
  induction n generalizing ts r with
  | zero => simp [importListAt] at h
  | succ n ih =>
    simp only [importListAt, Option.bind_eq_bind, Option.pure_def] at h
    grind

theorem suffix_of_importsAt {r : Read (List Import)} (h : importsAt n ts = some r) :
    r.2 <:+ ts := by
  have hspec := @suffix_of_importSpecAt
  have hlist := @suffix_of_importListAt
  unfold importsAt at h
  grind

theorem suffix_of_mem_signatureAt (h : rest ∈ signatureAt n ts) : rest <:+ ts := by
  have hblock := (statementRests n).block
  have htypes := typeRests (valueAt_leaves n) n
  unfold signatureAt at h
  grind

theorem suffix_skipTypeParams (n : Nat) (ts : List Token) :
    skipTypeParams (valueAt n) n ts <:+ ts := by
  have hparams := @suffix_of_typeParamsAt (valueAt n) (valueAt_leaves n) n
  unfold skipTypeParams
  grind

theorem suffix_of_mem_functionAt (h : rest ∈ functionAt n ts) : rest <:+ ts := by
  have htypes := typeRests (valueAt_leaves n) n
  have hsignature := @suffix_of_mem_signatureAt n
  have hskip := suffix_skipTypeParams n
  unfold functionAt at h
  grind

theorem placed_of_mem_declarationAt {r : Read Declaration} (h : r ∈ declarationAt n ts) :
    r.1.Placed ts ∧ r.2 <:+ ts := by
  cases ts with
  | nil => simp [declarationAt] at h
  | cons t rest =>
    have hrest : rest <:+ t :: rest := List.suffix_cons t rest
    have hstatement : ∀ r ∈ (statementAt n (t :: rest)).map (Declaration.other, ·),
        r.1.Placed (t :: rest) ∧ r.2 <:+ t :: rest := by
      intro r hr
      obtain ⟨behind, hb, rfl⟩ := List.mem_map.1 hr
      exact ⟨trivial, (statementRests n).statement _ _ hb⟩
    simp only [declarationAt] at h
    split at h
    case h_1 =>
      obtain ⟨read, hread, rfl⟩ := Option.map_eq_some_iff.1 (Option.mem_toList.1 h)
      exact ⟨trivial, (suffix_of_name? hread).trans hrest⟩
    case h_2 =>
      obtain ⟨read, hread, rfl⟩ := Option.map_eq_some_iff.1 (Option.mem_toList.1 h)
      exact ⟨trivial, (suffix_of_importsAt hread).trans hrest⟩
    case h_3 =>
      obtain ⟨⟨specs, behind⟩, hspecs, rfl⟩ := List.mem_map.1 h
      have hspec : ∀ place, place <:+ rest → ∀ r ∈ typeSpecAt (valueAt n) n place,
          r.1.Placed rest ∧ r.2 <:+ place := fun place hp r hr =>
        ⟨(placed_of_mem_typeSpecAt hr).mono hp, suffix_of_mem_typeSpecAt (valueAt_leaves n) hr⟩
      refine ⟨fun spec hm => (forall_mem_specsAt hspec hspecs spec hm).mono hrest, ?_⟩
      exact (suffix_of_mem_specsAt
        (fun _ _ => suffix_of_mem_typeSpecAt (valueAt_leaves n)) hspecs).trans hrest
    case h_4 =>
      rcases List.mem_append.1 h with h | h
      · obtain ⟨behind, hb, rfl⟩ := List.mem_map.1 h
        exact ⟨trivial, (suffix_of_mem_functionAt hb).trans hrest⟩
      · exact hstatement r h
    case h_5 => exact hstatement r h

theorem placed_of_declarations? {ds : List Declaration} (h : declarations? ts = some ds) :
    ∀ d ∈ ds, d.Placed ts := by
  obtain ⟨r, hr, rfl⟩ := Option.map_eq_some_iff.1 h
  have hpart : ∀ place, place <:+ ts → ∀ r ∈ nextDeclarationAt (8 * ts.length + 8) place,
      (∀ d ∈ r.1, d.Placed ts) ∧ r.2 <:+ place := by
    intro place hplace r hr
    obtain ⟨⟨d, behind⟩, hd, hnext⟩ := List.mem_filterMap.1 hr
    obtain ⟨last, hlast, rfl⟩ := Option.map_eq_some_iff.1 hnext
    obtain ⟨hP, hbehind⟩ := placed_of_mem_declarationAt hd
    refine ⟨by simpa using hP.mono hplace, List.IsSuffix.trans ?_ hbehind⟩
    unfold Declaration.next? at hlast
    grind
  have hdone : ∀ place rest : List Token,
      (if atTextEnd place then some place else none) = some rest → rest <:+ place := by
    intro place rest h
    grind
  exact (partsFrom_induction hdone hpart (by simp) hr).1

/-- The structs of a file are those that its declarations declare. -/
theorem mem_structs_foldl {ds : List Declaration} {file : GoFile} {d : StructDecl}
    (h : d ∈ (ds.foldl Declaration.addTo file).structs) :
    d ∈ file.structs ∨ ∃ specs, Declaration.types specs ∈ ds ∧ TypeSpec.struct d ∈ specs := by
  have hspecs : ∀ (specs : List TypeSpec) (file : GoFile),
      d ∈ (specs.foldl TypeSpec.addTo file).structs →
        d ∈ file.structs ∨ TypeSpec.struct d ∈ specs := by
    intro specs
    induction specs with
    | nil => exact fun _ h => .inl h
    | cons spec specs ih =>
      intro file h
      rcases ih _ h with h | h
      · cases spec with
        | struct d' =>
          rcases List.mem_append.1 h with h | h
          · exact .inl h
          · obtain rfl := List.mem_singleton.1 h
            exact .inr List.mem_cons_self
        | interface | other => exact .inl h
      · exact .inr (List.mem_cons_of_mem _ h)
  induction ds generalizing file with
  | nil => exact .inl h
  | cons first ds ih =>
    rcases ih h with h | ⟨specs, hs, hd⟩
    · cases first with
      | types specs =>
        exact (hspecs specs file h).imp id fun hd => ⟨specs, List.mem_cons_self, hd⟩
      | package | imports | function | other => exact .inl h
    · exact .inr ⟨specs, List.mem_cons_of_mem _ hs, hd⟩

end Declarations

end QueryGen.Go

namespace QueryGen

/-- Every field of a struct of a file is declared in its text, and its tag is the literal behind
its type. -/
theorem GoFile.placed_of_parse? {source : String} {file : GoFile} {d : StructDecl}
    {f : StructField} (h : GoFile.parse? source = some file) (hd : d ∈ file.structs)
    (hf : f ∈ d.fields) :
    ∃ ts, Go.tokens? (Go.dropByteOrderMark source.toList) = some ts ∧ Go.Placed ts f := by
  obtain ⟨ts, hts, h⟩ := Option.bind_eq_some_iff.1 h
  obtain ⟨ds, hds, h⟩ := Option.bind_eq_some_iff.1 h
  obtain rfl := Option.some.inj h
  rcases Go.mem_structs_foldl hd with hd | ⟨specs, hspecs, hd⟩
  · exact absurd hd List.not_mem_nil
  · exact ⟨ts, hts, Go.placed_of_declarations? hds _ hspecs _ hd f hf⟩

end QueryGen
