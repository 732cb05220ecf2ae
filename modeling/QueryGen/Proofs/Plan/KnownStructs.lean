import QueryGen.Proofs.Plan.Account

/-!
# The structs that a run knows

Templates are read against the structs of the model source, under the package of the models.

- `StructRegistry.lookup_ofList`: the last entry of a type counts.
- `StructDecl.IsUsable`: the structs that can be models.
- `GoFile.Chooses`: a choice of one declaration for each name, for files that declare a name twice.
- `GoType.ownStruct?`, `GoType.knownStruct?`: the struct that a type names in the model source, and
  the one that a run finds for it.
- `Config.lookup_structsOf`: a run finds the structs that can be models, under the package of the
  models, and no others.
-/

namespace QueryGen

namespace StructRegistry

theorem lookup_insert (r : StructRegistry) (key type : GoType) (shape : StructShape) :
    (r.insert key shape).lookup type =
      if type.deref = key then some shape else r.lookup type := by
  have hfilter : ∀ entries : List (GoType × StructShape), type.deref ≠ key →
      (entries.filter (·.1 ≠ key)).lookup type.deref = entries.lookup type.deref := by
    intro entries hne
    induction entries with
    | nil => rfl
    | cons e rest ih =>
      by_cases he : e.1 = key
      · have hbeq : (type.deref == e.1) = false := by
          rw [he]
          exact beq_eq_false_iff_ne.2 hne
        rw [List.filter_cons_of_neg (by simpa using he), ih, List.lookup_cons, hbeq]
      · rw [List.filter_cons_of_pos (by simpa using he), List.lookup_cons, List.lookup_cons, ih]
  unfold lookup insert
  rw [List.lookup_cons]
  split
  · next he => rw [if_pos (eq_of_beq he)]
  · next he =>
    have hne := beq_eq_false_iff_ne.1 he
    rw [if_neg hne, hfilter _ hne]

/-- The last entry of a type counts. -/
theorem lookup_ofList (entries : List (GoType × StructShape)) (type : GoType) :
    (ofList entries).lookup type = entries.reverse.lookup type.deref := by
  unfold ofList
  induction entries using List.reverseRecOn with
  | nil => rfl
  | append_singleton front e ih =>
    rw [List.foldl_append, List.foldl_cons, List.foldl_nil, lookup_insert, ih,
      List.reverse_append, List.reverse_singleton, List.singleton_append, List.lookup_cons]
    by_cases he : type.deref = e.1
    · rw [if_pos he, beq_iff_eq.2 he]
    · rw [if_neg he, beq_eq_false_iff_ne.2 he]

end StructRegistry

namespace StructDecl

/-- The fields that are columns. -/
def mapped (d : StructDecl) : List ModelField := d.fields.filterMap ModelField.ofStructField?

/-- The type of the column of a name. -/
def columnType? (d : StructDecl) (field : String) : Option GoType :=
  (d.mapped.find? (·.name == field)).map (·.type)

/-- The struct can be a model. -/
def IsUsable (d : StructDecl) : Prop := Go.isGoIdentifier d.name = true ∧ d.mapped ≠ []

instance (d : StructDecl) : Decidable d.IsUsable := inferInstanceAs (Decidable (_ ∧ _))

/-- The struct as a model. -/
def model (d : StructDecl) (table package : String) : Model where
  name := d.name
  table := table
  package := package
  fields := d.mapped

def shape (d : StructDecl) : StructShape :=
  ⟨d.name, d.mapped.map fun f => { name := f.name, type := f.type }⟩

theorem field?_shape (d : StructDecl) (field : String) :
    (d.shape.field? field).map (·.type) = d.columnType? field := by
  rw [StructShape.field?, shape, List.find?_map, Option.map_map]
  rfl

theorem ofStruct_eq_ok_iff {d : StructDecl} {table package : String} {m : Model} :
    Model.ofStruct d table package = .ok m ↔ d.IsUsable ∧ m = d.model table package := by
  rw [Model.ofStruct, Model.checked]
  split
  · next hname =>
    refine ⟨(nomatch ·), fun ⟨⟨hid, _⟩, _⟩ => ?_⟩
    rw [hid] at hname
    cases hname
  · next hname =>
    have hid : Go.isGoIdentifier d.name = true := by simpa using hname
    split
    · next hfields =>
      exact ⟨(nomatch ·), fun h => absurd (List.isEmpty_iff.1 hfields) h.1.2⟩
    · next hfields =>
      refine ⟨fun h => ⟨⟨hid, mt List.isEmpty_iff.2 hfields⟩, (Except.ok.inj h).symm⟩, ?_⟩
      rintro ⟨-, rfl⟩
      rfl

end StructDecl

/-- One declaration for each name that a file declares as a struct. -/
structure GoFile.Chooses (file : GoFile) (choice : String → Option StructDecl) : Prop where
  declared : ∀ {name d}, choice name = some d → d ∈ file.structs ∧ d.name = name
  all : ∀ {d}, d ∈ file.structs → (choice d.name).isSome = true

/-- Declarations of some kind can be preferred. -/
theorem GoFile.exists_chooses (file : GoFile) (P : StructDecl → Prop) :
    ∃ choice, file.Chooses choice ∧
      ∀ d ∈ file.structs, P d → ∃ other, choice d.name = some other ∧ P other := by
  classical
  let preferred (name : String) := file.structs.find? fun d => d.name = name ∧ P d
  let first (name : String) := file.structs.find? fun d => d.name = name
  have hpreferred : ∀ {name d}, preferred name = some d →
      d ∈ file.structs ∧ d.name = name ∧ P d := fun h =>
    ⟨List.mem_of_find?_eq_some h, by simpa using List.find?_some h⟩
  have hfirst : ∀ {name d}, first name = some d → d ∈ file.structs ∧ d.name = name := fun h =>
    ⟨List.mem_of_find?_eq_some h, by simpa using List.find?_some h⟩
  refine ⟨fun name => (preferred name).or (first name), ⟨fun {name d} h => ?_, fun {d} hd => ?_⟩,
    fun d hd hp => ?_⟩
  · rcases Option.or_eq_some_iff.1 h with h | ⟨-, h⟩
    · exact ⟨(hpreferred h).1, (hpreferred h).2.1⟩
    · exact hfirst h
  · rw [Option.isSome_or, Bool.or_eq_true]
    exact .inr (List.find?_isSome.2 ⟨d, hd, by simp⟩)
  · have hsome : (preferred d.name).isSome = true :=
      List.find?_isSome.2 ⟨d, hd, by simpa using hp⟩
    obtain ⟨other, hother⟩ := Option.isSome_iff_exists.1 hsome
    exact ⟨other, by simp [hother], (hpreferred hother).2.2⟩

namespace GoType

variable (package : String) (choice : String → Option StructDecl)

/-- The struct that a type names in the model source, by itself as the source does or in the package
of the models. Pointers do not count. -/
def ownStruct? (t : GoType) : Option StructDecl :=
  match t.deref with
  | named none name => choice name
  | named (some qualifier) name => if qualifier = package then choice name else none
  | _ => none

/-- The struct that a run finds for a type. It can be a model, and the package stands before its
name. -/
def knownStruct? (t : GoType) : Option StructDecl :=
  match t.deref with
  | named (some qualifier) name =>
    if qualifier = package then (choice name).filter (·.IsUsable) else none
  | _ => none

variable {package choice}

/-- What a run finds is the struct of the source. -/
theorem ownStruct?_of_knownStruct? {t : GoType} {d : StructDecl}
    (h : t.knownStruct? package choice = some d) : t.ownStruct? package choice = some d := by
  unfold knownStruct? at h
  unfold ownStruct?
  split at h
  · next htype =>
    rw [htype]
    split_ifs at h with hpackage
    simp [hpackage, (Option.filter_eq_some_iff.1 h).1]
  · cases h

end GoType

namespace Config

variable {c : Config} {catalog : Catalog} {file : GoFile}

/-- The models of a run are structs of its model source. -/
theorem model_of_mem_planTables {m : Model}
    (h : m ∈ (c.planTables catalog (some file)).tables.map (·.model)) :
    ∃ d ∈ file.structs, d.IsUsable ∧ ∃ table, m = d.model table c.modelPackage := by
  rw [planTables_eq] at h
  obtain ⟨t, ht, rfl⟩ := List.mem_map.1 h
  obtain ⟨table, -, ht⟩ := List.mem_map.1 (mem_successes.1 ht)
  obtain ⟨m, hm, rfl⟩ := map_eq_ok_iff.1 ht
  unfold modelOf at hm
  obtain ⟨found, -, hm⟩ := bind_eq_ok_iff.1 hm
  obtain ⟨d, hd, hm⟩ := bind_eq_ok_iff.1 hm
  obtain ⟨husable, he⟩ := StructDecl.ofStruct_eq_ok_iff.1 (mapError_eq_ok_iff.1 hm)
  have hd := mapError_eq_ok_iff.1 hd
  unfold GoFile.findStruct at hd
  split at hd
  · next found hfound =>
    cases hd
    exact ⟨_, List.mem_of_find?_eq_some hfound, husable, table, he⟩
  · cases hd

/-- The structs that a run knows, as models. -/
def knownModels (c : Config) (catalog : Catalog) (file : GoFile) : List Model :=
  let models := (c.planTables catalog (some file)).tables.map (·.model)
  models ++ c.otherModels models file

theorem model_of_mem_knownModels {m : Model} (h : m ∈ c.knownModels catalog file) :
    ∃ d ∈ file.structs, d.IsUsable ∧ ∃ table, m = d.model table c.modelPackage := by
  rcases List.mem_append.1 h with h | h
  · exact model_of_mem_planTables h
  · obtain ⟨d, hd, hm⟩ := List.mem_map.1 (mem_successes.1 h)
    obtain ⟨husable, he⟩ := StructDecl.ofStruct_eq_ok_iff.1 hm
    exact ⟨d, (List.mem_filter.1 hd).1, husable, _, he⟩

/-- Every struct that can be a model is known. -/
theorem exists_mem_knownModels (c : Config) (catalog : Catalog) {d : StructDecl}
    (hd : d ∈ file.structs) (hu : d.IsUsable) :
    ∃ m ∈ c.knownModels catalog file, m.goType = .qualified c.modelPackage d.name := by
  by_cases hany :
      ((c.planTables catalog (some file)).tables.map (·.model)).any (·.name == d.name) = true
  · obtain ⟨m, hm, hname⟩ := List.any_eq_true.1 hany
    obtain ⟨other, -, -, table, rfl⟩ := model_of_mem_planTables hm
    refine ⟨_, List.mem_append_left _ hm, ?_⟩
    rw [← eq_of_beq hname]
    rfl
  · refine ⟨d.model (Naming.columnName d.name) c.modelPackage, List.mem_append_right _ ?_, rfl⟩
    exact mem_successes.2 (List.mem_map.2 ⟨d, List.mem_filter.2 ⟨hd, by simpa using hany⟩,
      StructDecl.ofStruct_eq_ok_iff.2 ⟨hu, rfl⟩⟩)

/-- What a run knows is a struct of its model source that can be a model. -/
theorem decl_of_lookup {type : GoType} {shape : StructShape}
    (h : (c.structsOf (some file) (c.planTables catalog (some file))).lookup type = some shape) :
    ∃ d ∈ file.structs, d.IsUsable ∧ shape = d.shape ∧
      type.deref = .qualified c.modelPackage d.name := by
  rw [structsOf, knownStructs, Model.registry, StructRegistry.lookup_ofList,
    List.lookup_eq_some_iff] at h
  obtain ⟨front, rest, hentries, -⟩ := h
  have hmem : (type.deref, shape) ∈
      ((c.knownModels catalog file).map fun m => (m.goType, m.shape)).reverse := by
    exact hentries ▸ List.mem_append_right _ List.mem_cons_self
  obtain ⟨m, hm, he⟩ := List.mem_map.1 (List.mem_reverse.1 hmem)
  obtain ⟨d, hd, husable, table, rfl⟩ := model_of_mem_knownModels hm
  obtain ⟨htype, hshape⟩ := Prod.mk.inj he
  exact ⟨d, hd, husable, hshape.symm, htype.symm⟩

/-- A struct that can be a model is found. -/
theorem isSome_lookup (c : Config) (catalog : Catalog) {d : StructDecl} (hd : d ∈ file.structs)
    (hu : d.IsUsable) :
    ((c.structsOf (some file) (c.planTables catalog (some file))).lookup
      (.qualified c.modelPackage d.name)).isSome = true := by
  obtain ⟨m, hm, htype⟩ := exists_mem_knownModels c catalog hd hu
  rw [structsOf, knownStructs, Model.registry, StructRegistry.lookup_ofList, List.lookup_isSome_iff]
  exact ⟨(m.goType, m.shape), List.mem_reverse.2 (List.mem_map.2 ⟨m, hm, rfl⟩),
    beq_iff_eq.2 htype.symm⟩

/-- A run finds the structs of its model source that can be models, each under the package of the
models, and no others. -/
theorem lookup_structsOf (c : Config) (catalog : Catalog) (file : GoFile) :
    ∃ choice, file.Chooses choice ∧ ∀ type,
      (c.structsOf (some file) (c.planTables catalog (some file))).lookup type =
        (type.knownStruct? c.modelPackage choice).map StructDecl.shape := by
  let structs := c.structsOf (some file) (c.planTables catalog (some file))
  obtain ⟨choice, hchoice, hprefers⟩ := file.exists_chooses fun d => d.IsUsable ∧
    structs.lookup (.qualified c.modelPackage d.name) = some d.shape
  refine ⟨choice, hchoice, fun type => ?_⟩
  have hderef : ∀ {package name}, type.deref = .named package name →
      structs.lookup (.named package name) = structs.lookup type := fun htype => by
    rw [StructRegistry.lookup, StructRegistry.lookup, htype]
    rfl
  cases hl : structs.lookup type with
  | some shape =>
    obtain ⟨d, hd, husable, rfl, htype⟩ := decl_of_lookup hl
    have hlookup := (hderef htype).trans hl
    obtain ⟨other, hother, hu, hsame⟩ := hprefers d hd ⟨husable, hlookup⟩
    rw [(hchoice.declared hother).2, hlookup] at hsame
    rw [GoType.knownStruct?, htype]
    simp [hother, hu, Option.some.inj hsame]
  | none =>
    -- A struct that could be found would have been preferred.
    rw [eq_comm, Option.map_eq_none_iff, Option.eq_none_iff_forall_ne_some]
    intro d hd
    unfold GoType.knownStruct? at hd
    split at hd
    · next package name htype =>
      split_ifs at hd with hpackage
      subst hpackage
      obtain ⟨hchosen, hu⟩ := Option.filter_eq_some_iff.1 hd
      obtain ⟨hmem, rfl⟩ := hchoice.declared hchosen
      have hsome := isSome_lookup c catalog hmem (by simpa using hu)
      have hnone : structs.lookup (.qualified c.modelPackage d.name) = none :=
        (hderef htype).trans hl
      rw [hnone] at hsome
      cases hsome
    · cases hd

end Config

end QueryGen
