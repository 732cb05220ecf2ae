import QueryGen.Proofs.Plan.KnownStructs
import QueryGen.Template.Tokenize

/-!
# Paths through the structs of a run

A template may name fields of fields. Every step is looked up in the structs that the run knows, and
where it knows none the rest of the path passes. The model source names its own structs without
their package, under which they are known, so a path loses its check behind its first field.

- `IsColumnPath`: the fields of a path are columns as far as its types are structs of the source.
- `Escapes`: a path on which this is missed.
- `Template.fieldsType_spec`: a path resolves or names an unknown field, and what resolves without
  being a column path has escaped, by induction on the fields.
- `Template.checksFields_iff`: the fields of a path are checked as long as it does not escape.
-/

namespace QueryGen

/-- The type has no fields, whatever structs there are. -/
def GoType.isFieldless (t : GoType) : Bool :=
  t.deref.isScalar || t.deref.isArray || t.deref.isMap || t.deref.isInterface

section Paths

variable (own known : GoType → Option StructDecl)

/-- Every field of a path is a column of the struct that the type before it names, if this is a
struct of the source. -/
def IsColumnPath : GoType → List String → Prop
  | _, [] => True
  | type, field :: rest => ∀ d, own type = some d →
    ∃ next, d.columnType? field = some next ∧ IsColumnPath next rest

/-- A path goes through structs that are found until it comes to a type that is not. It may have
fields, so the rest is not looked at, and the rest is no column path. -/
def Escapes : GoType → List String → Prop
  | _, [] => False
  | type, field :: rest =>
    match known type with
    | some d => ∃ next, d.columnType? field = some next ∧ Escapes next rest
    | none => type.isFieldless = false ∧ ¬IsColumnPath own type (field :: rest)

end Paths

namespace Template

variable {own known : GoType → Option StructDecl} {scope : Scope} {source : String}

/-- A field of a known struct has the type of the column. -/
theorem fieldType_of_known {type : GoType} {field : String} {d : StructDecl}
    (h : scope.structs.lookup type = some d.shape) :
    fieldType scope source type field =
      match d.columnType? field with
      | some next => .ok next
      | none => .error (.unknownField d.name field source) := by
  unfold fieldType
  rw [← d.field?_shape]
  simp only [h]
  cases d.shape.field? field <;> rfl

/-- A field of another type is unknown, or there is none. -/
theorem fieldType_of_not_known {type : GoType} {field : String}
    (h : scope.structs.lookup type = none) :
    fieldType scope source type field =
      if type.isFieldless then .error (.unknownField type.text field source)
      else .ok .unknown := by
  unfold fieldType
  simp only [h]
  rfl

/-- Nothing is checked below an unknown type. -/
theorem fieldsType_unknown {path : String} {fields : List String}
    (hunknown : scope.structs.lookup .unknown = none) (hf : ∀ f ∈ fields, f ≠ "") :
    fieldsType scope source path .unknown fields = .ok .unknown := by
  induction fields with
  | nil => rfl
  | cons field rest ih =>
    obtain ⟨hfield, hrest⟩ := List.forall_mem_cons.1 hf
    rw [fieldsType, if_neg hfield, fieldType_of_not_known hunknown]
    exact ih hrest

/-- What comes of the fields of a path: a type, or an unknown field. It is a type although the path
is no column path exactly if the path escapes. -/
theorem fieldsType_spec (hknown : ∀ type, scope.structs.lookup type =
      (known type).map StructDecl.shape)
    (hunknown : known .unknown = none) (hown : ∀ {type d}, known type = some d → own type = some d)
    (source path : String) (type : GoType) {fields : List String} (hf : ∀ f ∈ fields, f ≠ "") :
    ((∃ last, fieldsType scope source path type fields = .ok last) ∨
      ∃ owner field, fieldsType scope source path type fields =
        .error (.unknownField owner field source)) ∧
    ((∃ last, fieldsType scope source path type fields = .ok last) ∧
        ¬IsColumnPath own type fields ↔ Escapes own known type fields) := by
  induction fields generalizing type with
  | nil => exact ⟨.inl ⟨type, rfl⟩, fun h => h.2 trivial, fun h => h.elim⟩
  | cons field rest ih =>
    obtain ⟨hfield, hrest⟩ := List.forall_mem_cons.1 hf
    have hlookup := hknown type
    rw [fieldsType, if_neg hfield]
    cases hk : known type with
    | some d =>
      have hpath : IsColumnPath own type (field :: rest) ↔
          ∃ next, d.columnType? field = some next ∧ IsColumnPath own next rest := by
        simp [IsColumnPath, hown hk]
      have hescapes : Escapes own known type (field :: rest) ↔
          ∃ next, d.columnType? field = some next ∧ Escapes own known next rest := by
        simp [Escapes, hk]
      rw [hk, Option.map_some] at hlookup
      rw [fieldType_of_known hlookup, hpath, hescapes]
      cases hc : d.columnType? field with
      | none => exact ⟨.inr ⟨d.name, field, rfl⟩, by simp [bind, Except.bind]⟩
      | some next => simpa [bind, Except.bind] using ih next hrest
    | none =>
      have hescapes : Escapes own known type (field :: rest) ↔
          type.isFieldless = false ∧ ¬IsColumnPath own type (field :: rest) := by
        simp [Escapes, hk]
      rw [hk, Option.map_none] at hlookup
      rw [fieldType_of_not_known hlookup, hescapes]
      cases hfieldless : type.isFieldless with
      | true => exact ⟨.inr ⟨type.text, field, rfl⟩, by simp [bind, Except.bind]⟩
      | false =>
        have hlast : fieldsType scope source path .unknown rest = .ok .unknown :=
          fieldsType_unknown ((hknown .unknown).trans (by rw [hunknown, Option.map_none])) hrest
        simp [bind, Except.bind, hlast]

/-- A path that begins with a variable of a type and goes on with fields. -/
structure Begins (scope : Scope) (r : Reading) (path : List Char) (origin : ParamSource)
    (type : GoType) (fields : List String) : Prop where
  /-- No part is empty, and the first one is the variable. -/
  parts : ∃ root, (Text.splitOn '.' path).map String.ofList = root :: fields ∧ root ≠ "" ∧
    root ≠ "_" ∧ rootType? scope r root = some (origin, type)
  fields : ∀ f ∈ fields, f ≠ ""

variable {r : Reading} {path : List Char} {origin : ParamSource} {type : GoType}
  {fields : List String}

/-- A path resolves to the type at its end. -/
theorem Begins.resolve_eq (h : Begins scope r path origin type fields) :
    resolve scope source r path =
      (fieldsType scope source (.ofList path) type fields).map (⟨.ofList path, origin, ·⟩) := by
  obtain ⟨root, hparts, hempty, hblank, htype⟩ := h.parts
  unfold resolve
  simp only [hparts, if_neg (not_or.2 ⟨hempty, hblank⟩), htype]
  cases fieldsType scope source (.ofList path) type fields <;> rfl

/-- The fields of a path are checked: it resolves only if they are columns, and otherwise names an
unknown field. -/
def ChecksFields (own : GoType → Option StructDecl) (scope : Scope) (source : String) (r : Reading)
    (path : List Char) (type : GoType) (fields : List String) : Prop :=
  ((∃ ref, resolve scope source r path = .ok ref) → IsColumnPath own type fields) ∧
    (¬IsColumnPath own type fields →
      ∃ owner field, resolve scope source r path = .error (.unknownField owner field source))

/-- A path through the structs of a run resolves or names an unknown field. Its fields are checked
exactly if it does not escape. -/
theorem checksFields_iff (c : Config) (catalog : Catalog) (read : FileReader) (file : GoFile) :
    ∃ choice, file.Chooses choice ∧
      ∀ (scope : Scope) (source : String) (r : Reading) (path : List Char) (origin : ParamSource)
        (type : GoType) (fields : List String),
        scope.structs = c.structsOf (some file) (c.planFrom catalog read (some file)) →
        Begins scope r path origin type fields →
        ((∃ ref, resolve scope source r path = .ok ref) ∨
          ∃ owner field, resolve scope source r path = .error (.unknownField owner field source)) ∧
        (ChecksFields (GoType.ownStruct? c.modelPackage choice) scope source r path type fields ↔
          ¬Escapes (GoType.ownStruct? c.modelPackage choice)
            (GoType.knownStruct? c.modelPackage choice) type fields) := by
  obtain ⟨choice, hchoice, hlookup⟩ := c.lookup_structsOf catalog file
  refine ⟨choice, hchoice, fun scope source r path origin type fields hstructs hbegins => ?_⟩
  have hknown : ∀ type, scope.structs.lookup type =
      (type.knownStruct? c.modelPackage choice).map StructDecl.shape := by
    rw [hstructs, Config.structsOf_planFrom]
    exact hlookup
  obtain ⟨hends, hescapes⟩ := fieldsType_spec hknown rfl GoType.ownStruct?_of_knownStruct? source
    (.ofList path) type hbegins.fields
  rw [ChecksFields, hbegins.resolve_eq, ← hescapes]
  rcases hends with ⟨last, hlast⟩ | ⟨owner, field, herror⟩
  · simp [hlast]
  · simp [herror]

end Template

namespace Homes

open Template (Scope)

def config : Config where
  modelImport := "example.com/app/model"

def catalog : Catalog := ⟨.ok [], fun _ => .ok []⟩

def noFiles : FileReader := fun _ => .error ""

def user : StructDecl := ⟨"User", [⟨"Home", .simple "Address", none, false⟩]⟩

def address : StructDecl := ⟨"Address", [⟨"City", .simple "string", none, false⟩]⟩

/-- A user with an address, both declared in one file. -/
def file : GoFile where
  package := "model"
  structs := [user, address]

def scope : Scope where
  params := [⟨"user", .pointer (.qualified "model" "User"), false⟩]
  table := "users"
  structs := config.structsOf (some file) (config.planFrom catalog noFiles (some file))

theorem begins_city : Template.Begins scope {} "user.Home.City".toList .method
    (.pointer (.qualified "model" "User")) ["Home", "City"] :=
  ⟨⟨"user", by decide +kernel, by decide, by decide, by decide +kernel⟩, by decide⟩

theorem begins_bogus : Template.Begins scope {} "user.Home.Bogus".toList .method
    (.pointer (.qualified "model" "User")) ["Home", "Bogus"] :=
  ⟨⟨"user", by decide +kernel, by decide, by decide, by decide +kernel⟩, by decide⟩

/-- A path to the city is checked if it does not escape. -/
theorem checksFields_city :
    scope.structs = config.structsOf (some file) (config.planFrom catalog noFiles (some file)) ∧
    Template.Begins scope {} "user.Home.City".toList .method
      (.pointer (.qualified "model" "User")) ["Home", "City"] ∧
    ∃ choice, file.Chooses choice ∧
      (Template.ChecksFields (GoType.ownStruct? "model" choice) scope "" {}
          "user.Home.City".toList (.pointer (.qualified "model" "User")) ["Home", "City"] ↔
        ¬Escapes (GoType.ownStruct? "model" choice) (GoType.knownStruct? "model" choice)
          (.pointer (.qualified "model" "User")) ["Home", "City"]) := by
  obtain ⟨choice, hchoice, h⟩ := Template.checksFields_iff config catalog noFiles file
  exact ⟨rfl, begins_city, choice, hchoice, (h scope "" {} _ _ _ _ rfl begins_city).2⟩

/-- An address has no field `Bogus`, but a path to it resolves. -/
theorem bogus_passes :
    Template.Begins scope {} "user.Home.Bogus".toList .method
      (.pointer (.qualified "model" "User")) ["Home", "Bogus"] ∧
    ∀ choice, file.Chooses choice →
      ¬Template.ChecksFields (GoType.ownStruct? "model" choice) scope "" {}
        "user.Home.Bogus".toList (.pointer (.qualified "model" "User")) ["Home", "Bogus"] := by
  refine ⟨begins_bogus, fun choice hchoice hchecks => ?_⟩
  have hresolve : Template.resolve scope "" {} "user.Home.Bogus".toList =
      .ok ⟨"user.Home.Bogus", .method, .unknown⟩ := by decide +kernel
  have hchosen : ∀ d ∈ file.structs, choice d.name = some d := by
    intro d hd
    obtain ⟨other, hother⟩ := Option.isSome_iff_exists.1 (hchoice.all hd)
    obtain ⟨hmem, hname⟩ := hchoice.declared hother
    have hunique : ∀ a ∈ file.structs, ∀ b ∈ file.structs, a.name = b.name → a = b := by decide
    rw [hother, hunique other hmem d hd hname]
  obtain ⟨next, hnext, hpath⟩ := hchecks.1 ⟨_, hresolve⟩ user (hchosen user (by simp [file]))
  have hhome : user.columnType? "Home" = some (.simple "Address") := by decide +kernel
  cases hhome.symm.trans hnext
  obtain ⟨last, hlast, -⟩ := hpath address (hchosen address (by simp [file]))
  have hbogus : address.columnType? "Bogus" = none := by decide +kernel
  rw [hbogus] at hlast
  cases hlast

end Homes

end QueryGen
