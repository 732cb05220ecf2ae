import QueryGen.Method.Basic

/-!
# Placeholders in types

Signatures name the model and the map of a row by placeholders, types of a package of their own.
Before code is generated every placeholder gives way to what it stands for.

- `GoType.Reaches`, `GoType.Names`: the types inside a type, and the packages that they are from.
- `GoType.mem_packages`: the packages of a type are those of the named types inside it.
- `MethodContext.Replaced`: two types that differ in the placeholders alone. `replaced_iff` says
  that substitution makes the one from the other.
- `MethodContext.resolve_replaces`: a type resolves unless another type of the package of
  placeholders is left.
-/

namespace QueryGen

namespace GoType

/-! ## Types inside a type -/

/-- A type is found inside another one through pointers, slices, arrays and maps. -/
inductive Reaches : GoType → GoType → Prop where
  | refl (t : GoType) : Reaches t t
  | pointer {elem t : GoType} (h : Reaches elem t) : Reaches (.pointer elem) t
  | slice {elem t : GoType} (h : Reaches elem t) : Reaches (.slice elem) t
  | array {len : String} {elem t : GoType} (h : Reaches elem t) : Reaches (.array len elem) t
  | key {key value t : GoType} (h : Reaches key t) : Reaches (.map key value) t
  | value {key value t : GoType} (h : Reaches value t) : Reaches (.map key value) t

/-- A named type of the package is found inside the type. -/
def Names (package : String) (t : GoType) : Prop := ∃ name, t.Reaches (.qualified package name)

section Inside

variable {package : String}

theorem names_named {qualifier : Option String} {name : String} :
    (named qualifier name).Names package ↔ qualifier = some package := by
  constructor
  · rintro ⟨_, h⟩
    cases h
    rfl
  · rintro rfl
    exact ⟨name, .refl _⟩

theorem names_pointer {elem : GoType} : (pointer elem).Names package ↔ elem.Names package := by
  constructor
  · rintro ⟨name, h⟩
    cases h with
    | pointer h => exact ⟨name, h⟩
  · rintro ⟨name, h⟩
    exact ⟨name, .pointer h⟩

theorem names_slice {elem : GoType} : (slice elem).Names package ↔ elem.Names package := by
  constructor
  · rintro ⟨name, h⟩
    cases h with
    | slice h => exact ⟨name, h⟩
  · rintro ⟨name, h⟩
    exact ⟨name, .slice h⟩

theorem names_array {len : String} {elem : GoType} :
    (array len elem).Names package ↔ elem.Names package := by
  constructor
  · rintro ⟨name, h⟩
    cases h with
    | array h => exact ⟨name, h⟩
  · rintro ⟨name, h⟩
    exact ⟨name, .array h⟩

theorem names_map {key value : GoType} :
    (map key value).Names package ↔ key.Names package ∨ value.Names package := by
  constructor
  · rintro ⟨name, h⟩
    cases h with
    | key h => exact .inl ⟨name, h⟩
    | value h => exact .inr ⟨name, h⟩
  · rintro (⟨name, h⟩ | ⟨name, h⟩)
    · exact ⟨name, .key h⟩
    · exact ⟨name, .value h⟩

/-- A type that is kept as it is written has no types inside it. -/
theorem not_names_text (text : String) :
    ¬(interface text).Names package ∧ ¬(verbatim text).Names package := by
  constructor <;>
  · rintro ⟨_, h⟩
    cases h

theorem not_names_unknown : ¬unknown.Names package := by
  rintro ⟨_, h⟩
  cases h

end Inside

/-- The qualifiers in a type are the packages of the named types inside it. -/
theorem mem_qualifiers {package : String} {t : GoType} :
    package ∈ t.qualifiers ↔ t.Names package := by
  induction t with
  | named qualifier name =>
    rw [names_named]
    cases qualifier <;> simp [qualifiers, eq_comm]
  | pointer elem ih => rw [qualifiers, names_pointer, ih]
  | slice elem ih => rw [qualifiers, names_slice, ih]
  | array len elem ih => rw [qualifiers, names_array, ih]
  | map key value ihKey ihValue =>
    rw [qualifiers, List.mem_append, names_map, ihKey, ihValue]
  | interface text => simp [qualifiers, not_names_text]
  | verbatim text => simp [qualifiers, not_names_text]
  | unknown => simp [qualifiers, not_names_unknown]

theorem mem_packages {package : String} {t : GoType} : package ∈ t.packages ↔ t.Names package := by
  rw [packages, mem_distinct, mem_qualifiers]

end GoType

namespace MethodContext

/-! ## Replacement -/

/-- What a placeholder stands for. -/
inductive StandsFor (ctx : MethodContext) : GoType → GoType → Prop where
  | model : StandsFor ctx (.qualified ctx.placeholders "T") ctx.model
  | row : StandsFor ctx (.qualified ctx.placeholders "M") .stringMap

/-- The second type has what the placeholders stand for where the first has placeholders, and is
like it everywhere else. -/
inductive Replaced (ctx : MethodContext) : GoType → GoType → Prop where
  | placeholder {t r : GoType} (h : ctx.StandsFor t r) : Replaced ctx t r
  | named {package : Option String} {name : String}
      (h : ∀ r, ¬ctx.StandsFor (.named package name) r) :
      Replaced ctx (.named package name) (.named package name)
  | pointer {elem r : GoType} (h : Replaced ctx elem r) : Replaced ctx (.pointer elem) (.pointer r)
  | slice {elem r : GoType} (h : Replaced ctx elem r) : Replaced ctx (.slice elem) (.slice r)
  | array {len : String} {elem r : GoType} (h : Replaced ctx elem r) :
      Replaced ctx (.array len elem) (.array len r)
  | map {key value k v : GoType} (hkey : Replaced ctx key k) (hvalue : Replaced ctx value v) :
      Replaced ctx (.map key value) (.map k v)
  | interface (text : String) : Replaced ctx (.interface text) (.interface text)
  | verbatim (text : String) : Replaced ctx (.verbatim text) (.verbatim text)
  | unknown : Replaced ctx .unknown .unknown

variable {ctx : MethodContext}

theorem placeholder?_eq_some_iff {t r : GoType} :
    ctx.placeholder? t = some r ↔ ctx.StandsFor t r := by
  unfold placeholder? GoType.isQualified
  constructor
  · intro h
    split at h
    · next hmodel =>
      cases eq_of_beq hmodel
      cases h
      exact .model
    · split at h
      · next hrow =>
        cases eq_of_beq hrow
        cases h
        exact .row
      · cases h
  · intro h
    cases h <;> simp

theorem placeholder?_eq_none_iff {t : GoType} :
    ctx.placeholder? t = none ↔ ∀ r, ¬ctx.StandsFor t r := by
  simp only [Option.eq_none_iff_forall_ne_some, ne_eq, placeholder?_eq_some_iff]

/-- A name is replaced if it is a placeholder. -/
theorem substitute_named (package : Option String) (name : String) :
    (GoType.named package name).substitute ctx.placeholder? =
      (ctx.placeholder? (.named package name)).getD (.named package name) := by
  rw [GoType.substitute.eq_def]
  cases ctx.placeholder? (.named package name) <;> rfl

/-- Substitution replaces the placeholders at every depth. Only names can be placeholders, so it
goes into all other types. -/
theorem replaced_substitute (ctx : MethodContext) (t : GoType) :
    ctx.Replaced t (t.substitute ctx.placeholder?) := by
  induction t with
  | named package name =>
    rw [substitute_named]
    cases hp : ctx.placeholder? (.named package name) with
    | some r => exact .placeholder (placeholder?_eq_some_iff.1 hp)
    | none => exact .named (placeholder?_eq_none_iff.1 hp)
  | pointer elem ih => exact .pointer ih
  | slice elem ih => exact .slice ih
  | array len elem ih => exact .array ih
  | map key value ihKey ihValue => exact .map ihKey ihValue
  | interface text => exact .interface text
  | verbatim text => exact .verbatim text
  | unknown => exact .unknown

/-- There is one way to replace the placeholders of a type. -/
theorem Replaced.eq_substitute {t r : GoType} (h : ctx.Replaced t r) :
    r = t.substitute ctx.placeholder? := by
  induction h with
  | placeholder h => rw [GoType.substitute.eq_def, placeholder?_eq_some_iff.2 h]
  | named h =>
    rw [substitute_named, placeholder?_eq_none_iff.2 h]
    rfl
  | pointer _ ih => exact congrArg GoType.pointer ih
  | slice _ ih => exact congrArg GoType.slice ih
  | array _ ih => exact congrArg (GoType.array _) ih
  | map _ _ ihKey ihValue =>
    rw [ihKey, ihValue]
    rfl
  | interface text | verbatim text | unknown => rfl

theorem replaced_iff {t r : GoType} : ctx.Replaced t r ↔ r = t.substitute ctx.placeholder? :=
  ⟨Replaced.eq_substitute, fun h => h ▸ ctx.replaced_substitute t⟩

/-! ## Resolved types -/

theorem Replaced.resolve_of_names {t r : GoType} (hr : ctx.Replaced t r)
    (h : r.Names ctx.placeholders) :
    ctx.resolve t = .error (.placeholderType ctx.placeholders r.text) := by
  rw [hr.eq_substitute] at h ⊢
  rw [resolve, if_pos (List.contains_iff_mem.2 (GoType.mem_packages.2 h))]

theorem Replaced.resolve_of_not_names {t r : GoType} (hr : ctx.Replaced t r)
    (h : ¬r.Names ctx.placeholders) : ctx.resolve t = .ok r := by
  rw [hr.eq_substitute] at h ⊢
  exact if_neg fun hc => h (GoType.mem_packages.1 (List.contains_iff_mem.1 hc))

theorem resolve_eq_ok_iff {t r : GoType} :
    ctx.resolve t = .ok r ↔ ctx.Replaced t r ∧ ¬r.Names ctx.placeholders := by
  constructor
  · intro h
    have hr := ctx.replaced_substitute t
    by_cases hnames : (t.substitute ctx.placeholder?).Names ctx.placeholders
    · rw [hr.resolve_of_names hnames] at h
      cases h
    · rw [hr.resolve_of_not_names hnames] at h
      cases h
      exact ⟨hr, hnames⟩
  · exact fun ⟨hr, hnames⟩ => hr.resolve_of_not_names hnames

theorem resolve_eq_error_iff {t : GoType} {e : MethodError} :
    ctx.resolve t = .error e ↔ ∃ r, ctx.Replaced t r ∧ r.Names ctx.placeholders ∧
      e = .placeholderType ctx.placeholders r.text := by
  constructor
  · intro h
    have hr := ctx.replaced_substitute t
    by_cases hnames : (t.substitute ctx.placeholder?).Names ctx.placeholders
    · rw [hr.resolve_of_names hnames] at h
      cases h
      exact ⟨_, hr, hnames, rfl⟩
    · rw [hr.resolve_of_not_names hnames] at h
      cases h
  · rintro ⟨r, hr, hnames, rfl⟩
    exact hr.resolve_of_names hnames

/-- In every type the placeholders can be replaced in one way. The type resolves to what comes out,
and fails if that still names the package of placeholders. The packages of the result are those of
the named types inside it, each once. -/
theorem resolve_replaces (ctx : MethodContext) (type : GoType) :
    ∃ replaced, (∀ r, ctx.Replaced type r ↔ r = replaced) ∧
      ((∃ e, ctx.resolve type = .error e) ↔ replaced.Names ctx.placeholders) ∧
      (∀ r, ctx.resolve type = .ok r ↔ r = replaced ∧ ¬replaced.Names ctx.placeholders) ∧
      replaced.packages.Nodup ∧
      ∀ package, package ∈ replaced.packages ↔ replaced.Names package := by
  refine ⟨type.substitute ctx.placeholder?, fun r => replaced_iff, ?fails, fun r => ?succeeds,
    nodup_distinct _, fun package => GoType.mem_packages⟩
  case fails =>
    simp only [resolve_eq_error_iff, replaced_iff, exists_eq_left, exists_and_left, exists_eq,
      and_true]
  case succeeds =>
    rw [resolve_eq_ok_iff, replaced_iff]
    exact and_congr_right fun hr => by rw [hr]

end MethodContext

end QueryGen
