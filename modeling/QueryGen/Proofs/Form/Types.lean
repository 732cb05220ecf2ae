import QueryGen.Form.Section
import QueryGen.Proofs.Form.Records

/-!
# Types and sections as JSON and back

- `GoType.read_of_depth_le`: levels beyond those of a value change nothing.
- `GoType.ofNested?_toJson`, `Section.ofJson?_toJson`: what was written is read back.
- `GoType.tolerates_ofNested?`, `ForRange.tolerates_ofNested?`, `Section.tolerates_ofJson?`: fields
  that make no difference, unknown ones and those that hold what stands for a missing one.
-/

namespace QueryGen

open Json (str)

namespace GoType

theorem read_eq_of_depth_le {n m : Nat} {nested : Bool} {t : Json} (hn : t.depth ≤ n)
    (hm : t.depth ≤ m) : read n nested t = read m nested t := by
  induction n generalizing m nested t with
  | zero => exact absurd hn (Nat.not_le.2 t.depth_pos)
  | succ n ih =>
    cases m with
    | zero => exact absurd hm (Nat.not_le.2 t.depth_pos)
    | succ m =>
      simp only [read]
      refine Option.bind_congr fun ⟨kind, u⟩ hu => ?_
      have hdepth := Json.depth_of_tagged? hu
      have hread : ∀ {names f}, u.fields? names = some f → ∀ name,
          f.required name (read n true) = f.required name (read m true) := by
        intro names f hf name
        refine Fields.required_congr (n := u.depth - 1) (Tree.within_of_fields? hf (by omega))
          (fun v hv => ih ?_ ?_) name
        · omega
        · omega
      simp only
      split
      · rfl
      · refine Option.bind_congr fun f hf => ?_
        rw [hread hf]
      · refine Option.bind_congr fun f hf => ?_
        rw [hread hf]
      · refine Option.bind_congr fun f hf => ?_
        rw [hread hf]
      · refine Option.bind_congr fun f hf => ?_
        rw [hread hf, hread hf]
      · rfl
      · rfl
      · rfl
      · rfl

/-- More levels than a value has change nothing. -/
theorem read_of_depth_le {n : Nat} {nested : Bool} {t : Json} (h : t.depth ≤ n) :
    read n nested t = ofNested? nested t :=
  read_eq_of_depth_le h (Nat.le_refl _)

theorem read_field (name : String) {ty : GoType} {fields : List (String × Json)}
    (ih : ∀ nested, ofNested? nested ty.toJson = some ty) (h : (name, ty.toJson) ∈ fields) :
    read (Tree.depthFields fields) true ty.toJson = some ty := by
  rw [read_of_depth_le (Tree.depth_le_depthFields name h), ih]

/-- A type that was written is read back. -/
theorem ofNested?_toJson (ty : GoType) (nested : Bool) : ofNested? nested ty.toJson = some ty := by
  induction ty generalizing nested <;>
    rw [ofNested?, toJson, Tree.depth, read, Json.tagged?_written (by simp)]
  case named package name => simp [Tree.fields?_written]
  case pointer elem ih => simp [Tree.fields?_written, read_field "elem" ih]
  case slice elem ih => simp [Tree.fields?_written, read_field "elem" ih]
  case array len elem ih => simp [Tree.fields?_written, read_field "elem" ih]
  case map key value ihk ihv =>
    simp [Tree.fields?_written, read_field "key" ihk,
      read_field "value" ihv]
  case interface text => simp [Tree.fields?_written]
  case verbatim text => simp [Tree.fields?_written]
  case unknown => rfl

@[simp] theorem ofJson?_toJson (ty : GoType) : ofJson? ty.toJson = some ty :=
  ofNested?_toJson ty false

/-! ## Fields that make no difference -/

/-- The fields that some form of types knows. -/
def fieldNames : List String := ["kind", "package", "name", "elem", "len", "key", "value", "text"]

theorem dropsUnknown_read (n : Nat) (nested : Bool) :
    Json.DropsUnknown fieldNames (read n nested) := by
  intro name hname before after t
  simp only [fieldNames, List.mem_cons, List.not_mem_nil, or_false, not_or] at hname
  obtain _ | n := n
  · rfl
  obtain ⟨b, a, -, hwith, hwithout⟩ := Json.tagged?_beside nested forms hname.1 before after t
  rw [read, read, hwith, hwithout]
  cases Json.tagForm? nested forms "kind" (before ++ after) with
  | none => rfl
  | some kind =>
    simp only [Option.map_some, Option.bind_eq_bind, Option.bind_some]
    split <;> simp [Tree.fields?_unknown, hname, Json.hasNoItems]

/-- A name without a package need not say so. -/
theorem mayMiss_read (n : Nat) (nested : Bool) :
    Json.MayMiss "package" Json.null (read n nested) := by
  intro before after hfresh
  obtain _ | n := n
  · rfl
  have hbeside : "package" ≠ "kind" := by simp
  obtain ⟨b, a, hsub, hwith, hwithout⟩ :=
    Json.tagged?_beside nested forms hbeside before after Json.null
  rw [read, read, hwith, hwithout]
  cases Json.tagForm? nested forms "kind" (before ++ after) with
  | none => rfl
  | some kind =>
    simp only [Option.map_some, Option.bind_eq_bind, Option.bind_some]
    have hfresh' : "package" ∉ (b ++ a).map Prod.fst := fun h =>
      hfresh (List.map_subset _ hsub h)
    have hknown : "package" ∈ ["package", "name"] := by simp
    split
    · rcases Tree.fields?_fresh Json.null hknown hfresh' with ⟨hf, hg⟩ | ⟨f, g, hf, hg, hd⟩
      · rw [hf, hg]
      · simp [hf, hg, hd.optional_eq rfl, hd.required_eq]
    all_goals simp [Tree.fields?_unknown, Json.hasNoItems]

theorem tolerates_ofNested? (nested : Bool) :
    Json.Tolerates fieldNames [("package", Json.null)] (ofNested? nested) :=
  .of_levels (fun _ _ h => read_of_depth_le h) fun n =>
    ⟨dropsUnknown_read n nested, by simpa using mayMiss_read n nested⟩

end GoType

/-! ## References and loops -/

@[simp] theorem ParamSource.ofName?_name (s : ParamSource) : ofName? s.name = some s := by
  cases s <;> rfl

@[simp] theorem ParamRef.ofJson?_toJson (p : ParamRef) : ofJson? p.toJson = some p := by
  simp [ofJson?, toJson, Tree.fields?_written]

theorem ParamRef.tolerates_ofJson? : Json.Tolerates ["path", "source", "ty"] [] ofJson? where
  unknown name hname before after t := by simp only [ofJson?, Tree.fields?_unknown hname]
  missing := by simp

@[simp] theorem ForRange.ofNested?_toJson (r : ForRange) (nested : Bool) :
    ofNested? nested r.toJson = some r := by
  simp [ofNested?, toJson, Tree.fields?_written, GoType.ofNested?_toJson]

@[simp] theorem ForRange.ofJson?_toJson (r : ForRange) : ofJson? r.toJson = some r :=
  ofNested?_toJson r false

/-- A loop over a value of unknown type need not say so. -/
theorem ForRange.mayMiss_ofNested? (nested : Bool) :
    Json.MayMiss "range_ty" GoType.unknown.toJson (ofNested? nested) := by
  intro before after hfresh
  have hknown : "range_ty" ∈ ["index", "value", "range", "range_ty"] := by simp
  rcases Tree.fields?_fresh GoType.unknown.toJson hknown hfresh
    with ⟨hf, hg⟩ | ⟨f, g, hf, hg, hd⟩
  · simp [ofNested?, hf, hg]
  · simp [ofNested?, hf, hg, hd.required_eq, Fields.withDefault, hd.found, hd.missing,
      GoType.ofNested?_toJson]

theorem ForRange.tolerates_ofNested? (nested : Bool) :
    Json.Tolerates ["index", "value", "range", "range_ty"] [("range_ty", GoType.unknown.toJson)]
      (ofNested? nested) where
  unknown name hname before after t := by simp only [ofNested?, Tree.fields?_unknown hname]
  missing := by simpa using mayMiss_ofNested? nested

/-! ## Sections -/

namespace Section

@[simp] theorem ofJson?_toJson (s : Section) : ofJson? s.toJson = some s := by
  cases s with
  | literal text => simp [ofJson?, toJson, content?, SectionKind.name, kind, Json.adjacent?_written]
  | data ref => simp [ofJson?, toJson, content?, SectionKind.name, kind, Json.adjacent?_written]
  | quoted ref => simp [ofJson?, toJson, content?, SectionKind.name, kind, Json.adjacent?_written]
  | branch cond => simp [ofJson?, toJson, content?, SectionKind.name, kind, Json.adjacent?_written]
  | otherwise cond =>
    simp [ofJson?, toJson, content?, SectionKind.name, kind, Json.adjacent?_written]
  | loop range => simp [ofJson?, toJson, content?, SectionKind.name, kind, Json.adjacent?_written]
  | join k =>
    cases k <;>
      simp [ofJson?, toJson, content?, SectionKind.name, kind, Json.adjacent?_bare, unit,
        Json.isUnit]
  | close =>
    simp [ofJson?, toJson, content?, SectionKind.name, kind, Json.adjacent?_bare, unit, Json.isUnit]

/-- Nothing stands for null in the place of the contents, whatever the kind. -/
theorem mayMiss_ofJson? : Json.MayMiss "value" Json.null ofJson? := by
  intro before after hfresh
  have hknown : "value" ∈ ["kind", "value"] := by simp
  have hother : "kind" ≠ "value" := by simp
  rcases Tree.fields?_fresh Json.null hknown hfresh with ⟨hf, hg⟩ | ⟨f, g, hf, hg, hd⟩
  · simp [ofJson?, Json.adjacent?, hf, hg]
  · simp only [ofJson?, Json.adjacent?, hf, hg, hd.found, hd.missing, hd.positional,
      hd.positional', hd.required_eq hother, Option.bind_eq_bind,
      Option.bind_some, Bool.false_eq_true, if_false]
    cases g.required "kind" (Json.unitName? false) with
    | none => rfl
    | some kind =>
      simp only [Option.bind_some, Option.pure_def]
      split <;> rfl

theorem tolerates_ofJson? :
    Json.Tolerates ["kind", "value"] [("value", Json.null)] ofJson? where
  unknown name hname before after t := by
    simp only [ofJson?, Json.adjacent?, Tree.fields?_unknown hname]
  missing := by simpa using mayMiss_ofJson?

end Section

end QueryGen
