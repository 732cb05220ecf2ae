import Mathlib.Data.List.Nodup
import QueryGen.Data.Json

/-!
# Records with known fields

What a reader finds in a record depends on the fields that it knows.

- `Fields.Within`: the values of fields have fewer levels than their record, so readers that agree
  on values of few levels find the same (`Fields.required_congr`, `Tree.listOf_congr`).
- `Tree.fields?_written`, `Json.tagged?_written`, `Json.adjacent?_written`: records as they are
  written.
- `Json.Tolerates`: a field that the reader does not know makes no difference, and one that holds
  what stands for a missing field makes none either.
- `Json.Lossless`: values are read back from what was written for them.
-/

namespace QueryGen

variable {σ α β : Type}

/-! ## Levels -/

namespace Tree

theorem depth_pos (t : Tree σ) : 0 < t.depth := by
  cases t <;> simp [depth]

theorem depth_le_depthAll {t : Tree σ} {items : List (Tree σ)} (h : t ∈ items) :
    t.depth ≤ depthAll items := by
  induction items with
  | nil => simp at h
  | cons u rest ih =>
    rcases List.mem_cons.1 h with rfl | h
    · exact Nat.le_max_left _ _
    · exact Nat.le_trans (ih h) (Nat.le_max_right _ _)

theorem depth_le_depthFields (name : String) {t : Tree σ} {fields : List (String × Tree σ)}
    (h : (name, t) ∈ fields) : t.depth ≤ depthFields fields := by
  induction fields with
  | nil => simp at h
  | cons f rest ih =>
    rcases List.mem_cons.1 h with rfl | h
    · exact Nat.le_max_left _ _
    · exact Nat.le_trans (ih h) (Nat.le_max_right _ _)

theorem depthAll_le_depthFields (name : String) {items : List (Tree σ)}
    {fields : List (String × Tree σ)} (h : (name, list items) ∈ fields) :
    depthAll items ≤ depthFields fields :=
  Nat.le_trans (Nat.le_succ _) (depth_le_depthFields name h)

theorem depthFields_le_of_subset {a b : List (String × Tree σ)} (h : a ⊆ b) :
    depthFields a ≤ depthFields b := by
  induction a with
  | nil => exact Nat.zero_le _
  | cons f rest ih =>
    exact Nat.max_le.2 ⟨depth_le_depthFields _ (h List.mem_cons_self),
      ih fun x hx => h (List.mem_cons_of_mem _ hx)⟩

end Tree

/-- All values have at most `n` levels. -/
def Fields.Within (n : Nat) (f : Fields σ) : Prop :=
  ∀ name t, f.find? name = some t → t.depth ≤ n

theorem mem_of_lookup {name : String} {t : Tree σ} {entries : List (String × Tree σ)}
    (h : entries.lookup name = some t) : (name, t) ∈ entries := by
  obtain ⟨a, b, rfl, -⟩ := List.lookup_eq_some_iff.1 h
  simp

theorem lookup_eq_none {name : String} {entries : List (String × Tree σ)}
    (h : name ∉ entries.map Prod.fst) : entries.lookup name = none :=
  List.lookup_eq_none_iff.2 fun p hp => by
    have hne : name ≠ p.1 := fun he => h (he ▸ List.mem_map_of_mem hp)
    simpa using hne

theorem Tree.within_of_fields? [Scalar σ] {names : List String} {t : Tree σ} {f : Fields σ}
    {n : Nat} (h : t.fields? names = some f) (hn : t.depth ≤ n + 1) : f.Within n := by
  intro name u hu
  have hmem := mem_of_lookup hu
  cases t with
  | scalar s =>
    simp only [fields?, Option.ite_none_right_eq_some, Option.some.injEq] at h
    obtain ⟨-, rfl⟩ := h
    simp at hmem
  | list items =>
    simp only [fields?, Option.ite_none_right_eq_some, Option.some.injEq] at h
    obtain ⟨-, rfl⟩ := h
    have := depth_le_depthAll (List.of_mem_zip hmem).2
    simp only [depth] at hn
    omega
  | record fields =>
    simp only [fields?, Option.ite_none_right_eq_some, Option.some.injEq] at h
    obtain ⟨-, rfl⟩ := h
    have := depth_le_depthFields name (List.mem_filter.1 hmem).1
    simp only [depth] at hn
    omega

/-! ## Readers that agree on values of few levels -/

section Agree

variable {n : Nat} {r r' : Tree σ → Option α}

theorem mapM_congr {items : List (Tree σ)} (h : ∀ u ∈ items, r u = r' u) :
    items.mapM r = items.mapM r' := by
  induction items with
  | nil => rfl
  | cons u rest ih =>
    rw [List.mapM_cons, List.mapM_cons, h u List.mem_cons_self,
      ih fun v hv => h v (List.mem_cons_of_mem _ hv)]

theorem Tree.listOf_congr [Scalar σ] {t : Tree σ} (ht : t.depth ≤ n)
    (h : ∀ u : Tree σ, u.depth ≤ n → r u = r' u) : t.listOf r = t.listOf r' := by
  cases t with
  | scalar s => cases hs : Scalar.isVoid s <;> simp [listOf, items?, hs]
  | record fields => rfl
  | list items =>
    simp only [depth] at ht
    refine mapM_congr fun u hu => h u ?_
    have := depth_le_depthAll hu
    omega

variable {f : Fields σ}

theorem Fields.required_congr (hf : f.Within n) (h : ∀ u : Tree σ, u.depth ≤ n → r u = r' u)
    (name : String) : f.required name r = f.required name r' := by
  unfold required
  cases hu : f.find? name with
  | none => rfl
  | some u => exact h u (hf name u hu)

theorem Fields.optional_congr [Scalar σ] (hf : f.Within n)
    (h : ∀ u : Tree σ, u.depth ≤ n → r u = r' u) (name : String) :
    f.optional name r = f.optional name r' := by
  unfold optional
  cases hu : f.find? name with
  | none => rfl
  | some u => simp only [Tree.orNull, h u (hf name u hu)]

end Agree

/-! ## Records as they are written -/

/-- A record of all known fields is read field by field. -/
theorem Tree.fields?_written [Scalar σ] {names : List String} {fields : List (String × Tree σ)}
    (hn : fields.map Prod.fst = names) (hd : names.Nodup) :
    (record fields).fields? names = some ⟨fields, false⟩ := by
  subst hn
  have hall : fields.filter ((fields.map Prod.fst).contains ·.1) = fields :=
    List.filter_eq_self.2 fun p hp => List.contains_iff_mem.2 (List.mem_map_of_mem hp)
  rw [fields?, hall, if_pos hd]

namespace Fields

variable {rest : List (String × Tree σ)} {positional : Bool}

@[simp] theorem required_cons (name other : String) (t : Tree σ) (r : Tree σ → Option α) :
    required ⟨(other, t) :: rest, positional⟩ name r =
      if name = other then r t else required ⟨rest, positional⟩ name r := by
  by_cases h : name = other
  · simp [required, find?, h]
  · simp [required, find?, h, List.lookup_cons, beq_false_of_ne h]

@[simp] theorem withDefault_cons (name other : String) (t : Tree σ) (default : α)
    (r : Tree σ → Option α) :
    withDefault ⟨(other, t) :: rest, positional⟩ name default r =
      if name = other then r t else withDefault ⟨rest, positional⟩ name default r := by
  by_cases h : name = other
  · simp [withDefault, find?, h]
  · simp [withDefault, find?, h, List.lookup_cons, beq_false_of_ne h]

@[simp] theorem optional_cons [Scalar σ] (name other : String) (t : Tree σ)
    (r : Tree σ → Option α) :
    optional ⟨(other, t) :: rest, positional⟩ name r =
      if name = other then t.orNull r else optional ⟨rest, positional⟩ name r := by
  by_cases h : name = other
  · simp [optional, find?, h]
  · simp [optional, find?, h, List.lookup_cons, beq_false_of_ne h]

end Fields

/-! ## Fields that make no difference -/

/-- Two views of a record: `f` sees a field that `g` does not. -/
structure Fields.Differ (f g : Fields σ) (name : String) (t : Tree σ) : Prop where
  positional : f.positional = false
  positional' : g.positional = false
  found : f.find? name = some t
  missing : g.find? name = none
  others : ∀ other, other ≠ name → f.find? other = g.find? other

theorem Fields.Differ.required_eq {f g : Fields σ} {name : String} {t : Tree σ}
    (h : f.Differ g name t) {other : String} (ho : other ≠ name) (r : Tree σ → Option α) :
    f.required other r = g.required other r := by
  rw [required, required, h.others other ho]

theorem Fields.Differ.optional_eq [Scalar σ] {f g : Fields σ} {name : String} {t : Tree σ}
    (h : f.Differ g name t) (hnull : t.isNull? = some true) (other : String)
    (r : Tree σ → Option α) : f.optional other r = g.optional other r := by
  by_cases ho : other = name
  · subst ho
    simp [optional, h.found, h.missing, h.positional', Tree.orNull, hnull]
  · simp only [optional, h.others other ho, h.positional, h.positional']

namespace Tree

variable [Scalar σ] {names : List String} {name : String} {t : Tree σ}
variable {before after : List (String × Tree σ)}

theorem fields?_unknown (h : name ∉ names) :
    (record (before ++ (name, t) :: after)).fields? names =
      (record (before ++ after)).fields? names := by
  simp [fields?, List.filter_append, h]

/-- A field that the reader knows, and that does not stand twice, is found or missed; nothing else
changes. -/
theorem fields?_fresh (t : Tree σ) (hn : name ∈ names)
    (hfresh : name ∉ (before ++ after).map Prod.fst) :
    ((record (before ++ (name, t) :: after)).fields? names = none ∧
      (record (before ++ after)).fields? names = none) ∨
    ∃ f g, (record (before ++ (name, t) :: after)).fields? names = some f ∧
      (record (before ++ after)).fields? names = some g ∧ f.Differ g name t := by
  have hfree : ∀ l : List (String × Tree σ), l ⊆ before ++ after →
      name ∉ (l.filter (names.contains ·.1)).map Prod.fst := by
    intro l hl h
    obtain ⟨p, hp, rfl⟩ := List.mem_map.1 h
    exact hfresh (List.mem_map_of_mem (hl (List.mem_filter.1 hp).1))
  have hb := hfree before (List.subset_append_left _ _)
  have ha := hfree after (List.subset_append_right _ _)
  simp only [fields?, List.filter_append, List.filter_cons, List.contains_iff_mem.2 hn, if_true,
    List.map_append, List.map_cons]
  generalize before.filter (names.contains ·.1) = b at hb
  generalize after.filter (names.contains ·.1) = a at ha
  have hnodup : (b.map Prod.fst ++ name :: a.map Prod.fst).Nodup ↔
      (b.map Prod.fst ++ a.map Prod.fst).Nodup := by
    rw [List.nodup_middle, List.nodup_cons]
    exact and_iff_right fun h => (List.mem_append.1 h).elim hb ha
  by_cases h : (b.map Prod.fst ++ a.map Prod.fst).Nodup
  case neg => exact .inl ⟨if_neg (mt hnodup.1 h), if_neg h⟩
  have hlb : b.lookup name = none := lookup_eq_none hb
  have hla : a.lookup name = none := lookup_eq_none ha
  refine .inr ⟨_, _, if_pos (hnodup.2 h), if_pos h, rfl, rfl, ?found, ?missing, ?others⟩
  case found => simp [Fields.find?, List.lookup_append, hlb]
  case missing => simp [Fields.find?, List.lookup_append, hlb, hla]
  case others =>
    intro other ho
    simp [Fields.find?, List.lookup_append, List.lookup_cons, beq_false_of_ne ho]

end Tree

/-! ## Values that name their form -/

namespace Json

variable {nested : Bool} {forms : List String} {tag content kind : String}

/-- The form that the field `tag` of a record names. -/
def tagForm? (nested : Bool) (forms : List String) (tag : String) (fields : List (String × Json)) :
    Option String :=
  match fields.filter (·.1 == tag) with
  | [(_, kind)] => formName? nested forms kind
  | _ => none

theorem tagged?_record (fields : List (String × Json)) :
    tagged? nested forms tag (.record fields) =
      (tagForm? nested forms tag fields).map (·, .record (fields.filter (·.1 != tag))) := by
  simp only [tagged?, tagForm?]
  generalize fields.filter (·.1 == tag) = tags
  match tags with
  | [] => rfl
  | [(_, kind)] =>
    cases hk : formName? nested forms kind with
    | none => simp [hk]
    | some form => simp [hk]
  | _ :: _ :: _ => rfl

theorem tagged?_written {rest : List (String × Json)} (h : ∀ f ∈ rest, f.1 ≠ tag) :
    tagged? nested forms tag (.record ((tag, str kind) :: rest)) = some (kind, .record rest) := by
  have hnone : rest.filter (·.1 == tag) = [] :=
    List.filter_eq_nil_iff.2 fun f hf => by simpa using h f hf
  have hall : rest.filter (·.1 != tag) = rest :=
    List.filter_eq_self.2 fun f hf => by simpa using h f hf
  simp [tagged?_record, tagForm?, hnone, hall, str, formName?]

theorem depth_of_tagged? {t u : Json} (h : tagged? nested forms tag t = some (kind, u)) :
    u.depth ≤ t.depth := by
  cases t with
  | scalar s => simp [tagged?] at h
  | list items =>
    cases items with
    | nil => simp [tagged?] at h
    | cons first rest =>
      simp only [tagged?, Option.bind_eq_bind, Option.bind_eq_some_iff, Option.pure_def,
        Option.some.injEq, Prod.mk.injEq] at h
      obtain ⟨_, -, -, rfl⟩ := h
      exact Nat.succ_le_succ (Nat.le_max_right _ _)
  | record fields =>
    rw [tagged?_record] at h
    obtain ⟨_, -, he⟩ := Option.map_eq_some_iff.1 h
    obtain ⟨-, rfl⟩ := Prod.mk.inj he
    exact Nat.succ_le_succ (Tree.depthFields_le_of_subset (List.filter_subset_self _))

theorem adjacent?_written (h : tag ≠ content) (inner : Json) :
    adjacent? nested forms tag content (.record [(tag, str kind), (content, inner)]) =
      some (kind, some inner) := by
  have hd : [tag, content].Nodup := by simp [h]
  rw [adjacent?, Tree.fields?_written (show _ = [tag, content] from rfl) hd]
  simp [unitName?, variant?, isUnit, str, Fields.find?, List.lookup_cons, beq_false_of_ne h.symm]

theorem adjacent?_bare (h : tag ≠ content) :
    adjacent? nested forms tag content (.record [(tag, str kind)]) = some (kind, none) := by
  simp [adjacent?, Tree.fields?, unitName?, variant?, isUnit, str, Fields.find?,
    List.lookup_cons, beq_false_of_ne h.symm]

/-- Fields that `read` does not know make no difference. -/
def DropsUnknown (known : List String) (read : Json → Option α) : Prop :=
  ∀ name ∉ known, ∀ before after t,
    read (.record (before ++ (name, t) :: after)) = read (.record (before ++ after))

/-- A field `name` that holds `t` may as well be missing. -/
def MayMiss (name : String) (t : Json) (read : Json → Option α) : Prop :=
  ∀ before after, name ∉ (before ++ after).map Prod.fst →
    read (.record (before ++ (name, t) :: after)) = read (.record (before ++ after))

/-- What a reader makes nothing of: fields with other names than those it knows, and fields that
hold what stands for a missing one. -/
structure Tolerates (known : List String) (missing : List (String × Json))
    (read : Json → Option α) : Prop where
  unknown : DropsUnknown known read
  missing : ∀ f ∈ missing, MayMiss f.1 f.2 read

/-- A reader that goes as many levels down as its value has makes nothing of what it makes nothing
of at any number of levels. -/
theorem Tolerates.of_levels {known : List String} {missing : List (String × Json)}
    {read : Nat → Json → Option α} {whole : Json → Option α}
    (hread : ∀ n t, t.depth ≤ n → read n t = whole t)
    (h : ∀ n, Tolerates known missing (read n)) : Tolerates known missing whole := by
  have hcongr : ∀ t u, (∀ n, read n t = read n u) → whole t = whole u := fun t u htu => by
    rw [← hread _ t (Nat.le_max_left t.depth u.depth), htu,
      hread _ u (Nat.le_max_right t.depth u.depth)]
  exact {
    unknown := fun name hname before after t =>
      hcongr _ _ fun n => (h n).unknown name hname before after t
    missing := fun f hf before after hfresh =>
      hcongr _ _ fun n => (h n).missing f hf before after hfresh }

/-- Values are read back from what was written for them, and a text that is read and written once
stays what it is from then on. -/
structure Lossless (read : Json → Option α) (form : α → Json) : Prop where
  read_form : ∀ a, read (form a) = some a
  settled : ∀ t t', (read t).map form = some t' → (read t').map form = some t'

theorem Lossless.of_read_form {read : Json → Option α} {form : α → Json}
    (h : ∀ a, read (form a) = some a) : Lossless read form where
  read_form := h
  settled t t' ht := by
    obtain ⟨a, -, rfl⟩ := Option.map_eq_some_iff.1 ht
    rw [h a, Option.map_some]

/-- A field beside the name of a form is one of the fields of the form. -/
theorem tagged?_beside (nested : Bool) (forms : List String) {name : String} (h : name ≠ tag)
    (before after : List (String × Json)) (t : Json) :
    ∃ b a : List (String × Json), b ++ a ⊆ before ++ after ∧
      tagged? nested forms tag (.record (before ++ (name, t) :: after)) =
        (tagForm? nested forms tag (before ++ after)).map (·, .record (b ++ (name, t) :: a)) ∧
      tagged? nested forms tag (.record (before ++ after)) =
        (tagForm? nested forms tag (before ++ after)).map (·, .record (b ++ a)) := by
  refine ⟨before.filter (·.1 != tag), after.filter (·.1 != tag), ?_, ?_, ?_⟩
  · rw [← List.filter_append]
    exact List.filter_subset_self _
  · rw [tagged?_record]
    simp [tagForm?, List.filter_append, h]
  · rw [tagged?_record, List.filter_append]

/-! ## Scalars and lists as they are written -/

@[simp] theorem isNull?_str (s : String) : (str s).isNull? = some false := rfl

@[simp] theorem isNull?_record (fields : List (String × Json)) :
    (Tree.record fields : Json).isNull? = some false := rfl

@[simp] theorem isNull?_null : null.isNull? = some true := rfl

theorem orNull_ofOption {form : α → Json} {read : Json → Option α}
    (hnull : ∀ a, (form a).isNull? = some false) (h : ∀ a, read (form a) = some a) (o : Option α) :
    (ofOption form o).orNull read = some o := by
  cases o with
  | none => simp [ofOption, Tree.orNull]
  | some a => simp [ofOption, Tree.orNull, hnull, h]

@[simp] theorem orNull_texts (o : Option String) : (ofOption str o).orNull Tree.text? = some o :=
  orNull_ofOption isNull?_str text?_str o

@[simp] theorem listOf_list (read : Json → Option α) (items : List Json) :
    Tree.listOf read (.list items) = items.mapM read := rfl

@[simp] theorem choice?_str (ofName? : String → Option α) (s : String) :
    choice? ofName? (str s) = ofName? s := by
  simp [choice?, variant?, isUnit, str]

theorem mapM_map {form : α → Json} {read : Json → Option α} {xs : List α}
    (h : ∀ a ∈ xs, read (form a) = some a) : (xs.map form).mapM read = some xs := by
  induction xs with
  | nil => rfl
  | cons x rest ih =>
    simp [h x List.mem_cons_self, ih fun a ha => h a (List.mem_cons_of_mem _ ha)]

theorem listOf_array {form : α → Json} {read : Json → Option α} {xs : List α}
    (h : ∀ a ∈ xs, read (form a) = some a) : (array form xs).listOf read = some xs :=
  mapM_map h

theorem Lossless.listOf {read : Json → Option α} {form : α → Json} (h : Lossless read form) :
    Lossless (Tree.listOf read) (array form) :=
  .of_read_form fun _ => listOf_array fun a _ => h.read_form a

@[simp] theorem listOf_texts (xs : List String) : (texts xs).listOf Tree.text? = some xs :=
  listOf_array fun s _ => text?_str s

end Json

end QueryGen
