import Mathlib
import QueryGen.Go.Source.Type

/-!
# Rests of readers

Whatever a reader of Go takes from the front of a list of tokens, it leaves a rest of that list.

- `partsFrom_induction`: what holds of the parts at every place holds of all parts that are read.
- `Pass.Leaves`: a reader leaves nothing but rests.
- `typeRests`: types and signatures do. The induction is on the bound, with one case for each
  reader: it takes marks and words, and calls readers with the bound below.
-/

namespace QueryGen.Go

variable {α β : Type}

/-! ## Marks and words -/

theorem suffix_of_glued? {cs : List Char} {ts rest : List Token} (h : glued? cs ts = some rest) :
    rest <:+ ts := by
  fun_induction glued? cs ts with
  | case1 ts =>
    cases h
    exact List.suffix_rfl
  | case2 => simp at h
  | case3 c cs t more _ ih => exact (ih h).trans (List.suffix_cons t more)
  | case4 => simp at h

@[grind →]
theorem suffix_of_mark? {mark : String} {ts rest : List Token} (h : mark? mark ts = some rest) :
    rest <:+ ts := by
  unfold mark? at h
  split at h
  · split at h
    · exact (suffix_of_glued? h).trans (List.suffix_cons _ _)
    · simp at h
  · simp at h

@[grind →]
theorem suffix_of_markIn? {lines : Bool} {mark : String} {ts rest : List Token}
    (h : markIn? lines mark ts = some rest) : rest <:+ ts := by
  unfold markIn? at h
  split at h
  · simp at h
  · exact suffix_of_mark? h

@[grind →]
theorem suffix_of_word? {word : String} {ts rest : List Token} (h : word? word ts = some rest) :
    rest <:+ ts := by
  unfold word? at h
  grind

@[grind →]
theorem suffix_of_name? {ts : List Token} {r : Read String} (h : name? ts = some r) :
    r.2 <:+ ts := by
  unfold name? at h
  grind

@[grind →]
theorem suffix_of_endAt {ts rest : List Token} (h : endAt ts = some rest) : rest <:+ ts := by
  unfold endAt at h
  grind

@[grind →]
theorem suffix_of_longestMark? {marks : List String} {ts : List Token} {r : Read String}
    (h : longestMark? marks ts = some r) : r.2 <:+ ts := by
  unfold longestMark? at h
  revert h
  suffices hfold : ∀ best : Option (Read String), (∀ r, best = some r → r.2 <:+ ts) →
      ∀ r, marks.foldl _ best = some r → r.2 <:+ ts from hfold none (by simp) r
  induction marks with
  | nil => exact fun best hbest r h => hbest r h
  | cons mark marks ih =>
    intro best hbest r h
    refine ih _ (fun r hr => ?_) r h
    grind

/-- Where a mark is missing, nothing is passed over. -/
theorem suffix_getD_mark? (mark : String) (ts : List Token) : (mark? mark ts).getD ts <:+ ts := by
  cases h : mark? mark ts with
  | none => exact List.suffix_rfl
  | some rest => exact suffix_of_mark? h

-- A chain of readers is followed from rest to rest.
attribute [grind →] List.IsSuffix.trans

@[grind →]
theorem exists_of_bind_eq_some {x : Option α} {f : α → Option β} {b : β}
    (h : x.bind f = some b) : ∃ a, x = some a ∧ f a = some b :=
  Option.bind_eq_some_iff.1 h

@[grind →]
theorem exists_of_map_eq_some {f : α → β} {o : Option α} {b : β} (h : o.map f = some b) :
    ∃ a, o = some a ∧ f a = b :=
  Option.map_eq_some_iff.1 h

@[grind →]
theorem eq_some_of_filter {p : α → Bool} {o : Option α} {a : α} (h : o.filter p = some a) :
    o = some a :=
  (Option.filter_eq_some_iff.1 h).1

/-! ## Sequences -/

theorem mem_addProgress {all : List (Progress α)} {new p : Progress α}
    (h : p ∈ addProgress all new) : p = new ∨ p ∈ all := by
  induction all with
  | nil => simpa [addProgress] using h
  | cons old more ih =>
    unfold addProgress at h
    grind

theorem mem_foldl_addProgress {all more : List (Progress α)} {p : Progress α}
    (h : p ∈ more.foldl addProgress all) : p ∈ more ∨ p ∈ all := by
  induction more generalizing all with
  | nil => exact .inr h
  | cons new more ih =>
    rcases ih h with hm | hm
    · exact .inl (List.mem_cons_of_mem _ hm)
    · rcases mem_addProgress hm with rfl | hm
      · exact .inl List.mem_cons_self
      · exact .inr hm

/-- What holds of all parts at all places holds of the parts up to the end, and the end is a place
behind. -/
theorem partsFrom_induction {P : α → Prop} {origin : List Token}
    {done : List Token → Option (List Token)} {part : List Token → List (Read (List α))}
    (hdone : ∀ ts rest, done ts = some rest → rest <:+ ts)
    (hpart : ∀ ts, ts <:+ origin → ∀ r ∈ part ts, (∀ x ∈ r.1, P x) ∧ r.2 <:+ ts) {n : Nat}
    {places : List (Progress α)} (hp : ∀ p ∈ places, (∀ x ∈ p.1, P x) ∧ p.2 <:+ origin)
    {r : Read (List α)} (h : partsFrom done part n places = some r) :
    (∀ x ∈ r.1, P x) ∧ r.2 <:+ origin := by
  fun_induction partsFrom done part n places with
  | case1 => simp at h
  | case2 => simp at h
  | case3 n read ts more rest hd =>
    obtain rfl := Option.some.inj h
    obtain ⟨hread, hts⟩ := hp _ List.mem_cons_self
    exact ⟨by simpa using hread, (hdone ts rest hd).trans hts⟩
  | case4 n read ts more hd ih =>
    obtain ⟨hread, hts⟩ := hp _ List.mem_cons_self
    refine ih (fun p hm => ?_) h
    have hfold : p ∈ ((part ts).map fun r => (r.1.reverse ++ read, r.2)).foldl addProgress more := by
      rw [List.foldl_map]
      exact hm
    rcases mem_foldl_addProgress hfold with hm | hm
    · obtain ⟨r, hr, rfl⟩ := List.mem_map.1 hm
      obtain ⟨hparts, hrest⟩ := hpart ts hts r hr
      refine ⟨fun x hx => ?_, hrest.trans hts⟩
      rcases List.mem_append.1 hx with hx | hx
      · exact hparts x (List.mem_reverse.1 hx)
      · exact hread x hx
    · exact hp p (List.mem_cons_of_mem _ hm)

theorem suffix_of_partsFrom {done : List Token → Option (List Token)}
    {part : List Token → List (Read (List α))}
    (hdone : ∀ ts rest, done ts = some rest → rest <:+ ts)
    (hpart : ∀ ts, ∀ r ∈ part ts, r.2 <:+ ts) {n : Nat} {ts : List Token} {r : Read (List α)}
    (h : partsFrom done part n [([], ts)] = some r) : r.2 <:+ ts :=
  (partsFrom_induction (P := fun _ => True) hdone (fun ts _ r hr => ⟨by simp, hpart ts r hr⟩)
    (by simp) h).2

/-! ## Types -/

/-- Whatever is passed over, a rest of the tokens is left. -/
def Pass.Leaves (f : Pass) : Prop := ∀ ts, ∀ rest ∈ f ts, rest <:+ ts

theorem suffix_of_lengthAt {value : Pass} (hv : value.Leaves) {ts : List Token} {r : Read String}
    (h : lengthAt value ts = some r) : r.2 <:+ ts := by
  obtain ⟨rest, hrest, hr⟩ := List.exists_of_findSome?_eq_some h
  obtain ⟨behind, hb, rfl⟩ := Option.map_eq_some_iff.1 hr
  exact (suffix_of_mark? hb).trans (hv _ _ hrest)

@[grind →]
theorem suffix_of_namesAt {n : Nat} {lines : Bool} {ts : List Token} {r : Read (List String)}
    (h : namesAt n lines ts = some r) : r.2 <:+ ts := by
  induction n generalizing ts r with
  | zero => simp [namesAt] at h
  | succ n ih =>
    simp only [namesAt, Option.bind_eq_bind, Option.pure_def] at h
    grind

theorem suffix_tagAt (ts : List Token) : (tagAt ts).2 <:+ ts := by
  unfold tagAt
  grind

@[grind →]
theorem suffix_of_withTag {make : Option String → α} {ts : List Token} {r : Read α}
    (h : withTag make ts = some r) : r.2 <:+ ts := by
  have := suffix_tagAt ts
  unfold withTag at h
  grind

/-- Types and signatures with the bound `n` leave rests. -/
structure TypeRests (value : Pass) (n : Nat) : Prop where
  type : ∀ lines ts r, typeAt value n lines ts = some r → r.2 <:+ ts
  named : ∀ lines inner ts r, namedAt value n lines inner ts = some r → r.2 <:+ ts
  args : ∀ ts r, argsAt value n ts = some r → r.2 <:+ ts
  union : ∀ lines ts r, unionAt value n lines ts = some r → r.2 <:+ ts
  entry : ∀ ts r, entryAt value n ts = some r → r.2 <:+ ts
  entries : ∀ ts r, entriesAt value n ts = some r → r.2 <:+ ts
  params : ∀ ts r, paramsAt value n ts = some r → r.2 <:+ ts
  result : ∀ lines ts r, resultAt value n lines ts = some r → r.2 <:+ ts
  embeddable : ∀ ts r, embeddableAt value n ts = some r → r.2 <:+ ts
  embedded : ∀ ts r, embeddedAt value n ts = some r → r.2 <:+ ts
  namedField : ∀ ts r, namedFieldAt value n ts = some r → r.2 <:+ ts
  field : ∀ ts, ∀ r ∈ fieldAt value n ts, r.2 <:+ ts
  fields : ∀ ts r, fieldsAt value n ts = some r → r.2 <:+ ts
  element : ∀ ts r, elementAt value n ts = some r → r.2 <:+ ts
  items : ∀ ts r, itemsAt value n ts = some r → r.2 <:+ ts

attribute [grind →] TypeRests.type TypeRests.named TypeRests.args TypeRests.union TypeRests.entry
  TypeRests.entries TypeRests.params TypeRests.result TypeRests.embeddable TypeRests.embedded
  TypeRests.namedField TypeRests.fields TypeRests.element TypeRests.items

namespace TypeRests

variable {value : Pass} {n : Nat} {lines inner : Bool} {ts : List Token}

theorem type_succ (hv : value.Leaves) (ih : TypeRests value n) {r : Read GoType}
    (h : typeAt value (n + 1) lines ts = some r) : r.2 <:+ ts := by
  cases ts with
  | nil => simp [typeAt] at h
  | cons t rest =>
    have hrest : rest <:+ t :: rest := List.suffix_cons t rest
    have hchan := suffix_getD_mark? "<-" rest
    have hlength := @suffix_of_lengthAt value hv
    simp only [typeAt, Option.bind_eq_bind, Option.pure_def] at h
    split at h <;> grind

theorem named_succ (ih : TypeRests value n) {r : Read GoType}
    (h : namedAt value (n + 1) lines inner ts = some r) : r.2 <:+ ts := by
  simp only [namedAt, Option.bind_eq_bind, Option.pure_def, Option.bind_some] at h
  obtain ⟨first, hfirst, h⟩ := Option.bind_eq_some_iff.1 h
  split at h
  · obtain ⟨second, hsecond, h⟩ := Option.bind_eq_some_iff.1 h
    grind
  · grind

theorem args_succ (ih : TypeRests value n) {r : Read Unit}
    (h : argsAt value (n + 1) ts = some r) : r.2 <:+ ts := by
  simp only [argsAt, Option.bind_eq_bind, Option.pure_def] at h
  grind

theorem union_succ (ih : TypeRests value n) {r : Read Unit}
    (h : unionAt value (n + 1) lines ts = some r) : r.2 <:+ ts := by
  simp only [unionAt, Option.bind_eq_bind, Option.pure_def] at h
  grind

theorem entry_succ (ih : TypeRests value n) {r : Read ParamEntry}
    (h : entryAt value (n + 1) ts = some r) : r.2 <:+ ts := by
  simp only [entryAt, Option.bind_eq_bind, Option.pure_def] at h
  split at h
  · grind
  · split at h
    · grind
    · split at h
      · grind
      · split at h
        · grind
        · split at h
          · grind
          · grind

theorem entries_succ (ih : TypeRests value n) {r : Read (List ParamEntry)}
    (h : entriesAt value (n + 1) ts = some r) : r.2 <:+ ts := by
  simp only [entriesAt, Option.bind_eq_bind, Option.pure_def] at h
  grind

theorem params_succ (ih : TypeRests value n) {r : Read (List Param)}
    (h : paramsAt value (n + 1) ts = some r) : r.2 <:+ ts := by
  simp only [paramsAt, Option.bind_eq_bind, Option.pure_def] at h
  grind

theorem result_succ (ih : TypeRests value n) {r : Read (List Param)}
    (h : resultAt value (n + 1) lines ts = some r) : r.2 <:+ ts := by
  simp only [resultAt, Option.bind_eq_bind, Option.pure_def] at h
  grind

theorem embeddable_succ (ih : TypeRests value n) {r : Read GoType}
    (h : embeddableAt value (n + 1) ts = some r) : r.2 <:+ ts := by
  rw [embeddableAt] at h
  grind

theorem embedded_succ (ih : TypeRests value n) {r : Read (List StructField)}
    (h : embeddedAt value (n + 1) ts = some r) : r.2 <:+ ts := by
  simp only [embeddedAt, Option.bind_eq_bind, Option.pure_def, Option.bind_some] at h
  grind

theorem namedField_succ (ih : TypeRests value n) {r : Read (List StructField)}
    (h : namedFieldAt value (n + 1) ts = some r) : r.2 <:+ ts := by
  simp only [namedFieldAt, Option.bind_eq_bind, Option.bind_some] at h
  grind

theorem field_succ (ih : TypeRests value n) {r : Read (List StructField)}
    (h : r ∈ fieldAt value (n + 1) ts) : r.2 <:+ ts := by
  simp only [fieldAt, Option.bind_eq_bind, Option.pure_def] at h
  grind

theorem fields_succ (ih : TypeRests value n) {r : Read (List StructField)}
    (h : fieldsAt value (n + 1) ts = some r) : r.2 <:+ ts := by
  rw [fieldsAt] at h
  exact suffix_of_partsFrom (fun _ _ => suffix_of_mark?) ih.field h

theorem element_succ (ih : TypeRests value n) {r : Read BodyItem}
    (h : elementAt value (n + 1) ts = some r) : r.2 <:+ ts := by
  simp only [elementAt, Option.bind_eq_bind, Option.pure_def] at h
  grind

theorem items_succ (ih : TypeRests value n) {r : Read (List BodyItem)}
    (h : itemsAt value (n + 1) ts = some r) : r.2 <:+ ts := by
  simp only [itemsAt, Option.bind_eq_bind, Option.pure_def] at h
  grind

end TypeRests

/-- Types and signatures leave rests, if the values in them do. -/
theorem typeRests {value : Pass} (hv : value.Leaves) (n : Nat) : TypeRests value n := by
  induction n with
  | zero =>
    constructor
    all_goals
      intros
      simp_all [typeAt, namedAt, argsAt, unionAt, entryAt, entriesAt, paramsAt, resultAt,
        embeddableAt, embeddedAt, namedFieldAt, fieldAt, fieldsAt, elementAt, itemsAt]
  | succ n ih =>
    exact {
      type := fun _ _ _ => ih.type_succ hv
      named := fun _ _ _ _ => ih.named_succ
      args := fun _ _ => ih.args_succ
      union := fun _ _ _ => ih.union_succ
      entry := fun _ _ => ih.entry_succ
      entries := fun _ _ => ih.entries_succ
      params := fun _ _ => ih.params_succ
      result := fun _ _ _ => ih.result_succ
      embeddable := fun _ _ => ih.embeddable_succ
      embedded := fun _ _ => ih.embedded_succ
      namedField := fun _ _ => ih.namedField_succ
      field := fun _ _ => ih.field_succ
      fields := fun _ _ => ih.fields_succ
      element := fun _ _ => ih.element_succ
      items := fun _ _ => ih.items_succ }

end QueryGen.Go
