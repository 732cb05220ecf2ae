/-!
# Results

- `bind_eq_ok_iff`, `bind_eq_error_iff`: how a computation of two parts ends.
- `successes`, `failures`: the values and the errors in a list of results.
-/

namespace QueryGen

variable {ε ε' α β : Type}

/-! ## Single results -/

/-- A computation of two parts succeeds when both do. -/
theorem bind_eq_ok_iff {x : Except ε α} {f : α → Except ε β} {b : β} :
    (x >>= f) = .ok b ↔ ∃ a, x = .ok a ∧ f a = .ok b := by
  cases x with
  | error e => simp [bind, Except.bind]
  | ok a => simp [bind, Except.bind]

theorem bind_eq_error_iff {x : Except ε α} {f : α → Except ε β} {e : ε} :
    (x >>= f) = .error e ↔ x = .error e ∨ ∃ a, x = .ok a ∧ f a = .error e := by
  cases x <;> simp [bind, Except.bind]

@[simp] theorem map_eq_ok_iff {f : α → β} {x : Except ε α} {b : β} :
    x.map f = .ok b ↔ ∃ a, x = .ok a ∧ f a = b := by
  cases x <;> simp [Except.map]

@[simp] theorem map_eq_error_iff {f : α → β} {x : Except ε α} {e : ε} :
    x.map f = .error e ↔ x = .error e := by
  cases x <;> simp [Except.map]

@[simp] theorem mapError_eq_ok_iff {f : ε → ε'} {x : Except ε α} {a : α} :
    x.mapError f = .ok a ↔ x = .ok a := by
  cases x with
  | error e => exact ⟨nofun, nofun⟩
  | ok b => exact ⟨fun h => congrArg _ (Except.ok.inj h), fun h => congrArg _ (Except.ok.inj h)⟩

@[simp] theorem mapError_eq_error_iff {f : ε → ε'} {x : Except ε α} {e : ε'} :
    x.mapError f = .error e ↔ ∃ cause, x = .error cause ∧ f cause = e := by
  cases x with
  | error cause =>
    constructor
    · exact fun h => ⟨cause, rfl, Except.error.inj h⟩
    · rintro ⟨_, hcause, rfl⟩
      cases hcause
      rfl
  | ok a => exact ⟨nofun, nofun⟩

/-! ## Lists of results -/

/-- The values of the results that are values. -/
def successes : List (Except ε α) → List α
  | [] => []
  | .ok a :: rest => a :: successes rest
  | .error _ :: rest => successes rest

/-- The errors of the results that are errors. -/
def failures : List (Except ε α) → List ε
  | [] => []
  | .ok _ :: rest => failures rest
  | .error e :: rest => e :: failures rest

@[simp] theorem mem_successes {a : α} {results : List (Except ε α)} :
    a ∈ successes results ↔ .ok a ∈ results := by
  induction results with
  | nil => simp [successes]
  | cons r rest ih => cases r <;> simp [successes, ih]

@[simp] theorem mem_failures {e : ε} {results : List (Except ε α)} :
    e ∈ failures results ↔ .error e ∈ results := by
  induction results with
  | nil => simp [failures]
  | cons r rest ih => cases r <;> simp [failures, ih]

@[simp] theorem successes_append (a b : List (Except ε α)) :
    successes (a ++ b) = successes a ++ successes b := by
  induction a with
  | nil => rfl
  | cons r rest ih => cases r <;> simp [successes, ih]

@[simp] theorem failures_append (a b : List (Except ε α)) :
    failures (a ++ b) = failures a ++ failures b := by
  induction a with
  | nil => rfl
  | cons r rest ih => cases r <;> simp [failures, ih]

/-- What has no value may as well be left out. -/
theorem successes_map_filter {keep : α → Bool} {f : α → Except ε β} {items : List α}
    (h : ∀ a ∈ items, keep a = false → ∃ e, f a = .error e) :
    successes ((items.filter keep).map f) = successes (items.map f) := by
  induction items with
  | nil => rfl
  | cons a rest ih =>
    have hrest := ih fun b hb => h b (List.mem_cons_of_mem _ hb)
    cases hk : keep a with
    | true =>
      rw [List.filter_cons_of_pos hk, List.map_cons, List.map_cons]
      cases f a <;> simp [successes, hrest]
    | false =>
      obtain ⟨e, he⟩ := h a List.mem_cons_self hk
      rw [List.filter_cons_of_neg (by simp [hk]), List.map_cons, he, successes, hrest]

/-- What values show of where they come from. -/
theorem map_successes {γ : Type} {f : α → Except ε β} {k : β → γ} {k' : α → γ}
    (h : ∀ a b, f a = .ok b → k b = k' a) (items : List α) :
    (successes (items.map f)).map k = (items.filter fun a => (f a).isOk).map k' := by
  induction items with
  | nil => rfl
  | cons a rest ih =>
    rw [List.map_cons, List.filter_cons]
    cases hf : f a with
    | error e => simpa [successes, Except.isOk, Except.toBool] using ih
    | ok b => simpa [successes, Except.isOk, Except.toBool, h a b hf] using ih

/-- Every result is counted once. -/
theorem length_successes_add_length_failures (results : List (Except ε α)) :
    (successes results).length + (failures results).length = results.length := by
  induction results with
  | nil => rfl
  | cons r rest ih => cases r <;> simp [successes, failures] <;> omega

end QueryGen
