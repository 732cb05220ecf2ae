import QueryGen.Proofs.Method.Names

/-!
# The search for a fresh name

A name gets one underscore after the other for as long as it is taken.

- `NameSearch`: the loop, turn by turn. Nothing in it says that there is an end.
- `nameSearch_iff`: where it ends, by the names that it has tried.
- `exists_nameSearch`: it ends. A turn leaves a taken name behind that is too short to be tried
  again.
- `freshName_search`: a fresh name is what the search finds, after one turn for each parameter at
  most. The results of a method have different names.
-/

namespace QueryGen

variable {taken : List String} {name base found : String} {n : Nat}

/-- From a name on, `n` turns lead to a name that is not taken. -/
inductive NameSearch (taken : List String) : Nat → String → String → Prop where
  | free {name : String} (h : name ∉ taken) : NameSearch taken 0 name name
  | turn {n : Nat} {name found : String} (h : name ∈ taken)
      (rest : NameSearch taken n (name ++ "_") found) : NameSearch taken (n + 1) name found

theorem underscored_zero (name : String) : underscored name 0 = name := by
  rw [← String.toList_inj, toList_underscored]
  exact List.append_nil _

theorem underscored_succ (name : String) (n : Nat) :
    underscored name (n + 1) = underscored (name ++ "_") n := by
  rw [← String.toList_inj, toList_underscored, toList_underscored, String.toList_append,
    List.append_assoc, List.replicate_succ]
  rfl

/-- The search ends at the first name that is not taken. -/
theorem nameSearch_iff : NameSearch taken n name found ↔
    found = underscored name n ∧ found ∉ taken ∧ ∀ k < n, underscored name k ∈ taken := by
  constructor
  · intro h
    induction h with
    | free h => exact ⟨(underscored_zero _).symm, h, fun _ hk => absurd hk (Nat.not_lt_zero _)⟩
    | @turn n name found h _ ih =>
      obtain ⟨rfl, hfree, hbefore⟩ := ih
      refine ⟨(underscored_succ name n).symm, hfree, fun k hk => ?_⟩
      cases k with
      | zero => rwa [underscored_zero]
      | succ k =>
        rw [underscored_succ]
        exact hbefore k (Nat.lt_of_succ_lt_succ hk)
  · rintro ⟨rfl, hfree, hbefore⟩
    induction n generalizing name with
    | zero =>
      rw [underscored_zero] at hfree ⊢
      exact .free hfree
    | succ n ih =>
      have hname : name ∈ taken := by simpa [underscored_zero] using hbefore 0 (Nat.succ_pos n)
      rw [underscored_succ] at hfree ⊢
      refine .turn hname (ih hfree fun k hk => ?_)
      rw [← underscored_succ]
      exact hbefore (k + 1) (Nat.succ_lt_succ hk)

/-! ## The search ends -/

/-- How many taken names are not shorter than a name. Only these can be tried from it on. -/
def ahead (taken : List String) (name : String) : Nat :=
  taken.countP fun t => name.length ≤ t.length

/-- A turn leaves the name behind that it finds taken. -/
theorem ahead_append_lt (h : name ∈ taken) : ahead taken (name ++ "_") < ahead taken name := by
  have hlength : (name ++ "_").length = name.length + 1 := by
    rw [String.length_append]
    rfl
  have hle : ∀ rest : List String, ahead rest (name ++ "_") ≤ ahead rest name := fun rest =>
    List.countP_mono_left fun t _ ht => by
      simp only [decide_eq_true_eq] at ht ⊢
      omega
  obtain ⟨front, back, rfl⟩ := List.append_of_mem h
  have hfront := hle front
  have hback := hle back
  unfold ahead at hfront hback ⊢
  rw [List.countP_append, List.countP_append, List.countP_cons_of_neg (by simp [hlength]),
    List.countP_cons_of_pos (by simp)]
  omega

/-- The search ends, after at most one turn for each taken name that is ahead. -/
theorem exists_nameSearch (taken : List String) (name : String) :
    ∃ n ≤ ahead taken name, ∃ found, NameSearch taken n name found := by
  by_cases h : name ∈ taken
  · have hlt := ahead_append_lt h
    obtain ⟨n, hn, found, hsearch⟩ := exists_nameSearch taken (name ++ "_")
    exact ⟨n + 1, Nat.succ_le_of_lt (Nat.lt_of_le_of_lt hn hlt), found, .turn h hsearch⟩
  · exact ⟨0, Nat.zero_le _, name, .free h⟩
termination_by ahead taken name

/-! ## What it finds -/

/-- There is one way to search, and it finds the fresh name. -/
theorem exists_forall_nameSearch_iff (base : String) (taken : List String) :
    ∃ n ≤ taken.length, ∀ k found,
      NameSearch taken k base found ↔ k = n ∧ found = freshName base taken := by
  obtain ⟨n, hn, found, hsearch⟩ := exists_nameSearch taken base
  obtain ⟨rfl, hfree, hbefore⟩ := nameSearch_iff.1 hsearch
  have hfirst : ∀ k, underscored base k ∉ taken → (∀ i < k, underscored base i ∈ taken) →
      k = n := by
    intro k hk hall
    rcases Nat.lt_trichotomy k n with hlt | rfl | hlt
    · exact absurd (hbefore k hlt) hk
    · rfl
    · exact absurd (hall n hlt) hfree
  obtain ⟨i, hi, hfresh, hall⟩ := freshName_eq base taken
  obtain rfl := hfirst i hfresh hall
  refine ⟨i, Nat.le_trans hn List.countP_le_length, fun k found => ⟨fun h => ?_, ?_⟩⟩
  · obtain ⟨rfl, hk, hlower⟩ := nameSearch_iff.1 h
    obtain rfl := hfirst k hk hlower
    exact ⟨rfl, hi.symm⟩
  · rintro ⟨rfl, rfl⟩
    rwa [hi]

/-- A name begins as its base does. -/
theorem take_freshName {m : Nat} (h : m ≤ base.toList.length) (taken : List String) :
    (freshName base taken).toList.take m = base.toList.take m := by
  obtain ⟨n, hn, -⟩ := freshName_eq base taken
  rw [hn, toList_underscored, List.take_append_of_le_length h]

/-- The names of the results differ, whatever is taken. -/
theorem nodup_freshName (kind : ScanKind) (taken : List String) :
    ([.data kind, .rowsAffected, .error].map fun role : ResultRole =>
      freshName role.baseName taken).Nodup := by
  have hstart : ([.data kind, .rowsAffected, .error].map fun role : ResultRole =>
      freshName role.baseName taken).map (·.toList.take 2) =
        [['r', 'e'], ['r', 'o'], ['e', 'r']] := by
    simp only [List.map_cons, List.map_nil, ResultRole.baseName]
    rw [take_freshName (by decide), take_freshName (by decide), take_freshName (by decide)]
    rfl
  refine List.Nodup.of_map (·.toList.take 2) ?_
  rw [hstart]
  decide

/-- The search for a name that no parameter has ends after one turn for each parameter at most. It
finds the fresh name, which has the fewest underscores with which no parameter has it. A result
that is read, a number of rows and an error get different names. -/
theorem freshName_search (base : String) (params : List Param) (kind : ScanKind) :
    (∃ n ≤ params.length,
      (∀ k found, NameSearch (params.map (·.name)) k base found ↔
        k = n ∧ found = freshName base (params.map (·.name))) ∧
      freshName base (params.map (·.name)) = underscored base n ∧
      (∀ p ∈ params, p.name ≠ underscored base n) ∧
      ∀ k < n, ∃ p ∈ params, p.name = underscored base k) ∧
    ([.data kind, .rowsAffected, .error].map fun role : ResultRole =>
      freshName role.baseName (params.map (·.name))).Nodup := by
  refine ⟨?_, nodup_freshName kind _⟩
  obtain ⟨n, hn, hiff⟩ := exists_forall_nameSearch_iff base (params.map (·.name))
  obtain ⟨hname, hfree, hbefore⟩ := nameSearch_iff.1 ((hiff n _).2 ⟨rfl, rfl⟩)
  rw [hname] at hfree
  refine ⟨n, by rwa [List.length_map] at hn, hiff, hname, fun p hp he => ?_, fun k hk => ?_⟩
  · exact hfree (he ▸ List.mem_map_of_mem hp)
  · exact List.mem_map.1 (hbefore k hk)

end QueryGen
