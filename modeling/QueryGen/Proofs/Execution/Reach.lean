import QueryGen.Proofs.Execution.Distinct

/-!
# Runs that reach a place

Where the keys of a tree are not separated, a run binds two values under one key.

- `Clause.exists_runs`: every tree has a run.
- `Covers`: the values of a run hold those at a site, in every turn of the loops there.
- `Clause.exists_covers`, `Clause.exists_covers_pair`: runs that cover a site, or two that meet.
- `ticks`: positions that start like a counter and have all integers up to a bound, so that turns
  have the ticks that are asked for (`exists_pass`).
- `key_eq_of_hidden`: a hidden index variable is lost in a key.
- `exists_key_eq`: two values under one key, in different turns.
-/

namespace QueryGen

variable {α : Type}

/-! ## Runs exist -/

/-- A run of a clause and a run of those behind it. -/
theorem Runs.cons {around : List (Pass α)} {c : Clause} {rest : List Clause}
    {choices more : List (Choice α)} {units others : List (Written α)}
    (hc : Runs around (.clauses [c]) choices units) (hr : Runs around (.clauses rest) more others) :
    Runs around (.clauses (c :: rest)) (choices ++ more) (units ++ others) := by
  cases hc with
  | sql hd =>
    cases hd
    simpa using hr.sql
  | branch hb hd =>
    cases hd
    simpa using hb.branch hr
  | join hb hd =>
    cases hd
    simpa using hb.join hr
  | loop hp hb hd =>
    cases hd
    simpa using hb.loop hp hr

mutual

theorem Clause.exists_runs (around : List (Pass α)) (c : Clause) :
    ∃ choices units, Runs around (.clauses [c]) choices units := by
  match c with
  | .sql _ fragments => exact ⟨_, _, .sql .done⟩
  | .branch _ cond body otherwise =>
    obtain ⟨choices, units, hb⟩ := Clause.exists_runsAll around body
    exact ⟨_, _, .branch (.taken hb) .done⟩
  | .join kind _ _ body =>
    obtain ⟨choices, units, hb⟩ := Clause.exists_runsAll around body
    exact ⟨_, _, .join hb .done⟩
  | .loop id _ range index body =>
    exact ⟨_, _, .loop (fun _ => ⟨[], .nil, rfl⟩) .noPass .done⟩

/-- Clauses have a run. -/
theorem Clause.exists_runsAll (around : List (Pass α)) (cs : List Clause) :
    ∃ choices units, Runs around (.clauses cs) choices units := by
  match cs with
  | [] => exact ⟨_, _, .done⟩
  | c :: rest =>
    obtain ⟨choices, units, hc⟩ := Clause.exists_runs around c
    obtain ⟨more, others, hr⟩ := Clause.exists_runsAll around rest
    exact ⟨_, _, hc.cons hr⟩

end

/-- The turns of a loop have a run with what each turn has. -/
theorem exists_runs_passes {around : List (Pass α)} {id : Nat} {range : ForRange}
    {index : LoopIndex} {body : List Clause} {P : Nat → Value α × Value α → Bound α → Prop}
    (h : ∀ turn pair, ∃ choices units,
      Runs (⟨id, range, index, turn, pair⟩ :: around) (.clauses body) choices units ∧
        ∀ b, P turn pair b → b ∈ Written.boundsAll units)
    (turn : Nat) (pairs : List (Value α × Value α)) :
    ∃ choices units, Runs around (.passes id range index body turn pairs) choices units ∧
      ∀ i pair b, pairs[i]? = some pair → P (turn + i) pair b → b ∈ Written.boundsAll units := by
  induction pairs generalizing turn with
  | nil => exact ⟨_, _, .noPass, by simp⟩
  | cons first rest ih =>
    obtain ⟨choices, units, hb, hp⟩ := h turn first
    obtain ⟨more, others, hr, hq⟩ := ih (turn + 1)
    refine ⟨_, _, .pass hb hr, fun i pair b hi hP => ?_⟩
    rw [Written.boundsAll_append, List.mem_append]
    cases i with
    | zero =>
      obtain rfl : first = pair := by simpa using hi
      exact .inl (hp b hP)
    | succ i =>
      refine .inr (hq i pair b hi ?_)
      rwa [Nat.add_right_comm, Nat.add_assoc]

/-! ## Runs that reach a site -/

/-- The turn of a loop that has the given pairs. -/
def Pass.Among (pairs : List (Value α × Value α)) (p : Pass α) : Prop :=
  pairs[p.turn]? = some p.pair

/-- A value that is bound inside `around` and turns of loops that have the given pairs. -/
def Bound.Through (pairs : List (Value α × Value α)) (around : List (Pass α)) (b : Bound α) :
    Prop :=
  ∃ inner, b.around = inner ++ around ∧ ∀ p ∈ inner, p.Among pairs

/-- What a run writes holds the values at a site, in every turn of the loops there. -/
def Covers (pairs : List (Value α × Value α)) (around : List (Pass α)) (s : Site)
    (units : List (Written α)) : Prop :=
  ∀ b : Bound α, b.site = s → b.Through pairs around → b ∈ Written.boundsAll units

section Covers

variable {pairs : List (Value α × Value α)} {around : List (Pass α)} {s : Site}
  {units others : List (Written α)}

theorem Covers.append_left (h : Covers pairs around s units) (others : List (Written α)) :
    Covers pairs around s (units ++ others) := by
  intro b hs ht
  rw [Written.boundsAll_append]
  exact List.mem_append_left _ (h b hs ht)

theorem Covers.append_right (h : Covers pairs around s others) (units : List (Written α)) :
    Covers pairs around s (units ++ others) := by
  intro b hs ht
  rw [Written.boundsAll_append]
  exact List.mem_append_right _ (h b hs ht)

/-- A loop covers what its body covers in every turn. -/
theorem Covers.ofPasses {id : Nat} {range : ForRange} {index : LoopIndex} {inner : List Frame}
    (hs : s.loops = inner ++ ⟨id, range, index⟩ :: around.map Pass.frame)
    (h : ∀ i pair b, pairs[i]? = some pair →
      (b : Bound α).site = s ∧ b.Through pairs (⟨id, range, index, i, pair⟩ :: around) →
        b ∈ Written.boundsAll units) :
    Covers pairs around s units := by
  rintro b rfl ⟨passes, hb, hamong⟩
  -- The last of the turns beyond `around` is one of this loop.
  rw [Bound.site, hb, List.map_append, List.append_cons, List.append_left_inj,
    List.map_eq_append_iff] at hs
  obtain ⟨front, last, rfl, -, hlast⟩ := hs
  obtain ⟨p, rfl, hp⟩ := List.map_eq_singleton_iff.1 hlast
  rw [Pass.frame, Frame.mk.injEq] at hp
  obtain ⟨rfl, rfl, rfl⟩ := hp
  refine h p.turn p.pair b (hamong p (by simp)) ⟨rfl, front, by simp [hb], fun q hq => ?_⟩
  exact hamong q (List.mem_append_left _ hq)

mutual

theorem Clause.exists_covers (hp : ∀ r : ForRange, r.Admits pairs) {wide : Bool} {c : Clause}
    (hg : c.Grammatical wide) {around : List (Pass α)} {s : Site}
    (hs : s ∈ c.sites (around.map Pass.frame)) :
    (∃ choices units, Runs around (.clauses [c]) choices units ∧ Covers pairs around s units) ∧
      ∃ inner, s.loops = inner ++ around.map Pass.frame := by
  match c with
  | .sql _ fragments =>
    obtain ⟨d, hd, rfl⟩ := List.mem_map.1 hs
    refine ⟨⟨_, _, .sql .done, fun b hb ht => ?_⟩, [], rfl⟩
    obtain ⟨inner, hi, -⟩ := ht
    have hloops : b.site.loops = around.map Pass.frame := by rw [hb]
    have ha := Bound.around_eq_of_loops_eq ⟨inner, hi⟩ hloops
    have hbd : b = ⟨d, around⟩ := by
      cases b
      simp_all [Bound.site]
    rw [Written.boundsAll_append, boundsAll_map_written, bindings_settled, hbd]
    exact List.mem_append_left _ (List.mem_map.2 ⟨d, hd, rfl⟩)
  | .branch _ cond body otherwise =>
    obtain ⟨hchain, hbody, hothers⟩ := hg
    have hall : Branch.AllGrammatical wide (.mk (some cond) body :: otherwise) :=
      ⟨⟨hchain, hbody⟩, by simp, hothers⟩
    rcases List.mem_append.1 hs with hs | hs
    · obtain ⟨⟨choices, units, hr, hc⟩, hi⟩ := Clause.exists_coversAll hp hbody hs
      exact ⟨⟨_, _, .branch (.taken hr) .done, hc.append_left _⟩, hi⟩
    · obtain ⟨⟨choices, units, hr, hc⟩, hi⟩ := Branch.exists_covers hp hothers hs
      exact ⟨⟨_, _, .branch (.passed hr) .done, hc.append_left _⟩, hi⟩
  | .join kind _ _ body =>
    obtain ⟨⟨choices, units, hr, hc⟩, hi⟩ := Clause.exists_coversAll hp hg.2.2 hs
    refine ⟨⟨_, _, .join hr .done, fun b hb ht => ?_⟩, hi⟩
    exact List.mem_append_left _ (hc b hb ht)
  | .loop id _ range index body =>
    have hturn : ∀ turn (pair : Value α × Value α),
        (∃ choices units, Runs (⟨id, range, index, turn, pair⟩ :: around) (.clauses body)
          choices units ∧ Covers pairs (⟨id, range, index, turn, pair⟩ :: around) s units) ∧
        ∃ inner, s.loops = inner ++ ⟨id, range, index⟩ :: around.map Pass.frame :=
      fun turn pair => Clause.exists_coversAll hp hg.2 hs
    obtain ⟨-, inner, hi⟩ := hturn 0 (.int 0, .int 0)
    obtain ⟨choices, units, hr, hcov⟩ := exists_runs_passes
      (P := fun turn pair b =>
        b.site = s ∧ b.Through pairs (⟨id, range, index, turn, pair⟩ :: around))
      (fun turn pair => by
        obtain ⟨choices, units, hr, hcov⟩ := (hturn turn pair).1
        exact ⟨choices, units, hr, fun b hb => hcov b hb.1 hb.2⟩) 0 pairs
    refine ⟨⟨_, _, .loop (hp range) hr .done, ?_⟩, inner ++ [⟨id, range, index⟩], by simp [hi]⟩
    have hloop : Covers pairs around s units :=
      .ofPasses hi fun i pair b hpair hb => hcov i pair b hpair (by rwa [Nat.zero_add])
    exact hloop.append_left _

theorem Clause.exists_coversAll (hp : ∀ r : ForRange, r.Admits pairs) {wide : Bool}
    {cs : List Clause} (hg : Clause.AllGrammatical wide cs) {around : List (Pass α)} {s : Site}
    (hs : s ∈ Clause.sitesAll (around.map Pass.frame) cs) :
    (∃ choices units, Runs around (.clauses cs) choices units ∧ Covers pairs around s units) ∧
      ∃ inner, s.loops = inner ++ around.map Pass.frame := by
  match cs with
  | [] => cases hs
  | c :: rest =>
    rcases List.mem_append.1 hs with hs | hs
    · obtain ⟨⟨choices, units, hc, hcov⟩, hi⟩ := Clause.exists_covers hp hg.1 hs
      obtain ⟨more, others, hr⟩ := Clause.exists_runsAll around rest
      exact ⟨⟨_, _, hc.cons hr, hcov.append_left _⟩, hi⟩
    · obtain ⟨choices, units, hc⟩ := Clause.exists_runs around c
      obtain ⟨⟨more, others, hr, hcov⟩, hi⟩ := Clause.exists_coversAll hp hg.2 hs
      exact ⟨⟨_, _, hc.cons hr, hcov.append_right _⟩, hi⟩

theorem Branch.exists_covers (hp : ∀ r : ForRange, r.Admits pairs) {wide : Bool}
    {bs : List Branch} (hg : Branch.AllGrammatical wide bs) {around : List (Pass α)} {s : Site}
    (hs : s ∈ Branch.sitesAll (around.map Pass.frame) bs) :
    (∃ choices units, Runs around (.branches bs) choices units ∧ Covers pairs around s units) ∧
      ∃ inner, s.loops = inner ++ around.map Pass.frame := by
  match bs with
  | [] => cases hs
  | .mk guard body :: rest =>
    obtain ⟨hbody, hlast, hrest⟩ := hg
    rcases List.mem_append.1 hs with hs | hr
    · obtain ⟨⟨choices, units, hr, hcov⟩, hi⟩ := Clause.exists_coversAll hp hbody.2 hs
      cases guard with
      | none => exact ⟨⟨_, _, .otherwise hr, hcov⟩, hi⟩
      | some cond => exact ⟨⟨_, _, .taken hr, hcov⟩, hi⟩
    · cases guard with
      | none =>
        rw [hlast rfl] at hr
        cases hr
      | some cond =>
        obtain ⟨⟨choices, units, hr, hcov⟩, hi⟩ := Branch.exists_covers hp hrest hr
        exact ⟨⟨_, _, .passed hr, hcov⟩, hi⟩

end

mutual

theorem Clause.exists_covers_pair (hp : ∀ r : ForRange, r.Admits pairs) {wide : Bool} {c : Clause}
    (hg : c.Grammatical wide) {s t : Site} (hm : (s, t) ∈ c.meets) :
    ∃ choices units, Runs [] (.clauses [c]) choices units ∧ Covers pairs [] s units ∧
      Covers pairs [] t units := by
  match c with
  | .sql _ fragments => cases hm
  | .branch _ cond body otherwise =>
    obtain ⟨-, hbody, hothers⟩ := hg
    rcases List.mem_append.1 hm with hm | hm
    · obtain ⟨choices, units, hr, hs, ht⟩ := Clause.exists_covers_pairAll hp hbody hm
      exact ⟨_, _, .branch (.taken hr) .done, hs.append_left _, ht.append_left _⟩
    · obtain ⟨choices, units, hr, hs, ht⟩ := Branch.exists_covers_pair hp hothers hm
      exact ⟨_, _, .branch (.passed hr) .done, hs.append_left _, ht.append_left _⟩
  | .join kind _ _ body =>
    obtain ⟨choices, units, hr, hs, ht⟩ := Clause.exists_covers_pairAll hp hg.2.2 hm
    refine ⟨_, _, .join hr .done, fun b hb hi => ?_, fun b hb hi => ?_⟩
    · exact List.mem_append_left _ (hs b hb hi)
    · exact List.mem_append_left _ (ht b hb hi)
  | .loop id _ range index body => cases hm

/-- Two sites that meet are covered by one run. -/
theorem Clause.exists_covers_pairAll (hp : ∀ r : ForRange, r.Admits pairs) {wide : Bool}
    {cs : List Clause} (hg : Clause.AllGrammatical wide cs) {s t : Site}
    (hm : (s, t) ∈ Clause.meetsAll cs) :
    ∃ choices units, Runs [] (.clauses cs) choices units ∧ Covers pairs [] s units ∧
      Covers pairs [] t units := by
  match cs with
  | [] => cases hm
  | c :: rest =>
    -- One of them may be in the first clause and the other one behind it.
    have hapart : ∀ {u v : Site}, u ∈ c.sites (([] : List (Pass α)).map Pass.frame) →
        v ∈ Clause.sitesAll (([] : List (Pass α)).map Pass.frame) rest →
        ∃ choices units, Runs [] (.clauses (c :: rest)) choices units ∧ Covers pairs [] u units ∧
          Covers pairs [] v units := by
      intro u v hu hv
      obtain ⟨⟨choices, units, hc, hcov⟩, -⟩ := Clause.exists_covers hp hg.1 hu
      obtain ⟨⟨more, others, hr, hcov'⟩, -⟩ := Clause.exists_coversAll hp hg.2 hv
      exact ⟨_, _, hc.cons hr, hcov.append_left _, hcov'.append_right _⟩
    rcases List.mem_append.1 hm with hm | hm
    · obtain ⟨choices, units, hc, hs, ht⟩ := Clause.exists_covers_pair hp hg.1 hm
      obtain ⟨more, others, hr⟩ := Clause.exists_runsAll [] rest
      exact ⟨_, _, hc.cons hr, hs.append_left _, ht.append_left _⟩
    · rcases List.mem_append.1 hm with hm | hm
      · obtain ⟨choices, units, hc⟩ := Clause.exists_runs [] c
        obtain ⟨more, others, hr, hs, ht⟩ := Clause.exists_covers_pairAll hp hg.2 hm
        exact ⟨_, _, hc.cons hr, hs.append_right _, ht.append_right _⟩
      · rcases List.mem_append.1 hm with hm | hm
        · obtain ⟨hs, ht⟩ := List.mem_product.1 hm
          exact hapart hs ht
        · obtain ⟨hs, ht⟩ := List.mem_product.1 hm
          obtain ⟨choices, units, hr, hcov, hcov'⟩ := hapart ht hs
          exact ⟨choices, units, hr, hcov', hcov⟩

theorem Branch.exists_covers_pair (hp : ∀ r : ForRange, r.Admits pairs) {wide : Bool}
    {bs : List Branch} (hg : Branch.AllGrammatical wide bs) {s t : Site}
    (hm : (s, t) ∈ Branch.meetsAll bs) :
    ∃ choices units, Runs [] (.branches bs) choices units ∧ Covers pairs [] s units ∧
      Covers pairs [] t units := by
  match bs with
  | [] => cases hm
  | .mk guard body :: rest =>
    obtain ⟨hbody, hlast, hrest⟩ := hg
    rcases List.mem_append.1 hm with hm | hr
    · obtain ⟨choices, units, hr, hcov⟩ := Clause.exists_covers_pairAll hp hbody.2 hm
      cases guard with
      | none => exact ⟨_, _, .otherwise hr, hcov⟩
      | some cond => exact ⟨_, _, .taken hr, hcov⟩
    · cases guard with
      | none =>
        rw [hlast rfl] at hr
        cases hr
      | some cond =>
        obtain ⟨choices, units, hr, hcov⟩ := Branch.exists_covers_pair hp hrest hr
        exact ⟨_, _, .passed hr, hcov⟩

end

end Covers

/-! ## Pairs with all ticks up to a bound -/

/-- The integers up to a bound: those from zero first, as a counter has them. -/
def ticks (bound : Nat) : List Int :=
  (List.range (bound + 1)).map Int.ofNat ++ (List.range bound).map Int.negSucc

theorem nodup_ticks (bound : Nat) : (ticks bound).Nodup := by
  refine List.nodup_append.2 ⟨?_, ?_, ?_⟩
  · exact (List.nodup_range).map fun _ _ => Int.ofNat.inj
  · exact (List.nodup_range).map fun _ _ => Int.negSucc.inj
  · intro a ha b hb
    obtain ⟨m, -, rfl⟩ := List.mem_map.1 ha
    obtain ⟨n, -, rfl⟩ := List.mem_map.1 hb
    exact Int.noConfusion

/-- An integer up to the bound stands somewhere, and where a counter has it. -/
theorem exists_getElem?_ticks {bound : Nat} {n : Int} (h : n.natAbs ≤ bound) :
    ∃ t : Nat, (ticks bound)[t]? = some n ∧ (0 ≤ n → (t : Int) = n) := by
  cases n with
  | ofNat k =>
    have hk : k < bound + 1 := by
      simp only [Int.ofNat_eq_natCast, Int.natAbs_natCast] at h
      omega
    refine ⟨k, ?_, fun _ => rfl⟩
    rw [ticks, List.getElem?_append_left (by simpa using hk)]
    simp [hk]
  | negSucc k =>
    have hk : k < bound := by
      simp only [Int.natAbs_negSucc] at h
      omega
    refine ⟨bound + 1 + k, ?_, fun hn => absurd hn (Int.negSucc_not_nonneg k).1⟩
    rw [ticks, List.getElem?_append_right (by simp)]
    simp [hk]

/-- The turns of a range whose positions are the integers up to a bound. -/
def pairsUpTo (bound : Nat) : List (Value α × Value α) :=
  (ticks bound).map fun n => (.int n, .int 0)

theorem admits_pairsUpTo (bound : Nat) (r : ForRange) :
    r.Admits (pairsUpTo bound : List (Value α × Value α)) :=
  fun _ => ⟨ticks bound, nodup_ticks bound, by simp [pairsUpTo]⟩

/-- A loop has a turn with any tick that it admits. -/
theorem exists_pass {bound : Nat} {f : Frame} {n : Int} (ha : f.Admits n) (h : n.natAbs ≤ bound) :
    ∃ p : Pass α, p.frame = f ∧ p.Among (pairsUpTo bound) ∧ p.tick = .int n := by
  obtain ⟨t, ht, hpos⟩ := exists_getElem?_ticks h
  refine ⟨⟨f.id, f.range, f.index, t, (.int n, .int 0)⟩, rfl, ?_, ?_⟩
  · simp [Pass.Among, pairsUpTo, ht]
  · unfold Pass.tick
    cases hi : f.index with
    | declared name | synthetic name => rfl
    | counter name => exact congrArg Value.int (hpos (ha name hi))

theorem exists_passes {bound : Nat} {frames : List Frame} {numbers : List Int}
    (ha : List.Forall₂ Frame.Admits frames numbers) (h : ∀ n ∈ numbers, n.natAbs ≤ bound) :
    ∃ around : List (Pass α), around.map Pass.frame = frames ∧
      (∀ p ∈ around, p.Among (pairsUpTo bound)) ∧ around.map Pass.tick = numbers.map Value.int := by
  induction ha with
  | nil => exact ⟨[], rfl, by simp, rfl⟩
  | cons hf _ ih =>
    obtain ⟨p, hp, hpa, hpt⟩ := exists_pass hf (h _ List.mem_cons_self)
    obtain ⟨around, hframes, hamong, hticks⟩ := ih fun n hn => h n (List.mem_cons_of_mem _ hn)
    exact ⟨p :: around, by simp [hp, hframes], List.forall_mem_cons.2 ⟨hpa, hamong⟩,
      by simp [hpt, hticks]⟩

/-! ## Hidden index variables -/

/-- If some index variable is hidden, then by the value of its own loop or by a loop inside it. -/
theorem Frame.exists_hidden {loops : List Frame} (h : ¬Frame.areClear loops = true) :
    ∃ inner f outer name, loops = inner ++ f :: outer ∧ f.index = .declared name ∧
      (name = f.range.value ∨ ∃ g ∈ inner, g.binds name = true) := by
  have hdeclared : ∀ {f : Frame} {name : String}, f.declared? = some name →
      f.index = .declared name := by
    intro f name hf
    unfold declared? at hf
    split at hf
    · next other ho =>
      rw [ho, Option.some.inj hf]
    · cases hf
  induction loops with
  | nil => exact absurd rfl h
  | cons f rest ih =>
    simp only [areClear, Bool.and_eq_true, not_and_or] at h
    rcases h with (hself | houter) | hrest
    · obtain ⟨name, hn, he⟩ : ∃ name, f.declared? = some name ∧ name = f.range.value := by
        simpa [Option.all_eq_true] using hself
      exact ⟨[], f, rest, name, rfl, hdeclared hn, .inl he⟩
    · obtain ⟨g, hg, name, hn, hb⟩ : ∃ g ∈ rest, ∃ name, g.declared? = some name ∧
          f.binds name = true := by
        simpa [List.all_eq_true, Option.all_eq_true] using houter
      obtain ⟨front, back, rfl⟩ := List.append_of_mem hg
      exact ⟨f :: front, g, back, name, rfl, hdeclared hn, .inr ⟨f, List.mem_cons_self, hb⟩⟩
    · obtain ⟨inner, g, outer, name, rfl, hi, hh⟩ := ih hrest
      refine ⟨f :: inner, g, outer, name, rfl, hi, hh.imp_right ?_⟩
      rintro ⟨q, hq, hb⟩
      exact ⟨q, List.mem_cons_of_mem _ hq, hb⟩

section Hidden

variable (args : String → Value α) {inner outer : List (Pass α)} {p q : Pass α} {name : String}

/-- Where the index of a turn is hidden, it does not matter what it is. -/
theorem readIn_eq_of_hidden (hf : p.frame = q.frame) (hv : p.pair.2 = q.pair.2)
    (hn : name = p.range.index → name = p.range.value ∨ ∃ r ∈ inner, r.frame.binds name = true) :
    readIn args (inner ++ p :: outer) name = readIn args (inner ++ q :: outer) name := by
  induction inner with
  | nil =>
    have hr : p.range = q.range := congrArg Frame.range hf
    rw [List.nil_append, List.nil_append, readIn_cons, readIn_cons, hv, ← hr]
    split_ifs with hvalue hindex
    · rfl
    · exact absurd (hn hindex) (by simp [hvalue])
    · rfl
  | cons r rest ih =>
    rw [List.cons_append, List.cons_append, readIn_cons, readIn_cons]
    split_ifs with hvalue hindex
    · rfl
    · rfl
    · refine ih fun he => (hn he).imp_right ?_
      rintro ⟨t, ht, hb⟩
      rcases List.mem_cons.1 ht with rfl | ht
      · rw [Frame.binds, Bool.or_eq_true, beq_iff_eq, beq_iff_eq] at hb
        exact hb.elim (fun h => absurd h.symm hvalue) fun h => absurd h.symm hindex
      · exact ⟨t, ht, hb⟩

/-- Where the declared index variable of a turn is hidden, keys do not tell the turn. -/
theorem key_eq_of_hidden (w : World α) (b : Binding) (hf : p.frame = q.frame)
    (hv : p.pair.2 = q.pair.2) (hi : p.index = .declared name) (hname : name = p.range.index)
    (hn : name = p.range.value ∨ ∃ r ∈ inner, r.frame.binds name = true) :
    (⟨b, inner ++ p :: outer⟩ : Bound α).key w args =
      (⟨b, inner ++ q :: outer⟩ : Bound α).key w args := by
  have hread : ∀ other, readIn args (inner ++ p :: outer) other =
      readIn args (inner ++ q :: outer) other := by
    intro other
    refine readIn_eq_of_hidden args hf hv fun he => ?_
    rwa [he, ← hname]
  have hnumber : ∀ r : Pass α, r.number args (inner ++ p :: outer) =
      r.number args (inner ++ q :: outer) := by
    intro r
    unfold Pass.number
    split
    · exact hread _
    · rfl
    · rfl
  have hq : q.index = .declared name := (congrArg Frame.index hf).symm.trans hi
  have hnumbers : (inner ++ p :: outer).reverse.map (Pass.number args (inner ++ p :: outer)) =
      (inner ++ q :: outer).reverse.map (Pass.number args (inner ++ q :: outer)) := by
    have hpq : p.number args (inner ++ p :: outer) = q.number args (inner ++ q :: outer) := by
      simp only [Pass.number, hi, hq]
      exact hread name
    simp only [List.map_reverse, List.map_append, List.map_cons, hpq]
    simp only [funext hnumber]
  have hid : p.id = q.id := congrArg Frame.id hf
  cases inner with
  | nil =>
    simp only [Bound.key, List.nil_append] at hnumbers ⊢
    rw [hnumbers, hid]
  | cons r rest =>
    simp only [Bound.key, List.cons_append] at hnumbers ⊢
    rw [hnumbers]

end Hidden

/-! ## Two values under one key -/

namespace Frame

/-- A turn whose tick is how many turns went before. -/
def pass (f : Frame) (turn : Nat) : Pass α := ⟨f.id, f.range, f.index, turn, (.int turn, .int 0)⟩

theorem among_pass (f : Frame) {turn bound : Nat} (h : turn ≤ bound) :
    (f.pass turn : Pass α).Among (pairsUpTo bound) := by
  obtain ⟨t, ht, hpos⟩ := exists_getElem?_ticks (n := turn) (by simpa using h)
  obtain rfl : t = turn := Int.ofNat_inj.1 (hpos (Int.natCast_nonneg _))
  simp [Pass.Among, pass, pairsUpTo, ht]

/-- A turn of one loop, inside and around the first turns of others. -/
def passes (inner : List Frame) (f : Frame) (outer : List Frame) (turn : Nat) : List (Pass α) :=
  inner.map (pass · 0) ++ f.pass turn :: outer.map (pass · 0)

theorem map_frame_passes (inner : List Frame) (f : Frame) (outer : List Frame) (turn : Nat) :
    (passes inner f outer turn : List (Pass α)).map Pass.frame = inner ++ f :: outer := by
  have hpass : ∀ k, Pass.frame ∘ (fun g : Frame => (g.pass k : Pass α)) = fun g => g := fun _ => rfl
  rw [passes, List.map_append, List.map_cons, List.map_map, List.map_map, hpass, List.map_id',
    List.map_id']
  rfl

theorem among_of_mem_passes {inner outer : List Frame} {f : Frame} {turn bound : Nat}
    (h : turn ≤ bound) {p : Pass α} (hp : p ∈ passes inner f outer turn) :
    p.Among (pairsUpTo bound) := by
  rcases List.mem_append.1 hp with hp | hp
  · obtain ⟨g, -, rfl⟩ := List.mem_map.1 hp
    exact g.among_pass (Nat.zero_le _)
  · rcases List.mem_cons.1 hp with rfl | hp
    · exact f.among_pass h
    · obtain ⟨g, -, rfl⟩ := List.mem_map.1 hp
      exact g.among_pass (Nat.zero_le _)

end Frame

section Collisions

variable {tree : List Clause} {builder : String} {wide : Bool}

/-- Where the index variable of a loop is hidden, a run binds under one key in two of its turns. -/
theorem exists_key_eq_of_hidden (hn : (Clause.numberAll {} builder tree).1 = tree)
    (hg : Clause.AllGrammatical wide tree) {s : Site} (hs : s ∈ Clause.sitesAll [] tree)
    (hc : ¬Frame.areClear s.loops = true) (w : World α) (args : String → Value α) :
    ∃ choices units, Runs [] (.clauses tree) choices units ∧ ∃ b ∈ Written.boundsAll units,
      ∃ d ∈ Written.boundsAll units, b.key w args = d.key w args ∧ b.around ≠ d.around := by
  obtain ⟨inner, f, outer, name, hloops, hi, hidden⟩ := Frame.exists_hidden hc
  have hname : name = f.range.index := by
    obtain ⟨frames, hf, hproper⟩ := Clause.within_of_mem_sitesAll hn hs
    refine (hproper f ?_).2.2.declared hi
    rw [List.append_nil] at hf
    simp [← hf, hloops]
  obtain ⟨⟨choices, units, hr, hcov⟩, -⟩ := Clause.exists_coversAll (admits_pairsUpTo 1) hg
    (show s ∈ Clause.sitesAll (([] : List (Pass α)).map Pass.frame) tree from hs)
  have hmem : ∀ turn ≤ 1, (⟨s.binding, Frame.passes inner f outer turn⟩ : Bound α) ∈
      Written.boundsAll units := by
    intro turn hturn
    refine hcov _ ?_ ⟨_, (List.append_nil _).symm, fun p hp => Frame.among_of_mem_passes hturn hp⟩
    rw [Bound.site, Frame.map_frame_passes, ← hloops]
  refine ⟨choices, units, hr, _, hmem 0 (by omega), _, hmem 1 (by omega), ?_, ?_⟩
  · refine key_eq_of_hidden args w s.binding rfl rfl hi hname (hidden.imp_right ?_)
    rintro ⟨g, hgi, hb⟩
    exact ⟨g.pass 0, List.mem_map_of_mem hgi, hb⟩
  · simp [Frame.passes, Frame.pass]

/-- Where a name outside loops is a key of a loop, a run binds under that key in both places. -/
theorem exists_key_eq_of_prints (hn : (Clause.numberAll {} builder tree).1 = tree)
    (hg : Clause.AllGrammatical wide tree)
    (hclear : ∀ s ∈ Clause.sitesAll [] tree, Frame.areClear s.loops = true) {s t : Site}
    (hm : (s, t) ∈ Clause.meetsAll tree) (hs : s.loops = [])
    (ht : t.Prints s.binding.expr.toList) (w : World α) (args : String → Value α) :
    ∃ choices units, Runs [] (.clauses tree) choices units ∧ ∃ b ∈ Written.boundsAll units,
      ∃ d ∈ Written.boundsAll units, b.key w args = d.key w args ∧ b.around ≠ d.around := by
  obtain ⟨f, outer, numbers, hloops, hadmits, htext⟩ := ht
  have hbound : ∀ n ∈ numbers, n.natAbs ≤ (numbers.map Int.natAbs).sum :=
    fun n hmem => List.le_sum_of_mem (List.mem_map_of_mem hmem)
  obtain ⟨around, hframes, hamong, hticks⟩ := exists_passes (α := α) hadmits hbound
  obtain ⟨choices, units, hr, hcov, hcov'⟩ := Clause.exists_covers_pairAll
    (admits_pairsUpTo (numbers.map Int.natAbs).sum) hg hm
  have hb : (⟨s.binding, []⟩ : Bound α) ∈ Written.boundsAll units :=
    hcov _ (by rw [Bound.site, List.map_nil, ← hs]) ⟨[], rfl, by simp⟩
  have hframes' : around.reverse.map Pass.frame = t.loops := by
    rw [List.map_reverse, hframes, List.reverse_reverse]
  have hd : (⟨t.binding, around.reverse⟩ : Bound α) ∈ Written.boundsAll units :=
    hcov' _ (by rw [Bound.site, hframes'])
      ⟨around.reverse, by simp, fun p hp => hamong p (List.mem_reverse.1 hp)⟩
  obtain ⟨p, rest, hp⟩ : ∃ p rest, around.reverse = p :: rest := by
    refine List.exists_cons_of_ne_nil fun he => ?_
    rw [he, hloops] at hframes'
    cases hframes'
  obtain ⟨numbers', hticks', -, hkey⟩ := Bound.key_eq_printNumbers w args hp
    (proper_of_runs hn hr hd) (hclear _ (mem_sites_of_runs hr _ hd))
  have hsame : numbers' = numbers := by
    rw [List.reverse_reverse, hticks] at hticks'
    exact (List.map_injective_iff.2 (fun _ _ => Value.int.inj) hticks').symm
  have hid : p.id = f.id := by
    rw [hp, hloops, List.map_cons, List.cons.injEq] at hframes'
    exact congrArg Frame.id hframes'.1
  refine ⟨choices, units, hr, _, hb, _, hd, ?_, by simp [hp]⟩
  rw [hkey, hsame, hid]
  exact htext

/-- Where the keys of a tree are not separated, a run binds two values under one key in different
turns, so that the second one overwrites the first one. -/
theorem exists_key_eq (hn : (Clause.numberAll {} builder tree).1 = tree)
    (hg : Clause.AllGrammatical wide tree) (hs : ¬Clause.Separated tree) (w : World α)
    (args : String → Value α) :
    ∃ choices units, Runs [] (.clauses tree) choices units ∧ ∃ b ∈ Written.boundsAll units,
      ∃ d ∈ Written.boundsAll units, b.key w args = d.key w args ∧ b.around ≠ d.around := by
  by_cases hclear : ∀ s ∈ Clause.sitesAll [] tree, Frame.areClear s.loops = true
  · have hplain : ¬∀ p ∈ Clause.meetsAll tree, p.1.loops = [] →
        ¬p.2.Prints p.1.binding.expr.toList := fun h => hs ⟨hclear, h⟩
    simp only [not_forall, not_not] at hplain
    obtain ⟨⟨s, t⟩, hm, hl, hp⟩ := hplain
    exact exists_key_eq_of_prints hn hg hclear hm hl hp w args
  · simp only [not_forall] at hclear
    obtain ⟨s, hs, hc⟩ := hclear
    exact exists_key_eq_of_hidden hn hg hs hc w args

end Collisions

end QueryGen
