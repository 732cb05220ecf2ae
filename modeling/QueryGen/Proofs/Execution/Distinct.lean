import QueryGen.Proofs.Execution.Names
import QueryGen.Proofs.Execution.Sites

/-!
# Keys that tell turns apart

Where the keys of a tree are separated, the values that a run binds under one key are one value.

- `Pass.tick`: what the key of a value prints for a turn, when nothing hides it
  (`number_eq_tick`). It is an integer, and no two turns of a loop have the same one.
- `Work.Encloses`: a run binds inside turns of its own loops, numbered from where it starts.
- `around_eq_of_ticks`: the loops around two bound values and the ticks of their turns tell the
  turns, by induction on the run.
- `meet_of_runs`: a value inside a loop and one outside loops meet in the tree.
- `around_eq_of_key_eq`: the keys tell the turns.
-/

namespace QueryGen

variable {α : Type}

/-! ## What a key prints for a turn -/

/-- The number of a turn: how many went before for a counter, and its position for an index. -/
def Pass.tick (p : Pass α) : Value α :=
  match p.index with
  | .counter _ => .int p.turn
  | _ => p.pair.1

/-- A turn that a run may come to: the index of the loop was chosen for its range, and a position
is an integer. -/
structure Pass.Proper (p : Pass α) : Prop where
  frame : p.frame.Proper
  position : p.range.isPositional = true → ∃ n, p.pair.1 = .int n

/-- The index that a loop declares is its index variable. -/
theorem Frame.Proper.declared {f : Frame} (h : f.Proper) {name : String}
    (hn : f.index = .declared name) : name = f.range.index := by
  obtain ⟨n, n', hi⟩ := h
  rcases Numbering.of_loopIndex hi with ⟨-, he, -⟩ | ⟨-, -, he, -⟩ | ⟨-, -, he, -⟩
  · rw [hn] at he
    cases he
  · rw [hn] at he
    cases he
  · rw [hn] at he
    exact LoopIndex.declared.inj he

/-- A loop that counts its turns is one over something else than positions. -/
theorem Frame.Proper.counter_iff {f : Frame} (h : f.Proper) :
    (∃ name, f.index = .counter name) ↔ f.range.isPositional = false := by
  obtain ⟨n, n', hi⟩ := h
  rcases Numbering.of_loopIndex hi with ⟨hp, he, -⟩ | ⟨hp, -, he, -⟩ | ⟨hp, -, he, -⟩ <;>
    simp [hp, he]

/-- The tick of a turn is an integer that its loop admits. -/
theorem Pass.Proper.exists_tick {p : Pass α} (h : p.Proper) :
    ∃ n : Int, p.tick = .int n ∧ p.frame.Admits n := by
  by_cases hc : ∃ name, p.index = .counter name
  · obtain ⟨name, hname⟩ := hc
    exact ⟨p.turn, by simp [tick, hname], fun _ _ => Int.natCast_nonneg _⟩
  · have hp : p.range.isPositional = true := by
      rw [← Bool.not_eq_false]
      exact fun he => hc (h.frame.counter_iff.2 he)
    obtain ⟨n, hn⟩ := h.position hp
    refine ⟨n, ?_, fun name he => absurd ⟨name, he⟩ hc⟩
    rw [← hn]
    unfold tick
    split
    · next name he => exact absurd ⟨name, he⟩ hc
    · rfl

/-- Where nothing hides an index variable, keys print the ticks. -/
theorem number_eq_tick (args : String → Value α) {around : List (Pass α)}
    (hproper : ∀ p ∈ around, p.frame.Proper)
    (hclear : Frame.areClear (around.map Pass.frame) = true) :
    ∀ p ∈ around, p.number args around = p.tick := by
  induction around with
  | nil => simp
  | cons q rest ih =>
    simp only [List.map_cons, Frame.areClear, Bool.and_eq_true, List.all_eq_true] at hclear
    obtain ⟨⟨hself, houter⟩, hrest⟩ := hclear
    intro p hp
    cases hi : p.index with
    | synthetic name | counter name => simp [Pass.number, Pass.tick, hi]
    | declared name =>
      simp only [Pass.number, Pass.tick, hi, readIn_cons]
      have hname : name = p.range.index := (hproper p hp).declared hi
      rcases List.mem_cons.1 hp with rfl | hp
      · have hne : name ≠ p.range.value := by
          simpa [Frame.declared?, Pass.frame, hi] using hself
        rw [if_neg hne, if_pos hname]
      · have hb := houter _ (List.mem_map_of_mem hp)
        simp only [Frame.declared?, Pass.frame, hi, Option.all_some, Frame.binds, Bool.not_eq_true',
          Bool.or_eq_false_iff, beq_eq_false_iff_ne] at hb
        rw [if_neg (Ne.symm hb.1), if_neg (Ne.symm hb.2)]
        have ho := ih (fun r hr => hproper r (List.mem_cons_of_mem _ hr)) hrest p hp
        simpa [Pass.number, Pass.tick, hi] using ho

/-! ## Turns around a bound value -/

/-- The next turns of a range have other positions. -/
theorem ForRange.Admits.tail {r : ForRange} {pair : Value α × Value α}
    {pairs : List (Value α × Value α)} (h : r.Admits (pair :: pairs)) :
    r.Admits pairs ∧ (r.isPositional = true → ∀ other ∈ pairs, other.1 ≠ pair.1) ∧
      (r.isPositional = true → ∃ n, pair.1 = .int n) := by
  refine ⟨fun hp => ?_, fun hp => ?_, fun hp => ?_⟩ <;> obtain ⟨positions, hd, he⟩ := h hp <;>
    obtain ⟨n, ns, rfl⟩ : ∃ n ns, positions = n :: ns := by
      cases positions with
      | nil => cases he
      | cons n ns => exact ⟨n, ns, rfl⟩
  all_goals
    rw [List.map_cons, List.map_cons, List.cons.injEq] at he
    rw [List.nodup_cons] at hd
  · exact ⟨ns, hd.2, he.2⟩
  · intro other ho heq
    have hmem : other.1 ∈ ns.map Value.int := he.2 ▸ List.mem_map_of_mem ho
    obtain ⟨k, hk, hke⟩ := List.mem_map.1 hmem
    rw [heq, he.1] at hke
    exact hd.1 (Value.int.inj hke ▸ hk)
  · exact ⟨n, he.1⟩

namespace Work

/-- The pairs of a loop that is run are such as its range may have. -/
def Admitted : Work α → Prop
  | passes _ range _ _ _ pairs => range.Admits pairs
  | _ => True

/-- The turns in which a value is bound that a run inside `around` binds: turns of a loop that is
run are those that are left. -/
def Encloses (around : List (Pass α)) (b : Bound α) : Work α → Prop
  | passes id range index _ turn pairs => ∃ inner t pair,
    b.around = inner ++ ⟨id, range, index, t, pair⟩ :: around ∧ turn ≤ t ∧ pair ∈ pairs ∧
      ∀ p ∈ inner, p.range.isPositional = true → ∃ n, p.pair.1 = .int n
  | _ => ∃ inner, b.around = inner ++ around ∧
      ∀ p ∈ inner, p.range.isPositional = true → ∃ n, p.pair.1 = .int n

end Work

/-- A run binds inside the turns around it. -/
theorem encloses_of_runs {around : List (Pass α)} {work : Work α} {choices : List (Choice α)}
    {units : List (Written α)} (h : Runs around work choices units) (ha : work.Admitted) :
    ∀ b ∈ Written.boundsAll units, work.Encloses around b := by
  induction h with
  | done | noBranch | noPass => simp [Written.boundsAll]
  | sql _ ih =>
    intro b hb
    rw [Written.boundsAll_append, List.mem_append, boundsAll_map_written] at hb
    rcases hb with hb | hb
    · obtain ⟨d, -, rfl⟩ := List.mem_map.1 hb
      exact ⟨[], rfl, by simp⟩
    · exact ih trivial b hb
  | branch _ _ ihb ih =>
    intro b hb
    rw [Written.boundsAll_append, List.mem_append] at hb
    rcases hb with hb | hb
    · exact ihb trivial b hb
    · exact ih trivial b hb
  | join _ _ ihb ih =>
    intro b hb
    rcases List.mem_append.1 hb with hb | hb
    · exact ihb trivial b hb
    · exact ih trivial b hb
  | @loop around id builder range index body rest pairs choices more units others hp _ _ ihb ih =>
    intro b hb
    rw [Written.boundsAll_append, List.mem_append] at hb
    rcases hb with hb | hb
    · obtain ⟨inner, t, pair, hi, -, hpair, hpos⟩ := ihb hp b hb
      refine ⟨inner ++ [⟨id, range, index, t, pair⟩], by simp [hi], fun p hmem => ?_⟩
      rcases List.mem_append.1 hmem with hmem | hmem
      · exact hpos p hmem
      · obtain rfl := List.mem_singleton.1 hmem
        intro hr
        obtain ⟨positions, -, he⟩ := hp hr
        obtain ⟨n, -, hn⟩ := List.mem_map.1 (he ▸ List.mem_map_of_mem hpair)
        exact ⟨n, hn.symm⟩
    · exact ih trivial b hb
  | otherwise _ ih | taken _ ih =>
    intro b hb
    exact ih trivial b hb
  | passed _ ih =>
    intro b hb
    exact ih trivial b hb
  | pass _ _ ihb ih =>
    intro b hb
    rw [Written.boundsAll_append, List.mem_append] at hb
    rcases hb with hb | hb
    · obtain ⟨inner, hi, hpos⟩ := ihb trivial b hb
      exact ⟨inner, _, _, hi, le_rfl, List.mem_cons_self, hpos⟩
    · obtain ⟨inner, t, pair, hi, ht, hpair, hpos⟩ := ih ha.tail.1 b hb
      exact ⟨inner, t, pair, hi, by omega, List.mem_cons_of_mem _ hpair, hpos⟩

/-! ## Ticks tell turns -/

namespace Bound

/-- Two values that are bound inside the same loops, in turns with the same ticks, are bound in
the same turns. -/
def Told (b d : Bound α) : Prop :=
  b.site.loops = d.site.loops → b.around.map Pass.tick = d.around.map Pass.tick →
    b.around = d.around

theorem Told.symm {b d : Bound α} (h : b.Told d) : d.Told b :=
  fun hl ht => (h hl.symm ht.symm).symm

/-- A value that is bound inside nothing but `around`. -/
theorem around_eq_of_loops_eq {around : List (Pass α)} {b : Bound α}
    (h : ∃ inner, b.around = inner ++ around) (hl : b.site.loops = around.map Pass.frame) :
    b.around = around := by
  obtain ⟨inner, hi⟩ := h
  have hlen := congrArg List.length hl
  simp only [site, hi, List.length_map, List.length_append] at hlen
  have : inner = [] := List.length_eq_zero_iff.1 (by omega)
  rw [hi, this, List.nil_append]

end Bound

theorem Work.Encloses.exists_inner {around : List (Pass α)} {b : Bound α} {work : Work α}
    (h : work.Encloses around b) : ∃ inner, b.around = inner ++ around := by
  cases work with
  | clauses cs | branches bs =>
    obtain ⟨inner, hi, -⟩ := h
    exact ⟨inner, hi⟩
  | passes id range index body turn pairs =>
    obtain ⟨inner, t, pair, hi, -⟩ := h
    exact ⟨inner ++ [⟨id, range, index, t, pair⟩], by simp [hi]⟩

/-- A run binds at sites of its tree, inside the turns around it. -/
theorem placed_of_runs {around : List (Pass α)} {work : Work α} {choices : List (Choice α)}
    {units : List (Written α)} (h : Runs around work choices units) (ha : work.Admitted) :
    ∀ b ∈ Written.boundsAll units, b.site ∈ work.sites (around.map Pass.frame) ∧
      ∃ inner, b.around = inner ++ around :=
  fun b hb => ⟨mem_sites_of_runs h b hb, (encloses_of_runs h ha b hb).exists_inner⟩

/-- Sites that were numbered one after the other are inside the same loops only if they are right
inside `loops`. -/
theorem Site.Within.eq_of_loops_eq {n n' n'' : Numbering} {loops : List Frame} {s t : Site}
    (hs : s.Within n n' loops) (ht : t.Within n' n'' loops) (h : s.loops = t.loops) :
    s.loops = loops := by
  obtain ⟨inner, hs, hi⟩ := hs
  obtain ⟨inner', ht, hi'⟩ := ht
  rw [hs, ht, List.append_left_inj] at h
  subst h
  cases inner with
  | nil => exact hs
  | cons f rest =>
    have h1 := (hi f List.mem_cons_self).2.1
    have h2 := (hi' f List.mem_cons_self).1
    omega

/-- Ticks tell the turns of a clause and of those behind it, when they do for each. -/
theorem pairwise_told_cons {n : Numbering} {builder : String} {around : List (Pass α)} {c : Clause}
    {rest : List Clause} {first others : List (Bound α)}
    (hn : (Work.clauses (α := α) (c :: rest)).Numbered n builder)
    (hfirst : ∀ b ∈ first, b.site ∈ c.sites (around.map Pass.frame) ∧
      ∃ inner, b.around = inner ++ around)
    (hothers : ∀ b ∈ others, b.site ∈ Clause.sitesAll (around.map Pass.frame) rest ∧
      ∃ inner, b.around = inner ++ around)
    (hb : first.Pairwise Bound.Told) (hr : others.Pairwise Bound.Told) :
    (first ++ others).Pairwise Bound.Told := by
  obtain ⟨hc, hrest⟩ := List.cons.inj hn
  refine List.pairwise_append.2 ⟨hb, hr, fun b hmem d hmem' hl _ => ?_⟩
  obtain ⟨hbs, hbi⟩ := hfirst b hmem
  obtain ⟨hds, hdi⟩ := hothers d hmem'
  have hloops := (Clause.within_of_mem_sites hc hbs).eq_of_loops_eq
    (Clause.within_of_mem_sitesAll hrest hds) hl
  rw [Bound.around_eq_of_loops_eq hbi hloops, Bound.around_eq_of_loops_eq hdi (hl ▸ hloops)]

/-- Different turns of a loop have different ticks. -/
theorem tick_ne {n n' : Numbering} {id turn t : Nat} {range : ForRange} {index : LoopIndex}
    {pair other : Value α × Value α} {pairs : List (Value α × Value α)}
    (hi : n.loopIndex range = (index, n')) (ha : range.Admits (pair :: pairs)) (ht : turn < t)
    (ho : other ∈ pairs) :
    (⟨id, range, index, turn, pair⟩ : Pass α).tick ≠
      (⟨id, range, index, t, other⟩ : Pass α).tick := by
  obtain ⟨-, hne, -⟩ := ha.tail
  rcases Numbering.of_loopIndex hi with ⟨-, rfl, -⟩ | ⟨hp, -, rfl, -⟩ | ⟨hp, -, rfl, -⟩
  · intro he
    have : (turn : Int) = t := Value.int.inj he
    omega
  · exact (hne hp other ho).symm
  · exact (hne hp other ho).symm

/-- Ticks tell the turns of the values that a run binds. -/
theorem pairwise_told_of_runs {around : List (Pass α)} {work : Work α} {choices : List (Choice α)}
    {units : List (Written α)} (h : Runs around work choices units) (ha : work.Admitted)
    {n : Numbering} {builder : String} (hn : work.Numbered n builder) :
    (Written.boundsAll units).Pairwise Bound.Told := by
  induction h generalizing n builder with
  | done | noBranch | noPass => exact .nil
  | @sql around own fragments rest choices units hrest ih =>
    rw [Written.boundsAll_append, boundsAll_map_written, bindings_settled]
    refine pairwise_told_cons hn (fun b hb => ?_)
      (placed_of_runs hrest trivial) ?_ (ih trivial hn.tail)
    · obtain ⟨d, hd, rfl⟩ := List.mem_map.1 hb
      exact ⟨List.mem_map.2 ⟨d, hd, rfl⟩, [], rfl⟩
    · exact List.pairwise_map.2 (List.pairwise_of_forall fun _ _ _ _ => rfl)
  | branch hb hrest ihb ih =>
    rw [Written.boundsAll_append]
    exact pairwise_told_cons hn (placed_of_runs hb trivial) (placed_of_runs hrest trivial)
      (ihb trivial hn.branch) (ih trivial hn.tail)
  | join hb hrest ihb ih =>
    exact pairwise_told_cons hn (placed_of_runs hb trivial) (placed_of_runs hrest trivial)
      (ihb trivial hn.join.2.2) (ih trivial hn.tail)
  | loop hp hb hrest ihb ih =>
    rw [Written.boundsAll_append]
    exact pairwise_told_cons hn (placed_of_runs hb hp) (placed_of_runs hrest trivial)
      (ihb hp (hn.loop _ _)) (ih trivial hn.tail)
  | otherwise _ ih | taken _ ih => exact ih trivial hn.firstBranch
  | passed _ ih => exact ih trivial hn.nextBranch
  | @pass around id range index body turn pair pairs choices more units others hb hrest ihb ih =>
    rw [Written.boundsAll_append]
    obtain ⟨n', hi, hbody⟩ := hn
    refine List.pairwise_append.2 ⟨ihb trivial hbody, ih ha.tail.1 ⟨n', hi, hbody⟩,
      fun b hmem d hmem' hl ht => ?_⟩
    obtain ⟨inner, hbi, -⟩ := encloses_of_runs hb trivial b hmem
    obtain ⟨inner', t, other, hdi, hturn, hother, -⟩ :=
      encloses_of_runs hrest ha.tail.1 d hmem'
    -- Both are right inside turns of this loop, which have different ticks.
    have hlen : inner.length = inner'.length := by
      have := congrArg List.length ht
      simp only [hbi, hdi, List.length_map, List.length_append, List.length_cons] at this
      omega
    rw [hbi, hdi, List.map_append, List.map_append] at ht
    have htick := (List.append_inj ht (by simpa using hlen)).2
    rw [List.map_cons, List.map_cons, List.cons.injEq] at htick
    exact absurd htick.1 (tick_ne hi ha (by omega) hother)

/-- The loops around two values that a run binds and the ticks of their turns tell the turns. -/
theorem around_eq_of_ticks {around : List (Pass α)} {work : Work α} {choices : List (Choice α)}
    {units : List (Written α)} (h : Runs around work choices units) (ha : work.Admitted)
    {n : Numbering} {builder : String} (hn : work.Numbered n builder) {b d : Bound α}
    (hb : b ∈ Written.boundsAll units) (hd : d ∈ Written.boundsAll units) : b.Told d :=
  (pairwise_told_of_runs h ha hn).forall_of_forall_of_flip (fun _ _ _ _ => rfl)
    ((pairwise_told_of_runs h ha hn).imp Bound.Told.symm) hb hd

/-! ## Bindings that meet -/

/-- The pairs of bindings that what is left to run can reach together outside loops. -/
def Work.meets : Work α → List (Site × Site)
  | clauses cs => Clause.meetsAll cs
  | branches bs => Branch.meetsAll bs
  | passes _ _ _ _ _ _ => []

/-- The first value is bound outside loops and the second one inside a loop, at sites that meet. -/
def Bound.Meet (meets : List (Site × Site)) (b d : Bound α) : Prop :=
  b.around = [] → d.around ≠ [] → (b.site, d.site) ∈ meets

theorem meet_cons {c : Clause} {rest : List Clause} {first others : List (Bound α)}
    (hfirst : ∀ b ∈ first, b.site ∈ c.sites [])
    (hothers : ∀ b ∈ others, b.site ∈ Clause.sitesAll [] rest)
    (hf : ∀ b ∈ first, ∀ d ∈ first, b.Meet c.meets d)
    (ho : ∀ b ∈ others, ∀ d ∈ others, b.Meet (Clause.meetsAll rest) d) :
    ∀ b ∈ first ++ others, ∀ d ∈ first ++ others, b.Meet (Clause.meetsAll (c :: rest)) d := by
  intro b hb d hd hbe hde
  rw [Clause.meetsAll]
  rcases List.mem_append.1 hb with hb | hb <;> rcases List.mem_append.1 hd with hd | hd
  · exact List.mem_append_left _ (hf b hb d hd hbe hde)
  · refine List.mem_append_right _ (List.mem_append_right _ (List.mem_append_left _ ?_))
    exact List.mem_product.2 ⟨hfirst b hb, hothers d hd⟩
  · refine List.mem_append_right _ (List.mem_append_right _ (List.mem_append_right _ ?_))
    exact List.mem_product.2 ⟨hothers b hb, hfirst d hd⟩
  · exact List.mem_append_right _ (List.mem_append_left _ (ho b hb d hd hbe hde))

/-- A run that is inside no loop binds at sites that meet. -/
theorem meet_of_runs {around : List (Pass α)} {work : Work α} {choices : List (Choice α)}
    {units : List (Written α)} (h : Runs around work choices units) (ha : work.Admitted)
    (hempty : around = []) :
    ∀ b ∈ Written.boundsAll units, ∀ d ∈ Written.boundsAll units, b.Meet work.meets d := by
  induction h with
  | done | noBranch | noPass => simp [Written.boundsAll]
  | @sql around own fragments rest choices units hrest ih =>
    subst hempty
    rw [Written.boundsAll_append, boundsAll_map_written, bindings_settled]
    refine meet_cons (fun b hb => ?_) (fun b hb => mem_sites_of_runs hrest b hb)
      (fun b _ d hd _ hde => ?_) (ih trivial rfl)
    · obtain ⟨e, he, rfl⟩ := List.mem_map.1 hb
      exact List.mem_map.2 ⟨e, he, rfl⟩
    · obtain ⟨e, -, rfl⟩ := List.mem_map.1 hd
      exact absurd rfl hde
  | branch hb hrest ihb ih =>
    subst hempty
    rw [Written.boundsAll_append]
    exact meet_cons (mem_sites_of_runs hb) (mem_sites_of_runs hrest) (ihb trivial rfl)
      (ih trivial rfl)
  | join hb hrest ihb ih =>
    subst hempty
    exact meet_cons (mem_sites_of_runs hb) (mem_sites_of_runs hrest) (ihb trivial rfl)
      (ih trivial rfl)
  | loop hp hb hrest ihb ih =>
    subst hempty
    rw [Written.boundsAll_append]
    refine meet_cons (mem_sites_of_runs hb) (mem_sites_of_runs hrest) (fun b hmem d _ hbe _ => ?_)
      (ih trivial rfl)
    obtain ⟨inner, t, pair, hi, -⟩ := encloses_of_runs hb hp b hmem
    simp [hi] at hbe
  | otherwise _ ih | taken _ ih =>
    intro b hb d hd hbe hde
    exact List.mem_append_left _ (ih trivial hempty b hb d hd hbe hde)
  | passed _ ih =>
    intro b hb d hd hbe hde
    exact List.mem_append_right _ (ih trivial hempty b hb d hd hbe hde)
  | pass hb hrest _ _ =>
    intro b hmem d _ hbe _
    obtain ⟨inner, t, pair, hi, -⟩ := encloses_of_runs (hb.pass hrest) ha b hmem
    simp [hi] at hbe

/-! ## Keys -/

/-- The ticks of turns are integers that their loops admit. -/
theorem exists_ticks {around : List (Pass α)} (h : ∀ p ∈ around, p.Proper) :
    ∃ numbers : List Int, around.map Pass.tick = numbers.map Value.int ∧
      List.Forall₂ Frame.Admits (around.map Pass.frame) numbers := by
  induction around with
  | nil => exact ⟨[], rfl, .nil⟩
  | cons p rest ih =>
    obtain ⟨n, hn, ha⟩ := (h p List.mem_cons_self).exists_tick
    obtain ⟨numbers, hns, has⟩ := ih fun q hq => h q (List.mem_cons_of_mem _ hq)
    exact ⟨n :: numbers, by simp [hn, hns], .cons ha has⟩

/-- The key of a value that is bound inside loops whose index variables nothing hides. -/
theorem Bound.key_eq_printNumbers (w : World α) (args : String → Value α) {b : Bound α}
    {p : Pass α} {outer : List (Pass α)} (hb : b.around = p :: outer)
    (hproper : ∀ q ∈ b.around, q.Proper) (hclear : Frame.areClear b.site.loops = true) :
    ∃ numbers, b.around.reverse.map Pass.tick = numbers.map Value.int ∧
      List.Forall₂ Frame.Admits b.site.loops.reverse numbers ∧
      b.key w args = printNumbers b.binding.expr p.id numbers := by
  have hproper' : ∀ q ∈ b.around.reverse, q.Proper := fun q hq => hproper q (List.mem_reverse.1 hq)
  obtain ⟨numbers, hticks, hadmits⟩ := exists_ticks hproper'
  refine ⟨numbers, hticks, by simpa [site, List.map_reverse] using hadmits, ?_⟩
  have hnumber : b.around.reverse.map (Pass.number args b.around) = numbers.map Value.int := by
    rw [← hticks]
    exact List.map_congr_left fun q hq =>
      number_eq_tick args (fun r hr => (hproper r hr).frame) hclear q (List.mem_reverse.1 hq)
  rw [← printKey_int w, ← hnumber, key, hb]

section Separated

variable {tree : List Clause} {builder : String} {choices : List (Choice α)}
  {units : List (Written α)} {b d : Bound α}

/-- The turns of a run of a numbered tree have ticks. -/
theorem proper_of_runs (hn : (Clause.numberAll {} builder tree).1 = tree)
    (h : Runs [] (.clauses tree) choices units) (hb : b ∈ Written.boundsAll units) :
    ∀ p ∈ b.around, p.Proper := by
  obtain ⟨inner, hi, hpos⟩ := encloses_of_runs h trivial b hb
  obtain ⟨frames, hf, hproper⟩ := Clause.within_of_mem_sitesAll hn (mem_sites_of_runs h b hb)
  simp only [List.append_nil] at hi
  intro p hp
  have hmem : p.frame ∈ b.site.loops := List.mem_map_of_mem hp
  rw [hf, List.map_nil, List.append_nil] at hmem
  exact ⟨(hproper _ hmem).2.2, hpos p (hi ▸ hp)⟩

/-- A name outside loops is no key of a loop. -/
theorem key_ne_of_around_eq_nil (hn : (Clause.numberAll {} builder tree).1 = tree)
    (hs : Clause.Separated tree) (w : World α) (args : String → Value α)
    (h : Runs [] (.clauses tree) choices units) (hb : b ∈ Written.boundsAll units)
    (hd : d ∈ Written.boundsAll units) (hbe : b.around = []) (hde : d.around ≠ []) :
    b.key w args ≠ d.key w args := by
  obtain ⟨p, outer, hdo⟩ := List.exists_cons_of_ne_nil hde
  obtain ⟨numbers, -, hadmits, hkey⟩ := Bound.key_eq_printNumbers w args hdo
    (proper_of_runs hn h hd) (hs.clear _ (mem_sites_of_runs h d hd))
  intro he
  refine hs.plain _ (meet_of_runs h trivial rfl b hb d hd hbe hde) (by simp [Bound.site, hbe]) ?_
  have hplain : b.key w args = b.binding.expr.toList := by rw [Bound.key, hbe]
  exact ⟨p.frame, outer.map Pass.frame, numbers, by simp [Bound.site, hdo], hadmits,
    hplain.symm.trans (he.trans hkey)⟩

/-- Where the keys of a tree are separated, values with one key are bound in the same turns, and
they are the value of one expression. -/
theorem around_eq_of_key_eq (hn : (Clause.numberAll {} builder tree).1 = tree)
    (hs : Clause.Separated tree) (w : World α) (args : String → Value α)
    (h : Runs [] (.clauses tree) choices units) (hb : b ∈ Written.boundsAll units)
    (hd : d ∈ Written.boundsAll units) (hk : b.key w args = d.key w args) :
    b.around = d.around ∧ b.binding.expr = d.binding.expr := by
  cases hbe : b.around with
  | nil =>
    cases hde : d.around with
    | nil =>
      rw [Bound.key, Bound.key, hbe, hde] at hk
      exact ⟨rfl, String.toList_inj.1 hk⟩
    | cons p outer =>
      exact absurd hk (key_ne_of_around_eq_nil hn hs w args h hb hd hbe (by simp [hde]))
  | cons p outer =>
    cases hde : d.around with
    | nil => exact absurd hk.symm (key_ne_of_around_eq_nil hn hs w args h hd hb hde (by simp [hbe]))
    | cons q others =>
      have hbsite := mem_sites_of_runs h b hb
      have hdsite := mem_sites_of_runs h d hd
      obtain ⟨numbers, hticks, -, hkey⟩ := Bound.key_eq_printNumbers w args hbe
        (proper_of_runs hn h hb) (hs.clear _ hbsite)
      obtain ⟨numbers', hticks', -, hkey'⟩ := Bound.key_eq_printNumbers w args hde
        (proper_of_runs hn h hd) (hs.clear _ hdsite)
      obtain ⟨hexpr, hid, hnumbers⟩ := printNumbers_inj (hkey.symm.trans (hk.trans hkey'))
      have hbl : b.site.loops = p.frame :: outer.map Pass.frame := by simp [Bound.site, hbe]
      have hdl : d.site.loops = q.frame :: others.map Pass.frame := by simp [Bound.site, hde]
      have hloops := Clause.loops_eq_of_id_eqAll hn (by simp) hbsite hdsite hbl hdl hid
      have hsame : b.around.map Pass.tick = d.around.map Pass.tick := by
        rw [← hnumbers, ← hticks, List.map_reverse, List.map_reverse] at hticks'
        exact (List.reverse_injective hticks').symm
      have haround := around_eq_of_ticks h trivial hn hb hd hloops hsame
      rw [hbe, hde] at haround
      exact ⟨haround, hexpr⟩

end Separated

end QueryGen
