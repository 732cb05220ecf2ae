import QueryGen.Proofs.Execution.Variables

/-!
# Places where values are bound

- `Frame`, `Site`: a loop of a tree, and a binding inside loops.
- `Clause.sites`: the bindings of a clause with the loops around them.
- `Clause.meets`: pairs of bindings of different clauses that one run can reach outside loops.
- `Frame.areClear`, `Clause.Separated`: no key loses an index variable to an inner loop, and no name
  that is bound outside loops looks like a key of a loop.
- `mem_sites_of_runs`: a run binds at sites of its tree, inside turns of their loops.
- `Clause.within_of_mem_sites`, `Clause.loops_eq_of_id_eq`: numbers tell loops apart.
-/

namespace QueryGen

variable {α : Type}

/-! ## Sites -/

/-- A loop around a binding. -/
structure Frame where
  id : Nat
  range : ForRange
  index : LoopIndex
deriving DecidableEq

/-- A binding and the loops around it, the innermost first. -/
structure Site where
  binding : Binding
  loops : List Frame
deriving DecidableEq

mutual

/-- The bindings of a clause inside the given loops. -/
def Clause.sites (loops : List Frame) : Clause → List Site
  | .sql _ fragments => (bindingsOf fragments).map fun b => ⟨b, loops⟩
  | .branch _ _ body otherwise => Clause.sitesAll loops body ++ Branch.sitesAll loops otherwise
  | .join _ _ _ body => Clause.sitesAll loops body
  | .loop id _ range index body => Clause.sitesAll (⟨id, range, index⟩ :: loops) body

/-- The bindings of clauses inside the given loops. -/
def Clause.sitesAll (loops : List Frame) : List Clause → List Site
  | [] => []
  | c :: rest => c.sites loops ++ Clause.sitesAll loops rest

/-- The bindings of branches inside the given loops. -/
def Branch.sitesAll (loops : List Frame) : List Branch → List Site
  | [] => []
  | .mk _ body :: rest => Clause.sitesAll loops body ++ Branch.sitesAll loops rest

end

mutual

/-- Pairs of bindings in different parts of a clause that one run can reach, before it enters a
loop with both of them. Only one branch of an `if` is run. -/
def Clause.meets : Clause → List (Site × Site)
  | .sql _ _ => []
  | .branch _ _ body otherwise => Clause.meetsAll body ++ Branch.meetsAll otherwise
  | .join _ _ _ body => Clause.meetsAll body
  | .loop _ _ _ _ _ => []

/-- Pairs of bindings in different parts of clauses. -/
def Clause.meetsAll : List Clause → List (Site × Site)
  | [] => []
  | c :: rest => c.meets ++ (Clause.meetsAll rest ++
    (c.sites [] ×ˢ Clause.sitesAll [] rest ++ Clause.sitesAll [] rest ×ˢ c.sites []))

/-- Pairs of bindings in one branch. -/
def Branch.meetsAll : List Branch → List (Site × Site)
  | [] => []
  | .mk _ body :: rest => Clause.meetsAll body ++ Branch.meetsAll rest

end

/-! ## Keys that stay apart -/

namespace Frame

/-- The index variable that keys print, if the loop declares it itself. -/
def declared? (f : Frame) : Option String :=
  match f.index with
  | .declared name => some name
  | _ => none

/-- Whether a loop binds a name. -/
def binds (f : Frame) (name : String) : Bool := f.range.value == name || f.range.index == name

/-- Whether every loop shows its declared index to what it is around: its value has another name,
and no loop inside binds the name again. -/
def areClear : List Frame → Bool
  | [] => true
  | f :: outer =>
    f.declared?.all (· ≠ f.range.value) && outer.all (fun g => g.declared?.all (!f.binds ·)) &&
      areClear outer

/-- A number that can tell the turns of a loop apart: a counter starts at zero. -/
def Admits (f : Frame) (n : Int) : Prop := ∀ name, f.index = .counter name → 0 ≤ n

end Frame

/-- A text that is the key of a site in some turns of its loops. -/
def Site.Prints (s : Site) (text : List Char) : Prop :=
  ∃ f outer numbers, s.loops = f :: outer ∧ List.Forall₂ Frame.Admits s.loops.reverse numbers ∧
    text = printNumbers s.binding.expr f.id numbers

/-- The keys of a tree stay apart. -/
structure Clause.Separated (tree : List Clause) : Prop where
  /-- Every key is printed with the index variables of its own loops. -/
  clear : ∀ s ∈ Clause.sitesAll [] tree, Frame.areClear s.loops = true
  /-- No name outside loops is the key of a binding in a loop that the same run reaches. -/
  plain : ∀ p ∈ Clause.meetsAll tree, p.1.loops = [] → ¬p.2.Prints p.1.binding.expr.toList

/-! ## Runs and sites -/

def Pass.frame (p : Pass α) : Frame := ⟨p.id, p.range, p.index⟩

/-- Where a value is bound. -/
def Bound.site (b : Bound α) : Site := ⟨b.binding, b.around.map Pass.frame⟩

/-- The bindings of what is left to run. -/
def Work.sites (loops : List Frame) : Work α → List Site
  | clauses cs => Clause.sitesAll loops cs
  | branches bs => Branch.sitesAll loops bs
  | passes id range index body _ _ => Clause.sitesAll (⟨id, range, index⟩ :: loops) body

/-- A run binds at sites of its tree. -/
theorem mem_sites_of_runs {around : List (Pass α)} {work : Work α} {choices : List (Choice α)}
    {units : List (Written α)} (h : Runs around work choices units) :
    ∀ b ∈ Written.boundsAll units, b.site ∈ work.sites (around.map Pass.frame) := by
  induction h with
  | done | noBranch | noPass => simp [Written.boundsAll]
  | sql _ ih =>
    intro b hb
    rw [Written.boundsAll_append, List.mem_append, boundsAll_map_written, bindings_settled] at hb
    rcases hb with hb | hb
    · obtain ⟨d, hd, rfl⟩ := List.mem_map.1 hb
      exact List.mem_append_left _ (List.mem_map.2 ⟨d, hd, rfl⟩)
    · exact List.mem_append_right _ (ih b hb)
  | branch _ _ ihb ih =>
    intro b hb
    rw [Written.boundsAll_append, List.mem_append] at hb
    rcases hb with hb | hb
    · exact List.mem_append_left _ (ihb b hb)
    · exact List.mem_append_right _ (ih b hb)
  | join _ _ ihb ih =>
    intro b hb
    rcases List.mem_append.1 hb with hb | hb
    · exact List.mem_append_left _ (ihb b hb)
    · exact List.mem_append_right _ (ih b hb)
  | loop _ _ _ ihb ih =>
    intro b hb
    rw [Written.boundsAll_append, List.mem_append] at hb
    rcases hb with hb | hb
    · exact List.mem_append_left _ (ihb b hb)
    · exact List.mem_append_right _ (ih b hb)
  | otherwise _ ih | taken _ ih =>
    intro b hb
    exact List.mem_append_left _ (ih b hb)
  | passed _ ih =>
    intro b hb
    exact List.mem_append_right _ (ih b hb)
  | pass _ _ ihb ih =>
    intro b hb
    rw [Written.boundsAll_append, List.mem_append] at hb
    rcases hb with hb | hb
    · exact ihb b hb
    · exact ih b hb

/-! ## Numbers of loops -/

/-- The index of a loop was chosen for its range. -/
def Frame.Proper (f : Frame) : Prop := ∃ n n' : Numbering, n.loopIndex f.range = (f.index, n')

/-- The loops of a site inside `loops`, those that were numbered from `n` to `n'` first. -/
def Site.Within (n n' : Numbering) (loops : List Frame) (s : Site) : Prop :=
  ∃ inner, s.loops = inner ++ loops ∧
    ∀ f ∈ inner, n.loopIds ≤ f.id ∧ f.id < n'.loopIds ∧ f.Proper

theorem Site.Within.mono {n₁ n₂ n₃ n₄ : Numbering} {loops : List Frame} {s : Site}
    (h : s.Within n₂ n₃ loops) (h₁ : n₁.loopIds ≤ n₂.loopIds) (h₂ : n₃.loopIds ≤ n₄.loopIds) :
    s.Within n₁ n₄ loops := by
  obtain ⟨inner, hs, hi⟩ := h
  exact ⟨inner, hs, fun f hf => ⟨h₁.trans (hi f hf).1, (hi f hf).2.1.trans_le h₂, (hi f hf).2.2⟩⟩

mutual

theorem Clause.within_of_mem_sites {n : Numbering} {builder : String} {c : Clause}
    (hn : (c.number n builder).1 = c) {loops : List Frame} {s : Site} (hs : s ∈ c.sites loops) :
    s.Within n (c.number n builder).2 loops := by
  match c with
  | .sql _ fragments =>
    obtain ⟨b, -, rfl⟩ := List.mem_map.1 hs
    exact ⟨[], rfl, by simp⟩
  | .branch _ cond body otherwise =>
    rw [Clause.number, Clause.branch.injEq] at hn
    have hg := Clause.grows_numberAll n builder body
    have hg' := Branch.grows_numberAll (Clause.numberAll n builder body).2 builder otherwise
    rcases List.mem_append.1 hs with hs | hs
    · exact (Clause.within_of_mem_sitesAll hn.2.2.1 hs).mono le_rfl hg'.ids
    · exact (Branch.within_of_mem_sitesAll hn.2.2.2 hs).mono hg.ids le_rfl
  | .join kind own _ body =>
    rw [Clause.number, Clause.join.injEq] at hn
    exact (Clause.within_of_mem_sitesAll hn.2.2.2 hs).mono (n.grows_nextJoin kind).ids le_rfl
  | .loop id _ range index body =>
    rw [Clause.number, Clause.loop.injEq] at hn
    obtain ⟨hid, -, -, hindex, hbody⟩ := hn
    obtain ⟨inner, hl, hi⟩ := Clause.within_of_mem_sitesAll hbody hs
    have hg := Clause.grows_numberAll ((n.nextLoop.2.loopIndex range).2.pushLoop n.nextLoop.1
      (n.nextLoop.2.loopIndex range).1.name) builder body
    have hg' := n.nextLoop.2.grows_loopIndex range
    have hlt : n.loopIds < (n.nextLoop.2.loopIndex range).2.loopIds :=
      (Nat.lt_succ_self _).trans_le hg'.ids
    refine ⟨inner ++ [⟨id, range, index⟩], by rw [hl, List.append_assoc]; rfl, fun f hf => ?_⟩
    rcases List.mem_append.1 hf with hf | hf
    · obtain ⟨h1, h2, h3⟩ := hi f hf
      exact ⟨hlt.le.trans h1, h2, h3⟩
    · obtain rfl : f = ⟨id, range, index⟩ := by simpa using hf
      subst hid
      exact ⟨le_rfl, hlt.trans_le hg.ids, _, _, Prod.ext hindex rfl⟩

/-- The loops around a site in numbered clauses have the numbers of those clauses. -/
theorem Clause.within_of_mem_sitesAll {n : Numbering} {builder : String} {cs : List Clause}
    (hn : (Clause.numberAll n builder cs).1 = cs) {loops : List Frame} {s : Site}
    (hs : s ∈ Clause.sitesAll loops cs) : s.Within n (Clause.numberAll n builder cs).2 loops := by
  match cs with
  | [] => cases hs
  | c :: rest =>
    obtain ⟨hc, hrest⟩ := List.cons.inj hn
    have hg := Clause.grows_number n builder c
    have hg' := Clause.grows_numberAll (c.number n builder).2 builder rest
    rcases List.mem_append.1 hs with hs | hs
    · exact (Clause.within_of_mem_sites hc hs).mono le_rfl hg'.ids
    · exact (Clause.within_of_mem_sitesAll hrest hs).mono hg.ids le_rfl

theorem Branch.within_of_mem_sitesAll {n : Numbering} {builder : String} {bs : List Branch}
    (hn : (Branch.numberAll n builder bs).1 = bs) {loops : List Frame} {s : Site}
    (hs : s ∈ Branch.sitesAll loops bs) : s.Within n (Branch.numberAll n builder bs).2 loops := by
  match bs with
  | [] => cases hs
  | .mk cond body :: rest =>
    obtain ⟨hb, hrest⟩ := List.cons.inj hn
    rw [Branch.mk.injEq] at hb
    have hg := Clause.grows_numberAll n builder body
    have hg' := Branch.grows_numberAll (Clause.numberAll n builder body).2 builder rest
    rcases List.mem_append.1 hs with hs | hs
    · exact (Clause.within_of_mem_sitesAll hb.2 hs).mono le_rfl hg'.ids
    · exact (Branch.within_of_mem_sitesAll hrest hs).mono hg.ids le_rfl

end

/-- Sites that were numbered one after the other have the same innermost loop only if they are
both right inside `loops`. -/
theorem Site.Within.eq_of_id_eq {n n' n'' : Numbering} {loops outer outer' : List Frame}
    {s t : Site} {f g : Frame} (hs : s.Within n n' loops) (ht : t.Within n' n'' loops)
    (hlt : ∀ h ∈ loops, h.id < n.loopIds) (hn : n.loopIds ≤ n'.loopIds)
    (hf : s.loops = f :: outer) (hg : t.loops = g :: outer')
    (hid : f.id = g.id) : s.loops = t.loops := by
  obtain ⟨inner, hs, hi⟩ := hs
  obtain ⟨inner', ht, hi'⟩ := ht
  cases inner with
  | nil =>
    cases inner' with
    | nil => rw [hs, ht]
    | cons h rest =>
      rw [ht, List.cons_append, List.cons.injEq] at hg
      have hmem : f ∈ loops := by
        rw [List.nil_append] at hs
        rw [← hs, hf]
        exact List.mem_cons_self
      have h1 := hlt f hmem
      have h2 := (hi' h List.mem_cons_self).1
      rw [hg.1] at h2
      omega
  | cons h rest =>
    rw [hs, List.cons_append, List.cons.injEq] at hf
    have h1 := hi h List.mem_cons_self
    rw [hf.1] at h1
    cases inner' with
    | nil =>
      have hmem : g ∈ loops := by
        rw [List.nil_append] at ht
        rw [← ht, hg]
        exact List.mem_cons_self
      have h2 := hlt g hmem
      omega
    | cons k rest' =>
      rw [ht, List.cons_append, List.cons.injEq] at hg
      have h2 := (hi' k List.mem_cons_self).1
      rw [hg.1] at h2
      omega

mutual

theorem Clause.loops_eq_of_id_eq {n : Numbering} {builder : String} {c : Clause}
    (hn : (c.number n builder).1 = c) {loops outer outer' : List Frame} {s t : Site} {f g : Frame}
    (hlt : ∀ h ∈ loops, h.id < n.loopIds) (hs : s ∈ c.sites loops) (ht : t ∈ c.sites loops)
    (hf : s.loops = f :: outer) (hg : t.loops = g :: outer') (hid : f.id = g.id) :
    s.loops = t.loops := by
  match c with
  | .sql _ fragments =>
    obtain ⟨b, -, rfl⟩ := List.mem_map.1 hs
    obtain ⟨d, -, rfl⟩ := List.mem_map.1 ht
    rfl
  | .branch _ cond body otherwise =>
    rw [Clause.number, Clause.branch.injEq] at hn
    have hi := (Clause.grows_numberAll n builder body).ids
    rcases List.mem_append.1 hs with hs | hs <;> rcases List.mem_append.1 ht with ht | ht
    · exact Clause.loops_eq_of_id_eqAll hn.2.2.1 hlt hs ht hf hg hid
    · exact (Clause.within_of_mem_sitesAll hn.2.2.1 hs).eq_of_id_eq
        (Branch.within_of_mem_sitesAll hn.2.2.2 ht) hlt hi hf hg hid
    · exact ((Clause.within_of_mem_sitesAll hn.2.2.1 ht).eq_of_id_eq
        (Branch.within_of_mem_sitesAll hn.2.2.2 hs) hlt hi hg hf hid.symm).symm
    · exact Branch.loops_eq_of_id_eqAll hn.2.2.2 (fun h hh => (hlt h hh).trans_le hi) hs ht hf hg
        hid
  | .join kind own _ body =>
    rw [Clause.number, Clause.join.injEq] at hn
    exact Clause.loops_eq_of_id_eqAll hn.2.2.2
      (fun h hh => (hlt h hh).trans_le (n.grows_nextJoin kind).ids) hs ht hf hg hid
  | .loop id _ range index body =>
    rw [Clause.number, Clause.loop.injEq] at hn
    obtain ⟨hi, -, -, -, hbody⟩ := hn
    have hl : n.loopIds < (n.nextLoop.2.loopIndex range).2.loopIds :=
      (Nat.lt_succ_self _).trans_le (n.nextLoop.2.grows_loopIndex range).ids
    refine Clause.loops_eq_of_id_eqAll hbody (List.forall_mem_cons.2 ⟨?_, fun h hh => ?_⟩)
      hs ht hf hg hid
    · rw [← hi]
      exact hl
    · exact (hlt h hh).trans hl

/-- Two sites with the same innermost loop are inside the same loops. -/
theorem Clause.loops_eq_of_id_eqAll {n : Numbering} {builder : String} {cs : List Clause}
    (hn : (Clause.numberAll n builder cs).1 = cs) {loops outer outer' : List Frame} {s t : Site}
    {f g : Frame} (hlt : ∀ h ∈ loops, h.id < n.loopIds) (hs : s ∈ Clause.sitesAll loops cs)
    (ht : t ∈ Clause.sitesAll loops cs) (hf : s.loops = f :: outer) (hg : t.loops = g :: outer')
    (hid : f.id = g.id) : s.loops = t.loops := by
  match cs with
  | [] => cases hs
  | c :: rest =>
    obtain ⟨hc, hrest⟩ := List.cons.inj hn
    have hi := (Clause.grows_number n builder c).ids
    rcases List.mem_append.1 hs with hs | hs <;> rcases List.mem_append.1 ht with ht | ht
    · exact Clause.loops_eq_of_id_eq hc hlt hs ht hf hg hid
    · exact (Clause.within_of_mem_sites hc hs).eq_of_id_eq
        (Clause.within_of_mem_sitesAll hrest ht) hlt hi hf hg hid
    · exact ((Clause.within_of_mem_sites hc ht).eq_of_id_eq
        (Clause.within_of_mem_sitesAll hrest hs) hlt hi hg hf hid.symm).symm
    · exact Clause.loops_eq_of_id_eqAll hrest (fun h hh => (hlt h hh).trans_le hi) hs ht hf hg hid

theorem Branch.loops_eq_of_id_eqAll {n : Numbering} {builder : String} {bs : List Branch}
    (hn : (Branch.numberAll n builder bs).1 = bs) {loops outer outer' : List Frame} {s t : Site}
    {f g : Frame} (hlt : ∀ h ∈ loops, h.id < n.loopIds) (hs : s ∈ Branch.sitesAll loops bs)
    (ht : t ∈ Branch.sitesAll loops bs) (hf : s.loops = f :: outer) (hg : t.loops = g :: outer')
    (hid : f.id = g.id) : s.loops = t.loops := by
  match bs with
  | [] => cases hs
  | .mk cond body :: rest =>
    obtain ⟨hb, hrest⟩ := List.cons.inj hn
    rw [Branch.mk.injEq] at hb
    have hi := (Clause.grows_numberAll n builder body).ids
    rcases List.mem_append.1 hs with hs | hs <;> rcases List.mem_append.1 ht with ht | ht
    · exact Clause.loops_eq_of_id_eqAll hb.2 hlt hs ht hf hg hid
    · exact (Clause.within_of_mem_sitesAll hb.2 hs).eq_of_id_eq
        (Branch.within_of_mem_sitesAll hrest ht) hlt hi hf hg hid
    · exact ((Clause.within_of_mem_sitesAll hb.2 ht).eq_of_id_eq
        (Branch.within_of_mem_sitesAll hrest hs) hlt hi hg hf hid.symm).symm
    · exact Branch.loops_eq_of_id_eqAll hrest (fun h hh => (hlt h hh).trans_le hi) hs ht hf hg hid

end

end QueryGen
