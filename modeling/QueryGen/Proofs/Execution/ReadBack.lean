import QueryGen.Proofs.Execution.Follow
import QueryGen.Proofs.Statement.Neighbours
import QueryGen.Proofs.Template.Delimiting

/-!
# Reading placeholders back

The text that a SQL clause writes has a placeholder for every value. Read as a template is read,
the placeholders should give the keys of the values again.

- `Machine.shown`: a text that is written, character by character, with a gap for every identifier
  that is quoted when the code runs.
- `references`: the names behind the signs of references in such a text.
- `ReadsBack`: the names are the keys of the values, in their order.
- `references_settled`: blanks at the ends of a clause do not matter.
- `references_fragments_iff`: what it takes to read fragments back, by induction on them.
- `isName_key`: keys with integers for their index variables are names.
- `compile_readsBack_iff`: the templates that are read back, and why the others are not.
  `Placeholders` has one of each kind.
-/

namespace QueryGen

open Template (BindStyle DotsOnly IsName Options Scope isNameChar splitName)

variable {α : Type}

/-! ## References in a text -/

/-- The characters before the first gap. -/
def leading : List (Option Char) → List Char
  | some c :: rest => c :: leading rest
  | _ => []

/-- The names of the references in a text, each read as in a template. No name has the sign of a
reference in it, so the next one is looked for right behind the sign (`references_name`). -/
def references : List (Option Char) → List (List Char)
  | [] => []
  | none :: rest => references rest
  | some c :: rest =>
    if c = '@' then (splitName (leading rest)).1 :: references rest else references rest

theorem isNameChar_at : isNameChar '@' = false := by decide

theorem references_append_of_notMem {cs : List Char} (h : '@' ∉ cs) (text : List (Option Char)) :
    references (cs.map some ++ text) = references text := by
  induction cs with
  | nil => rfl
  | cons c rest ih =>
    rw [List.mem_cons, not_or] at h
    rw [List.map_cons, List.cons_append, references, if_neg (Ne.symm h.1), ih h.2]

/-- The name of a reference holds no other one. -/
theorem references_name (text : List (Option Char)) :
    references text = references (text.drop (splitName (leading text)).1.length) := by
  have hlead : ∃ rest, text = (leading text).map some ++ rest := by
    induction text with
    | nil => exact ⟨[], rfl⟩
    | cons u rest ih =>
      obtain ⟨more, hm⟩ := ih
      cases u with
      | none => exact ⟨none :: rest, rfl⟩
      | some c => exact ⟨more, by rw [leading, List.map_cons, List.cons_append, ← hm]⟩
  obtain ⟨rest, ht⟩ := hlead
  have hname := Template.append_splitName (leading text)
  have hat : '@' ∉ (splitName (leading text)).1 := fun hm => by
    have hc := Template.isNameChar_splitName (leading text) '@' hm
    rw [isNameChar_at] at hc
    cases hc
  have hcut : text = (splitName (leading text)).1.map some ++
      ((splitName (leading text)).2.map some ++ rest) := by
    rw [← List.append_assoc, ← List.map_append, hname]
    exact ht
  generalize (splitName (leading text)).1 = name at hat hcut ⊢
  rw [hcut, references_append_of_notMem hat, List.drop_left' (by simp)]

/-- There is a name for each sign. -/
theorem length_references (text : List (Option Char)) :
    (references text).length = text.count (some '@') := by
  induction text with
  | nil => rfl
  | cons u rest ih =>
    cases u with
    | none => simp [references, ih]
    | some c =>
      by_cases hc : c = '@'
      · subst hc
        simp [references, ih]
      · simp [references, hc, ih]

theorem leading_append_map (cs : List Char) (text : List (Option Char)) :
    leading (cs.map some ++ text) = cs ++ leading text := by
  induction cs with
  | nil => rfl
  | cons c rest ih => rw [List.map_cons, List.cons_append, leading, ih, List.cons_append]

/-! ## Blanks at the ends -/

theorem splitName_append_of_blank {cs more : List Char}
    (h : ∀ c ∈ more.head?, isNameChar c = false) :
    (splitName (cs ++ more)).1 = (splitName cs).1 := by
  have htake : (cs ++ more).takeWhile isNameChar = cs.takeWhile isNameChar := by
    have hmore : more.takeWhile isNameChar = [] := by
      cases more with
      | nil => rfl
      | cons c rest => exact List.takeWhile_cons_of_neg (by simp [h c rfl])
    rw [List.takeWhile_append]
    split
    · next he => rw [hmore, List.append_nil, (List.takeWhile_prefix _).eq_of_length he]
    · rfl
  rw [splitName, splitName, htake]

theorem not_isNameChar_of_isBlank {c : Char} (h : Text.isBlank c = true) :
    isNameChar c = false := by
  cases hn : isNameChar c with
  | false => rfl
  | true =>
    rw [Template.isBlank_of_isNameChar hn] at h
    cases h

theorem ne_at_of_isBlank {c : Char} (h : Text.isBlank c = true) : c ≠ '@' := by
  rintro rfl
  exact absurd h (by decide)

/-- Blanks behind a text end a name, as the end of the text does. -/
theorem references_append_blanks (text : List (Option Char)) {cs : List Char}
    (h : ∀ c ∈ cs, Text.isBlank c = true) :
    references (text ++ cs.map some) = references text := by
  have hat : '@' ∉ cs := fun hc => ne_at_of_isBlank (h '@' hc) rfl
  have hlead : ∀ text : List (Option Char),
      ∃ more, leading (text ++ cs.map some) = leading text ++ more ∧
        ∀ c ∈ more.head?, isNameChar c = false := by
    intro text
    induction text with
    | nil =>
      refine ⟨cs, by simpa [leading] using leading_append_map cs [], fun c hc => ?_⟩
      exact not_isNameChar_of_isBlank (h c (List.mem_of_mem_head? hc))
    | cons u rest ih =>
      obtain ⟨more, hm, hn⟩ := ih
      cases u with
      | none => exact ⟨[], rfl, by simp⟩
      | some c => exact ⟨more, by rw [List.cons_append, leading, hm]; rfl, hn⟩
  induction text with
  | nil =>
    have hnil := references_append_of_notMem hat []
    rwa [List.append_nil] at hnil
  | cons u rest ih =>
    cases u with
    | none => rw [List.cons_append, references, references, ih]
    | some c =>
      obtain ⟨more, hm, hn⟩ := hlead rest
      rw [List.cons_append, references, references, ih, hm, splitName_append_of_blank hn]

/-! ## The text of a clause -/

/-- A unit that is written, with a gap for an identifier that is quoted. -/
def Atom.shown (w : World α) (m : Machine α) : Atom → List (Option Char)
  | char c => [some c]
  | key k => (m.key w k).map some
  | quote _ _ => [none]

/-- The text of an operand, with a gap for an identifier that is quoted. -/
def Machine.shown (w : World α) (m : Machine α) : Operand → List (Option Char)
  | .text cs => cs.map some
  | .key k => (m.key w k).map some
  | .quote _ _ => [none]

/-- What a mark is shown as when values are named. -/
def Mark.shown (w : World α) (m : Machine α) : Mark → List (Option Char)
  | char c => [some c]
  | bound b => some '@' :: (m.key w b.key.key).map some
  | quoted _ => [none]

/-- What a fragment is shown as when values are named. -/
def Fragment.shown (w : World α) (m : Machine α) : Fragment → List (Option Char)
  | text t => t.toList.map some
  | bind b => some '@' :: (m.key w b.key.key).map some
  | quote _ => [none]

/-- The text that the SQL clause writes gives the keys of its values again. -/
def ReadsBack (w : World α) (opts : Options) (m : Machine α) (fragments : List Fragment) : Prop :=
  references ((operandsOf opts fragments).flatMap (m.shown w)) =
    (bindingsOf fragments).map fun b => m.key w b.key.key

section Shown

variable (w : World α) (m : Machine α)

theorem flatMap_shown_eq (operands : List Operand) :
    operands.flatMap (m.shown w) = (operands.flatMap Operand.atoms).flatMap (Atom.shown w m) := by
  rw [List.flatMap_assoc]
  refine List.flatMap_congr fun o _ => ?_
  cases o with
  | text cs => simp [Machine.shown, Operand.atoms, Atom.shown, List.flatMap_map, ← List.map_eq_flatMap]
  | key k | quote receiver expr => simp [Machine.shown, Operand.atoms, Atom.shown]

theorem flatMap_shown_atoms {opts : Options} (hs : opts.bindStyle = .named) (marks : List Mark) :
    (marks.flatMap (Mark.atoms opts)).flatMap (Atom.shown w m) =
      marks.flatMap (Mark.shown w m) := by
  rw [List.flatMap_assoc]
  refine List.flatMap_congr fun mark _ => ?_
  cases mark with
  | char c | quoted expr => rfl
  | bound b =>
    cases hk : b.key.key with
    | plain name =>
      simp [Mark.atoms, Mark.shown, hs, hk, Atom.shown, Machine.key, List.flatMap_map,
        ← List.map_eq_flatMap]
    | formatted name loopId indices => simp [Mark.atoms, Mark.shown, hs, hk, Atom.shown]

theorem flatMap_shown_marks (fragments : List Fragment) :
    (fragments.flatMap Fragment.marks).flatMap (Mark.shown w m) =
      fragments.flatMap (Fragment.shown w m) := by
  rw [List.flatMap_assoc]
  refine List.flatMap_congr fun f _ => ?_
  cases f with
  | text t =>
    simp [Fragment.marks, Fragment.shown, Mark.shown, List.flatMap_map, ← List.map_eq_flatMap]
  | bind b | quote expr => simp [Fragment.marks, Fragment.shown, Mark.shown]

theorem exists_shown_of_isBlank {marks : List Mark} (h : ∀ mark ∈ marks, mark.isBlank = true) :
    ∃ cs : List Char, marks.flatMap (Mark.shown w m) = cs.map some ∧
      ∀ c ∈ cs, Text.isBlank c = true := by
  induction marks with
  | nil => exact ⟨[], rfl, by simp⟩
  | cons mark rest ih =>
    obtain ⟨hmark, hrest⟩ := List.forall_mem_cons.1 h
    obtain ⟨cs, hcs, hblank⟩ := ih hrest
    cases mark with
    | char c =>
      refine ⟨c :: cs, ?_, List.forall_mem_cons.2 ⟨hmark, hblank⟩⟩
      rw [List.flatMap_cons, hcs]
      rfl
    | bound b | quoted expr => cases hmark

theorem references_blanks_append {front : List Mark} (h : ∀ mark ∈ front, mark.isBlank = true)
    (marks : List Mark) : references ((front ++ marks).flatMap (Mark.shown w m)) =
      references (marks.flatMap (Mark.shown w m)) := by
  obtain ⟨cs, hcs, hb⟩ := exists_shown_of_isBlank w m h
  rw [List.flatMap_append, hcs,
    references_append_of_notMem fun hc => ne_at_of_isBlank (hb '@' hc) rfl]

theorem references_append_blank_marks {back : List Mark}
    (h : ∀ mark ∈ back, mark.isBlank = true) (marks : List Mark) :
    references ((marks ++ back).flatMap (Mark.shown w m)) =
      references (marks.flatMap (Mark.shown w m)) := by
  obtain ⟨cs, hcs, hb⟩ := exists_shown_of_isBlank w m h
  rw [List.flatMap_append, hcs, references_append_blanks _ hb]

/-- Blanks at the ends of a clause, and the space behind it, belong to no reference. -/
theorem references_settled (fragments : List Fragment) :
    references ((settled fragments).flatMap (Mark.shown w m)) =
      references (fragments.flatMap (Fragment.shown w m)) := by
  rw [← flatMap_shown_marks, settled]
  generalize fragments.flatMap Fragment.marks = marks
  have htrim : references (marks.flatMap (Mark.shown w m)) =
      references (((marks.dropWhile Mark.isBlank).rdropWhile Mark.isBlank).flatMap
        (Mark.shown w m)) := by
    have hfront : ∀ mark ∈ marks.takeWhile Mark.isBlank, mark.isBlank = true :=
      fun _ h => List.mem_takeWhile_imp h
    have hback : ∀ mark ∈ (marks.dropWhile Mark.isBlank).rtakeWhile Mark.isBlank,
        mark.isBlank = true := fun _ h => List.mem_rtakeWhile_imp h
    have hdrop := references_blanks_append w m hfront (marks.dropWhile Mark.isBlank)
    have hcut := references_append_blank_marks w m hback
      ((marks.dropWhile Mark.isBlank).rdropWhile Mark.isBlank)
    rw [List.takeWhile_append_dropWhile] at hdrop
    rw [List.rdropWhile_append_rtakeWhile] at hcut
    exact hdrop.trans hcut
  rw [htrim]
  split
  · next h => rw [h]
  · exact references_append_blank_marks w m (by simp [Mark.isBlank, Text.isBlank_space]) _

theorem references_operandsOf {opts : Options} (hs : opts.bindStyle = .named)
    {fragments : List Fragment} (hn : ∀ b ∈ bindingsOf fragments, b.Named) :
    references ((operandsOf opts fragments).flatMap (m.shown w)) =
      references (fragments.flatMap (Fragment.shown w m)) := by
  have hblank : ∀ b ∈ bindingsOf fragments, b.key.TightEnd :=
    fun b hb => (hn b hb).tightEnd
  rw [flatMap_shown_eq, atoms_operandsOf opts hblank, flatMap_shown_atoms w m hs,
    references_settled]

end Shown

/-! ## Fragments that are read back -/

theorem splitName_eq_iff {name rest : List Char} (hne : name ≠ []) :
    (splitName (name ++ rest)).1 = name ↔ IsName name ∧ DotsOnly rest := by
  refine ⟨fun h => ?_, fun h => by rw [Template.splitName_append h.1 h.2]⟩
  have happ := Template.append_splitName (name ++ rest)
  rw [h] at happ
  have hs : splitName (name ++ rest) = (name, rest) := Prod.ext h (List.append_cancel_left happ)
  exact Template.isName_of_splitName hs hne

section Fragments

variable (w : World α) (m : Machine α)

/-- The text behind anything but a literal text begins with no name. -/
theorem head_leading {fragments : List Fragment}
    (h : ∀ f ∈ fragments.head?, f.section.isLiteral = false) :
    ∀ c ∈ (leading (fragments.flatMap (Fragment.shown w m))).head?, isNameChar c = false := by
  intro c hc
  cases fragments with
  | nil => simp [leading] at hc
  | cons f rest =>
    cases f with
    | text t => exact absurd (h _ rfl) (by simp [Fragment.section, Section.isLiteral])
    | bind b =>
      obtain rfl : '@' = c := by simpa [Fragment.shown, leading] using hc
      exact isNameChar_at
    | quote expr => simp [Fragment.shown, leading] at hc

/-- The name of a placeholder does not go on exactly where it is delimited from what stands behind
it. -/
theorem dotsOnly_leading_iff {fragments : List Fragment}
    (h : (fragments.map Fragment.section).IsChain Section.Parted) (b : Binding) :
    DotsOnly (leading (fragments.flatMap (Fragment.shown w m))) ↔
      ∀ s ∈ (fragments.map Fragment.section).head?, (Fragment.bind b).section.Delimits s := by
  have hstop {cs : List Char} (hc : ∀ c ∈ cs.head?, isNameChar c = false) : DotsOnly cs := by
    cases cs with
    | nil => exact Template.dotsOnly_nil
    | cons c rest => exact Template.dotsOnly_cons (hc c rfl) rest
  cases fragments with
  | nil => simp [leading, Template.dotsOnly_nil]
  | cons f rest =>
    rw [List.map_cons, List.isChain_cons] at h
    simp only [List.map_cons, List.head?_cons, Option.mem_some_iff, forall_eq']
    cases f with
    | text t =>
      -- Behind a literal text stands no other one.
      have hrest : ∀ g ∈ rest.head?, g.section.isLiteral = false := by
        intro g hg
        have hp := h.1 g.section (by rw [List.head?_map, Option.mem_def.1 hg]; rfl)
        cases hl : g.section.isLiteral with
        | false => rfl
        | true => exact absurd ⟨rfl, hl⟩ hp
      have hdots := hstop (head_leading w m hrest)
      rw [List.flatMap_cons, Fragment.shown, leading_append_map, Template.dotsOnly_append,
        and_iff_left fun _ => hdots]
      rfl
    | bind d | quote expr =>
      refine iff_of_true (hstop (head_leading w m ?_)) trivial
      simp [Fragment.section, Section.isLiteral]

/-- What it takes to read fragments back, when the keys have no sign of a reference. -/
theorem references_eq_iff_of_notMem {fragments : List Fragment}
    (hparted : (fragments.map Fragment.section).IsChain Section.Parted)
    (htext : ∀ t, .text t ∈ fragments → '@' ∉ t.toList)
    (hkey : ∀ b ∈ bindingsOf fragments, m.key w b.key.key ≠ [] ∧ '@' ∉ m.key w b.key.key) :
    references (fragments.flatMap (Fragment.shown w m)) =
        (bindingsOf fragments).map (fun b => m.key w b.key.key) ↔
      (fragments.map Fragment.section).IsChain Section.Delimits ∧
        ∀ b ∈ bindingsOf fragments, IsName (m.key w b.key.key) := by
  induction fragments with
  | nil => simp [references, bindingsOf]
  | cons f rest ih =>
    have hrest := (List.isChain_cons.1 hparted).2
    have htexts : ∀ t, .text t ∈ rest → '@' ∉ t.toList :=
      fun t ht => htext t (List.mem_cons_of_mem _ ht)
    rw [List.map_cons, List.isChain_cons, List.flatMap_cons]
    cases f with
    | text t =>
      have hdelimits : ∀ s, (Fragment.text t).section.Delimits s := fun s => by cases s <;> trivial
      rw [Fragment.shown, references_append_of_notMem (htext t List.mem_cons_self)]
      rw [bindingsOf_text, ih hrest htexts hkey]
      exact and_congr_left' (and_iff_right fun s _ => hdelimits s).symm
    | quote expr =>
      have hdelimits : ∀ s, (Fragment.quote expr).section.Delimits s :=
        fun s => by cases s <;> trivial
      rw [Fragment.shown, List.singleton_append, references]
      rw [bindingsOf_quote, ih hrest htexts hkey]
      exact and_congr_left' (and_iff_right fun s _ => hdelimits s).symm
    | bind b =>
      rw [bindingsOf_bind] at hkey ⊢
      obtain ⟨⟨hne, hat⟩, hkeys⟩ := List.forall_mem_cons.1 hkey
      rw [Fragment.shown, List.cons_append, references, if_pos rfl, leading_append_map,
        references_append_of_notMem hat, List.map_cons, List.cons.injEq, splitName_eq_iff hne,
        ih hrest htexts hkeys, dotsOnly_leading_iff w m hrest b, List.forall_mem_cons]
      tauto

theorem count_shown {fragments : List Fragment}
    (htext : ∀ t, .text t ∈ fragments → '@' ∉ t.toList) :
    (fragments.flatMap (Fragment.shown w m)).count (some '@') = (bindingsOf fragments).length +
      ((bindingsOf fragments).flatMap fun b => m.key w b.key.key).count '@' := by
  have hsome (cs : List Char) : (cs.map some).count (some '@') = cs.count '@' :=
    List.count_map_of_injective cs some (Option.some_injective _) '@'
  induction fragments with
  | nil => rfl
  | cons f rest ih =>
    have ih := ih fun t ht => htext t (List.mem_cons_of_mem _ ht)
    rw [List.flatMap_cons, List.count_append, ih]
    cases f with
    | text t =>
      rw [bindingsOf_text, Fragment.shown, hsome,
        List.count_eq_zero.2 (htext t List.mem_cons_self), Nat.zero_add]
    | quote expr =>
      rw [bindingsOf_quote, Fragment.shown]
      simp
    | bind b =>
      rw [bindingsOf_bind, Fragment.shown,
        List.count_cons_self, hsome, List.length_cons, List.flatMap_cons, List.count_append]
      omega

/-- Fragments are read back exactly where every placeholder is delimited and every key is a
name. -/
theorem references_fragments_iff {fragments : List Fragment}
    (hparted : (fragments.map Fragment.section).IsChain Section.Parted)
    (htext : ∀ t, .text t ∈ fragments → '@' ∉ t.toList)
    (hne : ∀ b ∈ bindingsOf fragments, m.key w b.key.key ≠ []) :
    references (fragments.flatMap (Fragment.shown w m)) =
        (bindingsOf fragments).map (fun b => m.key w b.key.key) ↔
      (fragments.map Fragment.section).IsChain Section.Delimits ∧
        ∀ b ∈ bindingsOf fragments, IsName (m.key w b.key.key) := by
  by_cases hat : ∀ b ∈ bindingsOf fragments, '@' ∉ m.key w b.key.key
  · exact references_eq_iff_of_notMem w m hparted htext fun b hb => ⟨hne b hb, hat b hb⟩
  · -- A sign in a key is one reference too many, and no name has one.
    refine iff_of_false (fun h => hat fun b hb hmem => ?_) fun h => hat fun b hb hmem => ?_
    · have hlength := congrArg List.length h
      rw [length_references, count_shown w m htext, List.length_map] at hlength
      have hzero : ((bindingsOf fragments).flatMap fun b => m.key w b.key.key).count '@' = 0 := by
        omega
      exact List.count_eq_zero.1 hzero (List.mem_flatMap.2 ⟨b, hb, hmem⟩)
    · have hc := (h.2 b hb).chars '@' hmem
      rw [isNameChar_at] at hc
      cases hc

end Fragments

/-! ## Keys that are names -/

theorem isNameChar_of_isDigit {c : Char} (h : c.isDigit = true) : isNameChar c = true := by
  have hlt : c.toNat < 0x80 := by
    simp only [Char.isDigit, Bool.and_eq_true, decide_eq_true_eq, UInt32.le_iff_toNat_le] at h
    exact Nat.lt_of_le_of_lt h.2 (by decide)
  simp [isNameChar, Text.isWord, hlt, Char.isAlphanum, h]

theorem isNameChar_of_mem_repr {n : Int} {c : Char} (h : c ∈ n.repr.toList) :
    isNameChar c = true ∧ c ≠ '.' := by
  rcases mem_repr_int h with hd | rfl
  · refine ⟨isNameChar_of_isDigit hd, ?_⟩
    rintro rfl
    cases hd
  · exact ⟨by decide, by decide⟩

theorem Template.IsName.append_dot {name tail : List Char} (hn : IsName name) (hne : tail ≠ [])
    (h : ∀ c ∈ tail, isNameChar c = true ∧ c ≠ '.') : IsName (name ++ '.' :: tail) where
  ne_nil := by simp
  chars c hc := by
    rcases List.mem_append.1 hc with hc | hc
    · exact hn.chars c hc
    · rcases List.mem_cons.1 hc with rfl | hc
      · decide
      · exact (h c hc).1
  last hlast := by
    rw [List.getLast?_append, List.getLast?_cons, List.getLast?_eq_some_getLast hne] at hlast
    exact (h _ (List.getLast_mem hne)).2 (by simpa using hlast)

/-- A key is a name if its index variables are integers. -/
theorem isName_key (w : World α) (m : Machine α) {b : Binding} (hn : IsName b.key.name.toList)
    (hi : ∀ s ∈ b.key.scope, ∀ i ∈ s.indices, ∃ n, m.read i = .int n) :
    IsName (m.key w b.key.key) := by
  unfold BindKey.key
  split
  · exact hn
  · next s hs =>
    refine hn.append_dot (by simp [Nat.toList_repr]) fun c hc => ?_
    rcases List.mem_append.1 hc with hc | hc
    · exact isNameChar_of_mem_repr (n := s.loopId) hc
    · obtain ⟨v, hv, hc⟩ := List.mem_flatMap.1 hc
      obtain ⟨i, him, rfl⟩ := List.mem_map.1 hv
      obtain ⟨n, hread⟩ := hi s hs i him
      rw [hread] at hc
      rcases List.mem_cons.1 hc with rfl | hc
      · exact ⟨by decide, by decide⟩
      · exact isNameChar_of_mem_repr hc

theorem key_ne_nil (w : World α) (m : Machine α) {b : Binding} (hn : b.key.name.toList ≠ []) :
    m.key w b.key.key ≠ [] := by
  unfold BindKey.key
  split
  · exact hn
  · simp [Machine.key, World.printKey]

/-! ## Compiled templates -/

theorem Section.delimits_of_isSql (s t : Section) (h : s.isSql = false ∨ t.isSql = false) :
    s.Delimits t := by
  cases s <;> cases t <;> simp_all [Section.Delimits, Section.isSql]

theorem Section.parted_of_isSql (s t : Section) (h : s.isSql = false ∨ t.isSql = false) :
    s.Parted t := by
  cases s <;> cases t <;> simp_all [Section.Parted, Section.isLiteral, Section.isSql]

theorem Section.delimits_bare (s t : Section) : s.bare.Delimits t.bare ↔ s.Delimits t := by
  cases s <;> cases t <;> rfl

theorem Section.parted_bare (s t : Section) : s.bare.Parted t.bare ↔ s.Parted t := by
  cases s <;> cases t <;> rfl

/-- The statements of a clause put every value under its key before they write the text. -/
theorem exec_named {opts : Options} (hs : opts.bindStyle = .named) (w : World α) (m : Machine α)
    (builder : String) {fragments : List Fragment} (hn : ∀ b ∈ bindingsOf fragments, b.Named) :
    ∃ m', Statement.execAll w (sqlStatements opts builder fragments) m = some m' ∧
      m'.texts builder = m.texts builder ++ (operandsOf opts fragments).flatMap (m.operand w) ∧
      ∀ b ∈ bindingsOf fragments, (m'.lookup (m.key w b.key.key)).isSome = true := by
  have hblank : ∀ b ∈ bindingsOf fragments, b.key.TightEnd :=
    fun b hb => (hn b hb).tightEnd
  unfold sqlStatements
  split
  · next ho =>
    have hnone := bindingsOf_eq_nil hblank ho
    exact ⟨m, rfl, by rw [ho]; simp, by simp [hnone]⟩
  · rw [Statement.execAll_append, exec_bindings, Option.bind_some]
    refine ⟨_, rfl, Machine.texts_write_self _ _ _, fun b hb => ?_⟩
    rw [Machine.lookup, Machine.puts_write, recorded, if_pos hs]
    refine List.lookup_isSome_iff.2 ⟨(m.key w b.key.key, w.eval m.read b.expr), ?_, by simp⟩
    simp only [List.mem_reverse, List.mem_append, List.mem_map]
    exact .inr ⟨b, hb, rfl⟩

/-- Placeholders can be read back. In a template without quoted strings and `\@`, the text of a
SQL clause gives the keys of its values exactly where no literal text goes on with the name of a
placeholder and every key is a name. All clauses of a template are delimited in this way exactly
where no table name that goes on with a name stands right behind a reference. Keys are names where
their index variables are integers, and what is read back was put into the map. -/
theorem compile_readsBack_iff {template : String} {scope : Scope} {opts : Options} {c : Compiled}
    (h : compile template scope opts = .ok c) (hs : opts.bindStyle = .named)
    (hverbatim : ∀ p ∈ Template.pieces template.toList, p.isVerbatim = false)
    (htable : '@' ∉ scope.table.toList) :
    ((∀ fragments ∈ Clause.sqlsAll c.clauses,
        (fragments.map Fragment.section).IsChain Section.Delimits) ↔
      DotsOnly scope.table.toList ∨
        Template.glues false (Template.pieces template.toList) = false) ∧
    ∀ fragments ∈ Clause.sqlsAll c.clauses,
      ∀ {α : Type} (w : World α) (m : Machine α) (builder : String),
        (ReadsBack w opts m fragments ↔
          (fragments.map Fragment.section).IsChain Section.Delimits ∧
            ∀ b ∈ bindingsOf fragments, IsName (m.key w b.key.key)) ∧
        (∀ b ∈ bindingsOf fragments,
          (∀ s ∈ b.key.scope, ∀ i ∈ s.indices, ∃ n, m.read i = .int n) →
            IsName (m.key w b.key.key)) ∧
        ∃ m', Statement.execAll w (sqlStatements opts builder fragments) m = some m' ∧
          m'.texts builder =
            m.texts builder ++ (operandsOf opts fragments).flatMap (m.operand w) ∧
          (ReadsBack w opts m fragments →
            ∀ name ∈ references ((operandsOf opts fragments).flatMap (m.shown w)),
              (m'.lookup name).isSome = true) := by
  obtain ⟨-, sections, ht, tree, hb, rfl⟩ := compile_eq_ok_iff.1 h
  have hlegible := Template.legible_of_tokenize hverbatim htable ht
  refine ⟨?_, fun fragments hf α w m builder => ?_⟩
  · exact (isChain_sqls_iff Section.delimits_of_isSql Section.delimits_bare hb).trans
      (Template.delimited_of_tokenize ht)
  · have hparted := (isChain_sqls_iff Section.parted_of_isSql Section.parted_bare hb).2
      (Template.parted_of_tokenize ht) fragments hf
    have htext : ∀ t, .text t ∈ fragments → '@' ∉ t.toList :=
      fun t hm => hlegible _ (literal_mem_of_sqls hb hf hm)
    have hall : ∀ b ∈ bindingsOf fragments, b ∈ Clause.bindingsAll tree :=
      fun b hm => Clause.mem_bindingsAll_of_sqls hf hm
    have hnamed : ∀ b ∈ bindingsOf fragments, b.Named :=
      fun b hm => named_of_buildClauses ht hb b (hall b hm)
    have hname : ∀ b ∈ bindingsOf fragments, IsName b.key.name.toList := by
      intro b hm
      obtain ⟨ref, href, hpath⟩ := data_mem_of_bindings hb (hall b hm)
      rw [(hnamed b hm).1, ← hpath]
      exact hlegible _ href
    obtain ⟨m', hexec, htexts, hlookup⟩ := exec_named hs w m builder hnamed
    refine ⟨?_, fun b hm => isName_key w m (hname b hm), m', hexec, htexts, fun hr name hm => ?_⟩
    · rw [ReadsBack, references_operandsOf w m hs hnamed]
      exact references_fragments_iff w m hparted htext fun b hm => key_ne_nil w m (hname b hm).ne_nil
    · rw [ReadsBack] at hr
      rw [hr] at hm
      obtain ⟨b, hbm, rfl⟩ := List.mem_map.1 hm
      exact hlookup b hbm

namespace Placeholders

/-- A reference between a table name and a dot, and one inside a loop. -/
def template : String := "@@table @a. {{for i, v := range xs}} @v{{end}}"

def scope : Scope :=
  ⟨[⟨"a", .simple "int", false⟩, ⟨"xs", .slice (.simple "string"), false⟩], "users", .empty⟩

def tree : List Clause :=
  [.sql "generateSQL" [.text "users ", .bind ⟨"a", ⟨"a", none⟩⟩, .text ". "],
    .loop 0 "generateSQL" ⟨"i", "v", "xs", .slice (.simple "string")⟩ (.declared "i")
      [.sql "generateSQL" [.text " ", .bind ⟨"v", ⟨"v", some ⟨0, ["i"]⟩⟩⟩]]]

/-- Where nothing is glued, the text is read back in every turn of the loop. -/
theorem readsBack_loop :
    ∃ c, compile template scope ⟨.named, "u"⟩ = .ok c ∧
      ∀ fragments ∈ Clause.sqlsAll c.clauses, ∀ (w : World Empty) (m : Machine Empty),
        (∃ n, m.read "i" = .int n) → ReadsBack w ⟨.named, "u"⟩ m fragments := by
  have hc : compile template scope ⟨.named, "u"⟩ = .ok (render ⟨.named, "u"⟩ tree) := by
    refine compile_ofList [.literal "users ", .data ⟨"a", .method, .simple "int"⟩,
      .literal ". ", .loop ⟨"i", "v", "xs", .slice (.simple "string")⟩, .literal " ",
      .data ⟨"v", .loop, .simple "string"⟩, .close] rfl ?tokens ?tree
    case tokens => decide +kernel
    case tree => rfl
  have hplain : (Template.pieces template.toList).all (!·.isVerbatim) = true := by
    rw [template, String.toList_ofList]
    decide +kernel
  have hglues : Template.glues false (Template.pieces template.toList) = false := by
    rw [template, String.toList_ofList]
    decide +kernel
  have hindex : ∀ fragments ∈ Clause.sqlsAll tree, ∀ b ∈ bindingsOf fragments,
      ∀ s ∈ b.key.scope, ∀ i ∈ s.indices, i = "i" := by decide
  refine ⟨_, hc, fun fragments hf w m hi => ?_⟩
  obtain ⟨hdelimited, hread⟩ := compile_readsBack_iff hc rfl
    (fun p hp => by simpa using List.all_eq_true.1 hplain p hp) (by decide)
  obtain ⟨hiff, hnames, -⟩ := hread fragments hf w m "generateSQL"
  exact hiff.2 ⟨hdelimited.2 (.inr hglues) fragments hf, fun b hb => hnames b hb fun s hs i him =>
    hindex fragments hf b hb s hs i him ▸ hi⟩

/-- A table name right behind a reference. -/
def glued : String := "select * from t where id = @id@@table"

def gluedFragments : List Fragment :=
  [.text "select * from t where id = ", .bind ⟨"id", ⟨"id", none⟩⟩, .text "users"]

/-- The table name becomes part of the placeholder. -/
theorem not_readsBack_of_glued :
    (Template.pieces glued.toList).all (!·.isVerbatim) = true ∧
      ∃ c, compile glued ⟨[⟨"id", .simple "int", false⟩], "users", .empty⟩ ⟨.named, "u"⟩ = .ok c ∧
        gluedFragments ∈ Clause.sqlsAll c.clauses ∧
        ∀ (w : World Empty) (m : Machine Empty),
          (bindingsOf gluedFragments).map (fun b => m.key w b.key.key) = ["id".toList] ∧
          references ((operandsOf ⟨.named, "u"⟩ gluedFragments).flatMap (m.shown w)) =
            ["idusers".toList] ∧
          ¬ReadsBack w ⟨.named, "u"⟩ m gluedFragments := by
  refine ⟨by cbv, render ⟨.named, "u"⟩ [.sql "generateSQL" gluedFragments], ?_, ?_, fun w m => ?_⟩
  · refine compile_ofList [.literal "select * from t where id = ",
      .data ⟨"id", .method, .simple "int"⟩, .literal "users"] rfl ?tokens ?tree
    case tokens => decide +kernel
    case tree => rfl
  · exact List.mem_singleton_self _
  · have hkeys : (bindingsOf gluedFragments).map (fun b => m.key w b.key.key) = ["id".toList] := rfl
    have hread : references ((operandsOf ⟨.named, "u"⟩ gluedFragments).flatMap (m.shown w)) =
        ["idusers".toList] := by
      cbv
    refine ⟨hkeys, hread, fun h => ?_⟩
    rw [ReadsBack, hread, hkeys] at h
    exact absurd h (by decide)

end Placeholders

end QueryGen
