import QueryGen.Proofs.Template.Fits

/-!
# Templates by positions

The pieces of a template are found by looking at what is left of it. Here they are found by
positions in the whole template: characters are looked up and ranges cut out by numbers, and each
lookup is checked.

- `Fault`: a character, a range or a step that is out of bounds.
- `charAt`, `sliceAt`: a character and a range of a template.
- `quoteEnd?`, `literalEnd`, `bodyEnd`, `nameEnd`: where a quoted string, a directive and a name
  end.
- `pieceAt`: the piece at a position, and the position behind it.
- `marksFrom`: all pieces with their positions.
- `pieceAt_eq`, `placed_marksFrom`: no lookup is out of bounds, every step goes ahead, and the
  pieces are those of the template.
-/

namespace QueryGen.Template

/-- What can go wrong with positions. -/
inductive Fault where
  /-- No character is at the position. -/
  | character (i : Nat)
  /-- The range is not in the template. -/
  | range (i j : Nat)
  /-- The next position is not behind this one. -/
  | stuck (i : Nat)
deriving DecidableEq, Repr

/-- The character at a position. -/
def charAt (cs : List Char) (i : Nat) : Except Fault Char :=
  match cs[i]? with
  | some c => .ok c
  | none => .error (.character i)

/-- The characters from one position to another. -/
def sliceAt (cs : List Char) (i j : Nat) : Except Fault (List Char) :=
  if i ≤ j ∧ j ≤ cs.length then .ok ((cs.drop i).take (j - i)) else .error (.range i j)

/-- The position behind the quote `q` that closes a string, from a position in the string. -/
def quoteEnd? (cs : List Char) (q : Char) (i : Nat) : Option Nat :=
  if h : i < cs.length then
    if cs[i] = '\\' then if i + 1 < cs.length then quoteEnd? cs q (i + 2) else none
    else if cs[i] = q then some (i + 1)
    else quoteEnd? cs q (i + 1)
  else none
termination_by cs.length - i

/-- The position of the quote `q` that closes a literal in a directive, or one past the end. -/
def literalEnd (cs : List Char) (q : Char) (i : Nat) : Except Fault Nat :=
  if i < cs.length then do
    let c ← charAt cs i
    if c = q then return i
    else if c = '\\' then literalEnd cs q (i + 2)
    else literalEnd cs q (i + 1)
  else return i
termination_by cs.length - i

/-- The position of the braces that close a directive. -/
def bodyEnd (cs : List Char) (depth i : Nat) : Except Fault (Option Nat) :=
  if i < cs.length then do
    let c ← charAt cs i
    if isQuote c then
      let j ← literalEnd cs c (i + 1)
      if cs.length ≤ j then return none
      else if i < j then bodyEnd cs depth (j + 1)
      else throw (.stuck i)
    else if c = '{' then bodyEnd cs (depth + 1) (i + 1)
    else if c = '}' ∧ 0 < depth then bodyEnd cs (depth - 1) (i + 1)
    else if c = '}' ∧ cs[i + 1]? = some '}' then return some i
    else bodyEnd cs depth (i + 1)
  else return none
termination_by cs.length - i

/-- The position behind the characters of names. -/
def nameEnd (cs : List Char) (i : Nat) : Nat :=
  if h : i < cs.length then if isNameChar cs[i] then nameEnd cs (i + 1) else i else i
termination_by cs.length - i

/-- The position behind a name from `start` to `i` without the dots at its end. -/
def dotsStart (cs : List Char) (start : Nat) : Nat → Except Fault Nat
  | 0 => return 0
  | i + 1 =>
    if start < i + 1 then do
      let c ← charAt cs i
      if c = '.' then dotsStart cs start i else return i + 1
    else return i + 1

/-- The piece at a position, and the position behind it. -/
def pieceAt (cs : List Char) (i : Nat) : Except Fault (Piece × Nat) := do
  let c ← charAt cs i
  if isQuote c then
    match quoteEnd? cs c (i + 1) with
    | some j => return (.quoted (← sliceAt cs i j), j)
    | none => return (.broken (← sliceAt cs i cs.length), cs.length)
  else if c = '\\' ∧ cs[i + 1]? = some '@' then return (.escapedAt, i + 2)
  else if c = '{' ∧ cs[i + 1]? = some '{' then
    match ← bodyEnd cs 0 (i + 2) with
    | some j => return (.directive (← sliceAt cs (i + 2) j), j + 2)
    | none => return (.broken (← sliceAt cs i cs.length), cs.length)
  else if c = '@' then
    let doubled := cs[i + 1]? = some '@'
    let start := if doubled then i + 2 else i + 1
    let j ← dotsStart cs start (nameEnd cs start)
    if j = start then return (.broken (← sliceAt cs i cs.length), cs.length)
    else return (.ref doubled (← sliceAt cs start j), j)
  else return (.plain c, i + 1)

/-- The pieces from a position on, each with its position. -/
def marksFrom (cs : List Char) (i : Nat) : Except Fault (List (Nat × Piece)) :=
  if i < cs.length then do
    let (p, j) ← pieceAt cs i
    if i < j then return (i, p) :: (← marksFrom cs j) else throw (.stuck i)
  else return []
termination_by cs.length - i

/-! ## Lookups -/

variable {cs rest s : List Char} {c : Char} {i : Nat}

theorem lt_length_of_drop (h : cs.drop i = c :: rest) : i < cs.length := by
  have hlen := congrArg List.length h
  simp only [List.length_drop, List.length_cons] at hlen
  omega

theorem getElem?_of_drop (h : cs.drop i = c :: rest) : cs[i]? = some c := by
  rw [← List.head?_drop, h]
  rfl

theorem drop_succ_of_drop (h : cs.drop i = c :: rest) : cs.drop (i + 1) = rest := by
  rw [← List.drop_drop, h]
  rfl

theorem charAt_of_drop (h : cs.drop i = c :: rest) : charAt cs i = .ok c := by
  rw [charAt, getElem?_of_drop h]

theorem drop_add_of_drop (h : cs.drop i = s ++ rest) : cs.drop (i + s.length) = rest := by
  rw [← List.drop_drop, h, List.drop_left]

theorem sliceAt_of_drop (hi : i ≤ cs.length) (h : cs.drop i = s ++ rest) :
    sliceAt cs i (i + s.length) = .ok s := by
  have hlen := congrArg List.length h
  simp only [List.length_drop, List.length_append] at hlen
  rw [sliceAt, if_pos (by omega), h, Nat.add_sub_cancel_left, List.take_left]

/-! ## Ends -/

/-- What is cut off in front adds its length to the position of a cut. -/
theorem map_onto {front : List Char} {cut : Option (List Char × List Char)} {i j : Nat}
    (h : i + front.length = j) :
    (onto front cut).map (fun cut => i + cut.1.length) = cut.map fun cut => j + cut.1.length := by
  cases cut <;> simp [onto, ← h, Nat.add_assoc]

theorem onto_onto (front front' : List Char) (cut : Option (List Char × List Char)) :
    onto front (onto front' cut) = onto (front ++ front') cut := by
  cases cut <;> simp [onto]

theorem quoteEnd?_eq (cs : List Char) {q : Char} (hq : q ≠ '\\') (i : Nat) :
    quoteEnd? cs q i = (closeQuote? q (cs.drop i)).map fun cut => i + cut.1.length := by
  fun_induction quoteEnd? cs q i with
  | case1 i h hc hnext ih =>
    rw [List.drop_eq_getElem_cons h, hc, List.drop_eq_getElem_cons hnext, closeQuote?, map_onto rfl]
    exact ih
  | case2 i h hc hnext =>
    rw [List.drop_eq_getElem_cons h, hc, List.drop_eq_nil_of_le (by omega)]
    simp [closeQuote?, hq.symm, onto]
  | case3 i h hc he =>
    rw [List.drop_eq_getElem_cons h, closeQuote?_cons hc, if_pos he]
    rfl
  | case4 i h hc he ih =>
    rw [List.drop_eq_getElem_cons h, closeQuote?_cons hc, if_neg he, map_onto rfl]
    exact ih
  | case5 i h =>
    rw [List.drop_eq_nil_of_le (by omega)]
    rfl

/-- A literal in a directive ends at its quote, and the directive goes on behind that. -/
theorem literalEnd_eq (cs : List Char) {q : Char} (hq : q ≠ '\\') (i depth : Nat) :
    ∃ j, literalEnd cs q i = .ok j ∧ i ≤ j ∧
      directiveBody? (some q) depth (cs.drop i) =
        if j < cs.length then
          onto ((cs.drop i).take (j + 1 - i)) (directiveBody? none depth (cs.drop (j + 1)))
        else none := by
  induction hn : cs.length - i using Nat.strong_induction_on generalizing i with
  | _ n ih =>
  subst hn
  cases hd : cs.drop i with
  | nil =>
    have hlen : cs.length ≤ i := List.drop_eq_nil_iff.1 hd
    refine ⟨i, ?_, le_rfl, ?_⟩
    · rw [literalEnd, if_neg (by omega)]
      rfl
    · rw [if_neg (by omega)]
      simp [directiveBody?]
  | cons c rest =>
    have hlt := lt_length_of_drop hd
    have hrest := drop_succ_of_drop hd
    rw [literalEnd, if_pos hlt, charAt_of_drop hd]
    by_cases hc : c = q
    · refine ⟨i, by simp [hc, bind, Except.bind, pure, Except.pure], le_rfl, ?_⟩
      rw [directiveBody?_some_cons (hc ▸ hq), if_pos hc, if_pos hlt, hrest]
      simp
    by_cases hesc : c = '\\'
    · subst hesc
      obtain ⟨j, hj, hle, hbody⟩ := ih _ (by omega) (i + 2) rfl
      refine ⟨j, by simpa [hq.symm, bind, Except.bind] using hj, by omega, ?_⟩
      cases rest with
      | nil =>
        have hlen : cs.length ≤ i + 1 := List.drop_eq_nil_iff.1 hrest
        rw [if_neg (by omega)]
        simp [directiveBody?, onto]
      | cons d more =>
        have hmore : cs.drop (i + 2) = more := drop_succ_of_drop hrest
        have htake : j + 1 - i = (j + 1 - (i + 2)) + 2 := by omega
        rw [directiveBody?, ← hmore, hbody, htake]
        split
        · rw [onto_onto]
          rfl
        · rfl
    · obtain ⟨j, hj, hle, hbody⟩ := ih _ (by omega) (i + 1) rfl
      refine ⟨j, by simpa [hc, hesc, bind, Except.bind] using hj, by omega, ?_⟩
      have htake : j + 1 - i = (j + 1 - (i + 1)) + 1 := by omega
      rw [directiveBody?_some_cons hesc, if_neg hc, ← hrest, hbody, htake]
      split
      · rw [onto_onto]
        rfl
      · rfl

/-- The braces that close a directive are where its body ends. -/
theorem bodyEnd_eq (cs : List Char) (depth i : Nat) :
    bodyEnd cs depth i =
      .ok ((directiveBody? none depth (cs.drop i)).map fun cut => i + cut.1.length) := by
  induction hn : cs.length - i using Nat.strong_induction_on generalizing i depth with
  | _ n ih =>
  subst hn
  cases hd : cs.drop i with
  | nil =>
    rw [bodyEnd, if_neg (by have := List.drop_eq_nil_iff.1 hd; omega)]
    rfl
  | cons c rest =>
    have hlt := lt_length_of_drop hd
    have hrest := drop_succ_of_drop hd
    have hnext : ∀ k, bodyEnd cs k (i + 1) =
        .ok ((directiveBody? none k rest).map fun cut => i + 1 + cut.1.length) := fun k => by
      rw [ih _ (by omega) k (i + 1) rfl, hrest]
    rw [bodyEnd, if_pos hlt, charAt_of_drop hd]
    simp only [bind, Except.bind]
    split
    · next hq =>
      obtain ⟨j, hj, hle, hbody⟩ := literalEnd_eq cs (ne_backslash_of_isQuote hq) (i + 1) depth
      have hclose : c ≠ '}' := by
        rintro rfl
        exact absurd hq (by decide)
      rw [directiveBody?_none_cons fun _ he => absurd he hclose, if_pos hq, map_onto rfl, ← hrest,
        hbody, hj]
      simp only []
      split
      · next hend =>
        rw [if_neg (by omega)]
        rfl
      · next hend =>
        rw [if_pos (by omega), if_pos (by omega), ih _ (by omega) depth (j + 1) rfl,
          map_onto (j := j + 1) (by simp; omega)]
    · next hq =>
      have hpeek : cs[i + 1]? = rest.head? := by rw [← hrest, List.head?_drop]
      rw [hpeek]
      by_cases hend : depth = 0 ∧ c = '}' ∧ rest.head? = some '}'
      · obtain ⟨rfl, rfl, hhead⟩ := hend
        obtain ⟨more, rfl⟩ := List.head?_eq_some_iff.1 hhead
        simp [directiveBody?, pure, Except.pure]
      · rw [directiveBody?_none_cons fun hd hc hh => hend ⟨hd, hc, hh⟩, if_neg hq]
        split
        · rw [hnext, map_onto rfl]
          rfl
        · split
          · next hc => rw [if_pos hc.1, hnext, map_onto rfl]; rfl
          · next hc =>
            split
            · next hclose =>
              exact absurd ⟨by by_contra hd; exact hc ⟨hclose.1, by omega⟩, hclose⟩ hend
            · by_cases hclose : c = '}'
              · obtain rfl : depth = 0 := by by_contra hd; exact hc ⟨hclose, by omega⟩
                rw [if_pos hclose, hnext, map_onto rfl]
                rfl
              · rw [if_neg hclose, hnext, map_onto rfl]
                rfl

theorem nameEnd_eq (cs : List Char) (i : Nat) :
    nameEnd cs i = i + ((cs.drop i).takeWhile isNameChar).length := by
  fun_induction nameEnd cs i with
  | case1 i h hc ih =>
    rw [ih, List.drop_eq_getElem_cons h, List.takeWhile_cons_of_pos hc, List.length_cons]
    omega
  | case2 i h hc => rw [List.drop_eq_getElem_cons h, List.takeWhile_cons_of_neg hc]; rfl
  | case3 i h => rw [List.drop_eq_nil_of_le (by omega)]; rfl

theorem dotsStart_eq {name : List Char} {start : Nat} (h : cs.drop start = name ++ rest) :
    dotsStart cs start (start + name.length) =
      .ok (start + (Text.dropEndWhile (· == '.') name).length) := by
  induction name using List.reverseRecOn generalizing rest with
  | nil =>
    cases start <;> simp [dotsStart, Text.dropEndWhile, pure, Except.pure]
  | append_singleton front c ih =>
    rw [List.append_assoc] at h
    have hc : charAt cs (start + front.length) = .ok c := charAt_of_drop (drop_add_of_drop h)
    rw [List.length_append, List.length_singleton, ← Nat.add_assoc, dotsStart, if_pos (by omega),
      hc]
    simp only [bind, Except.bind]
    split
    · next hdot =>
      rw [ih h, Text.dropEndWhile_concat_of_pos (by simp [hdot])]
    · next hdot =>
      rw [Text.dropEndWhile_concat_of_neg (by simp [hdot]), List.length_append]
      rfl

/-! ## Pieces -/

theorem sliceAt_length (h : cs.drop i = c :: rest) :
    sliceAt cs i cs.length = .ok (c :: rest) ∧ cs.length = i + (c :: rest).length := by
  have hlt := lt_length_of_drop h
  have hlen := congrArg List.length h
  rw [List.length_drop] at hlen
  have hend : cs.length = i + (c :: rest).length := by omega
  refine ⟨?_, hend⟩
  conv_lhs => rw [hend]
  have hslice : cs.drop i = (c :: rest) ++ [] := by simpa using h
  exact sliceAt_of_drop hlt.le hslice

/-- The end of a name and the name. -/
theorem name_eq {start : Nat} (hs : start ≤ cs.length) (h : cs.drop start = rest) :
    dotsStart cs start (nameEnd cs start) = .ok (start + (splitName rest).1.length) ∧
      sliceAt cs start (start + (splitName rest).1.length) = .ok (splitName rest).1 := by
  constructor
  · have hname : cs.drop start = rest.takeWhile isNameChar ++ rest.dropWhile isNameChar := by
      rw [h, List.takeWhile_append_dropWhile]
    rw [nameEnd_eq, h]
    exact dotsStart_eq hname
  · exact sliceAt_of_drop hs (by rw [h, append_splitName])

theorem firstPiece_at {inner : List Char} (h : inner.head? ≠ some '@') :
    firstPiece '@' inner =
      match splitName inner with
      | ([], _) => (.broken ('@' :: inner), [])
      | (name, after) => (.ref false name, after) := by
  unfold firstPiece
  rw [if_neg (by decide)]
  split
  · next he => exact absurd he (by decide)
  · next he => exact absurd he (by decide)
  · exact absurd rfl h
  · rfl
  · next hat _ _ _ => exact absurd rfl hat

/-- The piece at a position is the first one of what is left, and the next position is behind it. -/
theorem pieceAt_eq (h : cs.drop i = c :: rest) :
    pieceAt cs i = .ok ((firstPiece c rest).1, i + (firstPiece c rest).1.source.length) := by
  have hlt := lt_length_of_drop h
  have hrest := drop_succ_of_drop h
  obtain ⟨hbroken, hend⟩ := sliceAt_length h
  have hpeek : cs[i + 1]? = rest.head? := by rw [← hrest, List.head?_drop]
  simp only [pieceAt, charAt_of_drop h, hpeek, hbroken, bind, Except.bind, pure, Except.pure]
  by_cases hq : isQuote c = true
  · unfold firstPiece
    rw [if_pos hq, if_pos hq, quoteEnd?_eq cs (ne_backslash_of_isQuote hq), hrest]
    cases hclose : closeQuote? c rest with
    | none => simp [Piece.source, hend]
    | some cut =>
      obtain ⟨s, after⟩ := cut
      have hslice : sliceAt cs i (i + (c :: s).length) = .ok (c :: s) :=
        sliceAt_of_drop hlt.le (by rw [h, List.cons_append, append_of_closeQuote? hclose])
      have hj : i + 1 + s.length = i + (c :: s).length := by simp; omega
      simp only [Option.map_some, hj, hslice, Piece.source]
  rw [if_neg hq]
  by_cases hesc : c = '\\' ∧ rest.head? = some '@'
  · obtain ⟨rfl, hhead⟩ := hesc
    obtain ⟨after, rfl⟩ := List.head?_eq_some_iff.1 hhead
    simp [firstPiece, isQuote, Piece.source]
  rw [if_neg hesc]
  by_cases hopen : c = '{' ∧ rest.head? = some '{'
  · rw [if_pos hopen]
    obtain ⟨rfl, hhead⟩ := hopen
    obtain ⟨inner, rfl⟩ := List.head?_eq_some_iff.1 hhead
    have hinner : cs.drop (i + 2) = inner := drop_succ_of_drop hrest
    rw [bodyEnd_eq, hinner]
    cases hbody : directiveBody? none 0 inner with
    | none => simp [firstPiece, isQuote, hbody, Piece.source, hend]
    | some cut =>
      obtain ⟨body, after⟩ := cut
      have hslice : sliceAt cs (i + 2) (i + 2 + body.length) = .ok body :=
        sliceAt_of_drop (by have := lt_length_of_drop hrest; omega)
          (by rw [hinner, append_of_directiveBody? hbody])
      simp [firstPiece, isQuote, hbody, hslice, Piece.source]
      omega
  rw [if_neg hopen]
  by_cases hat : c = '@'
  · subst hat
    rw [if_pos rfl]
    by_cases hdouble : rest.head? = some '@'
    · obtain ⟨inner, rfl⟩ := List.head?_eq_some_iff.1 hdouble
      have hinner : cs.drop (i + 2) = inner := drop_succ_of_drop hrest
      obtain ⟨hname, hslice⟩ := name_eq (by have := lt_length_of_drop hrest; omega) hinner
      cases hs : splitName inner with
      | mk name after =>
        rw [hs] at hname hslice
        cases name with
        | nil =>
          simp only [List.head?_cons, ↓reduceIte, hname]
          simp [firstPiece, isQuote, hs, Piece.source, hend]
        | cons d more =>
          simp only [List.head?_cons, ↓reduceIte, hname, hslice]
          simp [firstPiece, isQuote, hs, Piece.source]
          omega
    · obtain ⟨hname, hslice⟩ := name_eq (by omega) hrest
      rw [firstPiece_at hdouble]
      cases hs : splitName rest with
      | mk name after =>
        rw [hs] at hname hslice
        cases name with
        | nil => simp [hdouble, hname, Piece.source, hend]
        | cons d more =>
          simp only [hdouble, ↓reduceIte, hname, hslice]
          simp [Piece.source]
          omega
  · have hplain : firstPiece c rest = (.plain c, rest) :=
      firstPiece_plain (by simpa using hq) hat (fun he hh => hesc ⟨he, hh⟩)
        fun he hh => hopen ⟨he, hh⟩
    rw [if_neg hat, hplain]
    rfl

theorem source_ne_nil_firstPiece (c : Char) (rest : List Char) :
    (firstPiece c rest).1.source ≠ [] := by
  intro h
  have hlen := congrArg List.length (source_firstPiece c rest)
  have hle := length_firstPiece c rest
  rw [h, List.nil_append, List.length_cons] at hlen
  omega

/-- The places of the pieces of a template: its positions increase from one piece to the next, each
piece stands at its position, and the pieces from there on are those of the text from there on. -/
structure Placed (cs : List Char) (i : Nat) (marks : List (Nat × Piece)) : Prop where
  pieces : marks.map Prod.snd = pieces (cs.drop i)
  increasing : (marks.map Prod.fst).Pairwise (· < ·)
  bounds : ∀ m ∈ marks, i ≤ m.1 ∧ m.1 + m.2.source.length ≤ cs.length
  source : ∀ m ∈ marks, m.2.source ≠ [] ∧ m.2.source <+: cs.drop m.1

/-- From every position on, no lookup is out of bounds and every step goes ahead. -/
theorem placed_marksFrom (cs : List Char) (i : Nat) :
    ∃ marks, marksFrom cs i = .ok marks ∧ Placed cs i marks := by
  induction hn : cs.length - i using Nat.strong_induction_on generalizing i with
  | _ n ih =>
  subst hn
  cases hd : cs.drop i with
  | nil =>
    refine ⟨[], ?_, by simp [hd], by simp, by simp, by simp⟩
    rw [marksFrom, if_neg (by have := List.drop_eq_nil_iff.1 hd; omega)]
    rfl
  | cons c rest =>
    have hlt := lt_length_of_drop hd
    have hcut := source_firstPiece c rest
    have hne := source_ne_nil_firstPiece c rest
    have hpos := List.length_pos_iff.2 hne
    rw [← hcut] at hd
    have hafter := drop_add_of_drop hd
    obtain ⟨marks, hmarks, hplaced⟩ := ih _ (by omega) (i + (firstPiece c rest).1.source.length) rfl
    have hat := pieceAt_eq (hd.trans hcut)
    refine ⟨(i, (firstPiece c rest).1) :: marks, ?_, ?_⟩
    · rw [marksFrom, if_pos hlt, hat]
      simp only [bind, Except.bind, hmarks, if_pos (Nat.lt_add_of_pos_right hpos)]
      rfl
    · refine ⟨?_, ?_, ?_, ?_⟩
      · rw [List.map_cons, hplaced.pieces, hafter, hd.trans hcut, pieces_cons]
      · refine List.pairwise_cons.2 ⟨fun j hj => ?_, hplaced.increasing⟩
        obtain ⟨m, hm, rfl⟩ := List.mem_map.1 hj
        have := (hplaced.bounds m hm).1
        omega
      · refine List.forall_mem_cons.2 ⟨⟨le_rfl, ?_⟩, fun m hm => ?_⟩
        · have hlen := congrArg List.length hd
          simp only [List.length_drop, List.length_append] at hlen
          simp only []
          omega
        · obtain ⟨hle, hend⟩ := hplaced.bounds m hm
          exact ⟨by omega, hend⟩
      · exact List.forall_mem_cons.2
          ⟨⟨hne, by rw [hd]; exact List.prefix_append _ _⟩, hplaced.source⟩

end QueryGen.Template
