import QueryGen.Text.Basic

/-!
# Template pieces

The first reading of a template: its characters fall into plain characters, quoted strings,
references and directives, without a look at what names and directives mean.

- `closeQuote?`: the rest of a quoted string and what follows it.
- `directiveBody?`: the body of a directive and what follows its closing braces.
- `splitName`: the name of a reference and what follows it.
- `pieces`: a template as pieces. The sources of the pieces, one after the other, are the template
  again (`source_pieces`).
-/

namespace QueryGen.Template

/-- The characters that open and close a quoted string. -/
def isQuote (c : Char) : Bool := c == '"' || c == '\'' || c == '\x60'

/-- Puts characters in front of the first part of a cut. -/
def onto (front : List Char) (cut : Option (List Char × List Char)) :
    Option (List Char × List Char) :=
  cut.map fun (body, after) => (front ++ body, after)

theorem onto_eq_some_iff {front body after : List Char} {cut : Option (List Char × List Char)} :
    onto front cut = some (body, after) ↔ ∃ b, cut = some (b, after) ∧ front ++ b = body := by
  simp [onto, Option.map_eq_some_iff]

/-- The text of a quoted string from after its opening quote `q` through its closing one, and what
follows. A backslash takes the next character with it. -/
def closeQuote? (q : Char) : List Char → Option (List Char × List Char)
  | [] => none
  | '\\' :: c :: rest => onto ['\\', c] (closeQuote? q rest)
  | c :: rest => if c = q then some ([c], rest) else onto [c] (closeQuote? q rest)

theorem append_of_closeQuote? {q : Char} {cs s after : List Char}
    (h : closeQuote? q cs = some (s, after)) : s ++ after = cs := by
  fun_induction closeQuote? q cs generalizing s with
  | case1 => simp at h
  | case2 c rest ih =>
    obtain ⟨b, hb, rfl⟩ := onto_eq_some_iff.1 h
    simp [ih hb]
  | case3 rest _ =>
    cases h
    simp
  | case4 c rest _ _ ih =>
    obtain ⟨b, hb, rfl⟩ := onto_eq_some_iff.1 h
    simp [ih hb]

/-- The body of a directive from after its opening braces, and what follows its closing ones.
Inside a quoted string braces do not count; outside, every open brace wants a closing one first. -/
def directiveBody? : Option Char → Nat → List Char → Option (List Char × List Char)
  | _, _, [] => none
  | some q, depth, '\\' :: c :: rest => onto ['\\', c] (directiveBody? (some q) depth rest)
  | some q, depth, c :: rest =>
    onto [c] (directiveBody? (if c = q then none else some q) depth rest)
  | none, 0, '}' :: '}' :: rest => some ([], rest)
  | none, depth, c :: rest =>
    if isQuote c then onto [c] (directiveBody? (some c) depth rest)
    else if c = '{' then onto [c] (directiveBody? none (depth + 1) rest)
    else if c = '}' then onto [c] (directiveBody? none (depth - 1) rest)
    else onto [c] (directiveBody? none depth rest)

theorem append_of_directiveBody? {quote : Option Char} {depth : Nat} {cs body after : List Char}
    (h : directiveBody? quote depth cs = some (body, after)) :
    body ++ '}' :: '}' :: after = cs := by
  fun_induction directiveBody? quote depth cs generalizing body with
  | case1 => simp at h
  | case4 rest =>
    cases h
    simp
  | case2 _ _ _ _ ih | case3 _ _ _ _ _ ih | case5 _ _ _ _ _ ih | case6 _ _ _ _ ih
  | case7 _ _ _ _ _ ih | case8 _ _ _ _ _ _ _ ih =>
    obtain ⟨b, hb, rfl⟩ := onto_eq_some_iff.1 h
    simp [ih hb]

/-- The characters of a name in a reference. -/
def isNameChar (c : Char) : Bool := Text.isWord c || c == '-' || c == '_' || c == '.'

/-- The name at the start of a text, and what follows it. Dots at the end are not part of it. -/
def splitName (cs : List Char) : List Char × List Char :=
  let name := Text.dropEndWhile (· == '.') (cs.takeWhile isNameChar)
  (name, cs.drop name.length)

/-- A piece of a template. -/
inductive Piece where
  /-- A character of SQL text. -/
  | plain (c : Char)
  /-- A quoted string with its quotes. -/
  | quoted (cs : List Char)
  /-- `\@` -/
  | escapedAt
  /-- `@name`, or `@@name` when `doubled`. -/
  | ref (doubled : Bool) (name : List Char)
  /-- The text between `{{` and `}}`. -/
  | directive (body : List Char)
  /-- The rest of a template from an opening that has no end. -/
  | broken (rest : List Char)
deriving DecidableEq, Repr

/-- The characters that a piece stands for. -/
def Piece.source : Piece → List Char
  | plain c => [c]
  | quoted cs => cs
  | escapedAt => ['\\', '@']
  | ref false name => '@' :: name
  | ref true name => '@' :: '@' :: name
  | directive body => '{' :: '{' :: (body ++ ['}', '}'])
  | broken rest => rest

/-- The piece at the start of a text that begins with `c`, and what follows it. -/
def firstPiece (c : Char) (rest : List Char) : Piece × List Char :=
  if isQuote c then
    match closeQuote? c rest with
    | some (s, after) => (.quoted (c :: s), after)
    | none => (.broken (c :: rest), [])
  else
    match c, rest with
    | '\\', '@' :: after => (.escapedAt, after)
    | '{', '{' :: inner =>
      match directiveBody? none 0 inner with
      | some (body, after) => (.directive body, after)
      | none => (.broken (c :: rest), [])
    | '@', '@' :: inner =>
      match splitName inner with
      | ([], _) => (.broken (c :: rest), [])
      | (name, after) => (.ref true name, after)
    | '@', inner =>
      match splitName inner with
      | ([], _) => (.broken (c :: rest), [])
      | (name, after) => (.ref false name, after)
    | c, rest => (.plain c, rest)

theorem append_splitName (cs : List Char) : (splitName cs).1 ++ (splitName cs).2 = cs := by
  have hp : (splitName cs).1 <+: cs := by
    refine List.IsPrefix.trans ?_ (List.takeWhile_prefix isNameChar)
    simp only [splitName, Text.dropEndWhile]
    rw [← List.reverse_suffix, List.reverse_reverse]
    exact List.dropWhile_suffix _
  exact List.prefix_iff_eq_append.1 hp

theorem source_firstPiece (c : Char) (rest : List Char) :
    (firstPiece c rest).1.source ++ (firstPiece c rest).2 = c :: rest := by
  unfold firstPiece
  split
  · split
    · next s after h => simp [Piece.source, append_of_closeQuote? h]
    · simp [Piece.source]
  · split
    · simp [Piece.source]
    · split
      · next body after h => simp [Piece.source, append_of_directiveBody? h]
      · simp [Piece.source]
    · next inner _ =>
      have hs := append_splitName inner
      split
      · simp [Piece.source]
      · next name after _ h =>
        rw [h] at hs
        simp [Piece.source, ← hs]
    · have hs := append_splitName rest
      split
      · simp [Piece.source]
      · next name after _ h =>
        rw [h] at hs
        simp [Piece.source, ← hs]
    · simp [Piece.source]

theorem length_firstPiece (c : Char) (rest : List Char) :
    (firstPiece c rest).2.length ≤ rest.length := by
  have h := congrArg List.length (source_firstPiece c rest)
  have hs : 1 ≤ (firstPiece c rest).1.source.length := by
    unfold firstPiece
    split
    · split <;> simp [Piece.source]
    · split <;> (try split) <;> simp [Piece.source]
  simp only [List.length_append, List.length_cons] at h
  omega

/-- A template as pieces, up to the first opening that has no end. -/
def pieces : List Char → List Piece
  | [] => []
  | c :: rest =>
    (firstPiece c rest).1 :: pieces (firstPiece c rest).2
termination_by cs => cs.length
decreasing_by
  have := length_firstPiece c rest
  simp
  omega

@[simp] theorem pieces_nil : pieces [] = [] := by simp [pieces]

theorem pieces_cons (c : Char) (rest : List Char) :
    pieces (c :: rest) = (firstPiece c rest).1 :: pieces (firstPiece c rest).2 := by
  rw [pieces]

/-- Nothing of a template is lost. -/
theorem source_pieces (cs : List Char) : (pieces cs).flatMap Piece.source = cs := by
  fun_induction pieces cs with
  | case1 => rfl
  | case2 c rest ih => simp [ih, source_firstPiece]

end QueryGen.Template
