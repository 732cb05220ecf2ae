import QueryGen.Text.CaseMap
import QueryGen.Text.Class

/-!
# Upper and lower case

- `lowerChar`, `upperChar`: the full mappings of a character; either may give several characters.
- `lower`, `upper`: the mappings of a text. A capital sigma that ends a word becomes a final sigma.
-/

namespace QueryGen.Text

/-- The lower-case form of a character. U+0130 alone has two characters. -/
def lowerChar (c : Char) : List Char :=
  if c.toNat < 0x80 then [c.toLower]
  else if c.toNat = 0x130 then ['i', Char.ofNat 0x307]
  else match mapRuns? lowerRuns c.toNat with
    | some n => [Char.ofNat n]
    | none => [c]

/-- The upper-case form of a character. -/
def upperChar (c : Char) : List Char :=
  if c.toNat < 0x80 then [c.toUpper]
  else match upperMany.lookup c.toNat with
    | some ns => ns.map Char.ofNat
    | none => match mapRuns? upperRuns c.toNat with
      | some n => [Char.ofNat n]
      | none => [c]

/-- A letter that has case. -/
def isCased (c : Char) : Bool :=
  isUpper c || isLower c || inIntervals titlecase c.toNat

/-- A character that the rule for a final sigma looks through. -/
def isCaseIgnorable (c : Char) : Bool := inIntervals caseIgnorable c.toNat

/-- Whether the nearest character that is not ignorable has case. -/
def nextIsCased (cs : List Char) : Bool :=
  match cs.dropWhile isCaseIgnorable with
  | [] => false
  | c :: _ => isCased c

/-- A sigma is final when a cased letter stands before it and none after it. -/
def sigma (before after : List Char) : Char :=
  if nextIsCased before && !nextIsCased after then 'ς' else 'σ'

/-- Lower case of a text. `before` holds what was read, the nearest character first. -/
def lowerFrom (before : List Char) : List Char → List Char
  | [] => []
  | c :: rest =>
    (if c = 'Σ' then [sigma before rest] else lowerChar c) ++ lowerFrom (c :: before) rest

def lower (cs : List Char) : List Char := lowerFrom [] cs

def upper (cs : List Char) : List Char := cs.flatMap upperChar

/-- The forms of an ASCII letter that a comparison without regard to ASCII case identifies. -/
def sameAsciiCase (a b : List Char) : Bool := a.map Char.toLower == b.map Char.toLower

theorem upper_append (a b : List Char) : upper (a ++ b) = upper a ++ upper b := by
  simp [upper]

end QueryGen.Text
