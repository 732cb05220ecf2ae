import QueryGen.Text.Class

/-!
# Cutting and joining text

Texts are worked on as lists of characters.

- `trimStart`, `trimEnd`, `trim`: drop blank characters at the ends.
- `splitWith`, `splitOn`, `lines`, `words`: cut at characters, at line ends, at blanks.
- `join`, `unlines`: put a separator between parts.
- `splitAt?`, `splitBytes?`: cut where a text stands for the first time, and behind some bytes.
-/

namespace QueryGen.Text

def trimStart (cs : List Char) : List Char := cs.dropWhile isBlank

/-- Drops the characters at the end that satisfy `p`. -/
def dropEndWhile (p : Char → Bool) (cs : List Char) : List Char :=
  (cs.reverse.dropWhile p).reverse

def trimEnd (cs : List Char) : List Char := dropEndWhile isBlank cs

def trim (cs : List Char) : List Char := trimEnd (trimStart cs)

/-- Drops the characters at both ends that satisfy `p`. -/
def trimMatches (p : Char → Bool) (cs : List Char) : List Char :=
  dropEndWhile p (cs.dropWhile p)

/-- Only blank characters. -/
def isBlankText (cs : List Char) : Bool := cs.all isBlank

/-- Cuts at every element that satisfies `p`; a list without one is a single part. -/
def splitWith {α : Type} (p : α → Bool) : List α → List (List α)
  | [] => [[]]
  | c :: rest =>
    if p c then [] :: splitWith p rest
    else match splitWith p rest with
      | [] => [[c]]
      | part :: parts => (c :: part) :: parts

theorem splitWith_ne_nil {α : Type} (p : α → Bool) (cs : List α) : splitWith p cs ≠ [] := by
  cases cs with
  | nil => simp [splitWith]
  | cons c rest =>
    unfold splitWith
    split
    · simp
    · split <;> simp

def splitOn (sep : Char) (cs : List Char) : List (List Char) := splitWith (· == sep) cs

/-- The parts between blanks. -/
def words (cs : List Char) : List (List Char) := (splitWith isBlank cs).filter (· ≠ [])

/-- Drops one carriage return at the end. -/
def dropReturn (cs : List Char) : List Char :=
  match cs.reverse with
  | '\r' :: rest => rest.reverse
  | _ => cs

/-- The lines of a text. A line end at the end of the text opens no further line, and a carriage
return before a line feed belongs to the line end. -/
def lines : List Char → List (List Char)
  | [] => []
  | cs =>
    let parts := splitOn '\n' cs
    let complete := parts.dropLast.map dropReturn
    match parts.getLast? with
    | none | some [] => complete
    | some last => complete ++ [last]

/-- Puts `sep` between the parts. -/
def join (sep : List Char) (parts : List (List Char)) : List Char := sep.intercalate parts

/-- The text before and after the first place where `needle` stands. -/
def splitAt? (needle : List Char) : List Char → Option (List Char × List Char)
  | [] => if needle = [] then some ([], []) else none
  | c :: rest =>
    match needle.isPrefixOf? (c :: rest) with
    | some after => some ([], after)
    | none => (splitAt? needle rest).map fun (before, after) => (c :: before, after)

/-- Whether `needle` stands somewhere in the text. -/
def contains (needle cs : List Char) : Bool := (splitAt? needle cs).isSome

/-- The text before and after the first character that satisfies `p`. -/
def cutFirst? (p : Char → Bool) (cs : List Char) : Option (List Char × List Char) :=
  match cs.span (!p ·) with
  | (before, _ :: after) => some (before, after)
  | (_, []) => none

/-- The text before and after the last character that satisfies `p`. -/
def cutLast? (p : Char → Bool) (cs : List Char) : Option (List Char × List Char) :=
  (cutFirst? p cs.reverse).map fun (after, before) => (before.reverse, after.reverse)

/-- Cuts behind the first `n` bytes of UTF-8, unless that is inside a character or past the end. -/
def splitBytes? : Nat → List Char → Option (List Char × List Char)
  | 0, cs => some ([], cs)
  | _ + 1, [] => none
  | n + 1, c :: rest =>
    if c.utf8Size ≤ n + 1 then
      (splitBytes? (n + 1 - c.utf8Size) rest).map fun (before, after) => (c :: before, after)
    else none

theorem append_of_splitBytes? {n : Nat} {cs before after : List Char}
    (h : splitBytes? n cs = some (before, after)) : before ++ after = cs := by
  fun_induction splitBytes? n cs generalizing before with
  | case1 =>
    cases h
    rfl
  | case2 => simp at h
  | case3 n c rest _ ih =>
    obtain ⟨⟨b, a⟩, hb, he⟩ := Option.map_eq_some_iff.1 h
    cases he
    simp [ih hb]
  | case4 => simp at h

/-- Every run of blanks becomes one space, and none is left at the ends. -/
def collapseBlanks (cs : List Char) : List Char := join [' '] (words cs)

end QueryGen.Text

namespace QueryGen

/-! ## On strings -/

/-- Drops blank characters at both ends. -/
def trimmed (s : String) : String := .ofList (Text.trim s.toList)

/-- No character, or only blank ones. -/
def isBlankString (s : String) : Bool := Text.isBlankText s.toList

end QueryGen
