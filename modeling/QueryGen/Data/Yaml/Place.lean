/-!
# Places in a text

How far a line is indented says what it belongs to, so a place knows its column.

- `Place`: what follows, and where that is.
- `Place.skip`: a place some characters further on.
- `Place.behindBlanks`: past blanks, line breaks and comments.
- `Place.atMark`: three dashes or dots at the start of a line, between documents.
-/

namespace QueryGen.Yaml

/-- A place in a text. -/
structure Place where
  rest : List Char
  /-- The number of characters before it. -/
  index : Nat := 0
  line : Nat := 0
  column : Nat := 0

def isBlank (c : Char) : Bool := c == ' ' || c == '\t'

/-- The characters that end a line. -/
def isBreak (c : Char) : Bool := c == '\n' || c == '\u2028' || c == '\u2029'

/-- Blank, or the end of a line or text. -/
def isGap : List Char → Bool
  | [] => true
  | c :: _ => isBlank c || isBreak c

/-- The end of a line or text. -/
def isLineEnd : List Char → Bool
  | [] => true
  | c :: _ => isBreak c

/-- The characters of names. -/
def isNameChar (c : Char) : Bool := c.isAlphanum || c == '_' || c == '-'

namespace Place

/-- The place behind the character here. -/
def next (p : Place) : Place :=
  match p.rest with
  | [] => p
  | c :: rest =>
    if isBreak c then ⟨rest, p.index + 1, p.line + 1, 0⟩
    else ⟨rest, p.index + 1, p.line, p.column + 1⟩

/-- The place `n` characters further on. -/
def skip : Nat → Place → Place
  | 0, p => p
  | n + 1, p => skip n p.next

@[simp] theorem rest_next (p : Place) : p.next.rest = p.rest.drop 1 := by
  unfold next
  split
  · next h => simp [h]
  · next h => split <;> simp [h]

theorem rest_skip (n : Nat) (p : Place) : (p.skip n).rest = p.rest.drop n := by
  induction n generalizing p with
  | zero => rfl
  | succ n ih => simp [skip, ih]

/-- The place behind the characters here that satisfy `f`. -/
def skipWhile (f : Char → Bool) (p : Place) : Place := p.skip (p.rest.takeWhile f).length

/-- The end of the line. -/
def toLineEnd (p : Place) : Place := p.skipWhile (!isBreak ·)

/-- Behind blanks, line breaks and comments. A tab counts as a blank if `tabs`, and on later lines
if `laterTabs`. A mark of the byte order may open a line. -/
def behindBlanks (laterTabs : Bool) : Bool → Bool → List Char → Nat → Nat → Nat → Place
  | _, _, [], index, line, column => ⟨[], index, line, column⟩
  | tabs, comment, c :: rest, index, line, column =>
    if isBreak c then behindBlanks laterTabs laterTabs false rest (index + 1) (line + 1) 0
    else if comment ∨ c = ' ' ∨ (tabs ∧ c = '\t') ∨ (column = 0 ∧ c = '\ufeff') then
      behindBlanks laterTabs tabs comment rest (index + 1) line (column + 1)
    else if c = '#' then behindBlanks laterTabs tabs true rest (index + 1) line (column + 1)
    else ⟨c :: rest, index, line, column⟩

/-- The next part of a text. -/
def toContent (tabs laterTabs : Bool) (p : Place) : Place :=
  behindBlanks laterTabs tabs false p.rest p.index p.line p.column

/-- A line that starts with `mark` and nothing right behind it. -/
def startsWith (mark : List Char) (p : Place) : Bool :=
  p.column == 0 && mark.isPrefixOf p.rest && isGap (p.rest.drop mark.length)

/-- The start of a document. -/
def atStart (p : Place) : Bool := p.startsWith ['-', '-', '-']

/-- The end of a document. -/
def atStop (p : Place) : Bool := p.startsWith ['.', '.', '.']

def atMark (p : Place) : Bool := p.atStart || p.atStop

end Place

end QueryGen.Yaml
