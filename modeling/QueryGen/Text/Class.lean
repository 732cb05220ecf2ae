import QueryGen.Text.Alphabetic
import QueryGen.Text.LetterCase
import QueryGen.Text.NameCharacters

/-!
# Character classes

The classes by which the template language and the naming rules tell characters apart. All follow
Unicode; below U+0080 they are decided without the tables.

- `isBlank`: the property White_Space.
- `isLetter`, `isWord`: Alphabetic, and Alphabetic or a number.
- `isNameStart`, `isNamePart`: XID_Start and XID_Continue.
- `isUpper`, `isLower`: Uppercase and Lowercase.
- `isControl`: the general category Cc.
-/

namespace QueryGen.Text

/-- The property White_Space. -/
def isBlank (c : Char) : Bool :=
  inIntervals [(0x09, 0x0D), (0x20, 0x20), (0x85, 0x85), (0xA0, 0xA0), (0x1680, 0x1680),
    (0x2000, 0x200A), (0x2028, 0x2029), (0x202F, 0x202F), (0x205F, 0x205F), (0x3000, 0x3000)]
    c.toNat

/-- The property Alphabetic. -/
def isLetter (c : Char) : Bool :=
  if c.toNat < 0x80 then c.isAlpha else inIntervals alphabetic c.toNat

/-- Alphabetic, or a number of any script. -/
def isWord (c : Char) : Bool :=
  if c.toNat < 0x80 then c.isAlphanum
  else inIntervals alphabetic c.toNat || inIntervals numeric c.toNat

/-- The property XID_Start: a character that may begin a name. -/
def isNameStart (c : Char) : Bool :=
  if c.toNat < 0x80 then c.isAlpha else inIntervals nameStarts c.toNat

/-- The property XID_Continue: a character that may stand in a name. -/
def isNamePart (c : Char) : Bool :=
  if c.toNat < 0x80 then c.isAlphanum || c == '_'
  else inIntervals nameStarts c.toNat || inIntervals nameMarks c.toNat

/-- The property Uppercase. -/
def isUpper (c : Char) : Bool :=
  if c.toNat < 0x80 then c.isUpper else inRuns uppercase c.toNat

/-- The property Lowercase. -/
def isLower (c : Char) : Bool :=
  if c.toNat < 0x80 then c.isLower else inRuns lowercase c.toNat

/-- The C0 and C1 controls and U+007F. -/
def isControl (c : Char) : Bool := c.toNat < 0x20 || (0x7F ≤ c.toNat && c.toNat < 0xA0)

/-- A decimal digit of ASCII. -/
abbrev isDigit (c : Char) : Bool := c.isDigit

theorem isBlank_space : isBlank ' ' = true := by decide

theorem isWord_of_isLetter {c : Char} (h : isLetter c = true) : isWord c = true := by
  unfold isLetter at h
  unfold isWord
  split at h
  · rw [if_pos ‹_›]
    simp [Char.isAlphanum, h]
  · rw [if_neg ‹_›]
    simp [h]

theorem isNamePart_of_isNameStart {c : Char} (h : isNameStart c = true) :
    isNamePart c = true := by
  unfold isNameStart at h
  unfold isNamePart
  split at h
  · rw [if_pos ‹_›]
    simp [Char.isAlphanum, h]
  · rw [if_neg ‹_›]
    simp [h]

end QueryGen.Text
