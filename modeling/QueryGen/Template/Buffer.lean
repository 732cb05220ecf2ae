import QueryGen.Text.Basic

/-!
# SQL text under construction

- `SqlBuffer`: literal SQL text, read character by character.
- `SqlBuffer.writeSql`: a blank becomes one space, and no space follows another.
- `SqlBuffer.text`: the text so far.
-/

namespace QueryGen.Template

/-- Literal SQL text, the last character first. -/
structure SqlBuffer where
  reversed : List Char := []
deriving DecidableEq, Repr, Inhabited

namespace SqlBuffer

def empty : SqlBuffer := {}

/-- The text so far. -/
def text (b : SqlBuffer) : List Char := b.reversed.reverse

/-- The characters that SQL text does not tell apart. -/
def isSpace (c : Char) : Bool := c == '\n' || c == '\t' || c == '\r' || c == ' '

/-- Adds a character of SQL text. -/
def writeSql (b : SqlBuffer) (c : Char) : SqlBuffer :=
  if isSpace c then
    match b.reversed with
    | ' ' :: _ => b
    | rest => ⟨' ' :: rest⟩
  else ⟨c :: b.reversed⟩

/-- Adds characters as they are. -/
def writeRaw (b : SqlBuffer) (cs : List Char) : SqlBuffer := ⟨cs.reverse ++ b.reversed⟩

def isEmpty (b : SqlBuffer) : Bool := b.reversed.isEmpty

def isBlank (b : SqlBuffer) : Bool := b.reversed.all Text.isBlank

@[simp] theorem text_empty : empty.text = [] := rfl

@[simp] theorem text_writeRaw (b : SqlBuffer) (cs : List Char) :
    (b.writeRaw cs).text = b.text ++ cs := by
  simp [text, writeRaw]

theorem text_writeSql_of_not_isSpace {b : SqlBuffer} {c : Char} (h : isSpace c = false) :
    (b.writeSql c).text = b.text ++ [c] := by
  simp [text, writeSql, h]

theorem isEmpty_iff (b : SqlBuffer) : b.isEmpty = true ↔ b.text = [] := by
  simp [isEmpty, text]

theorem isBlank_eq (b : SqlBuffer) : b.isBlank = Text.isBlankText b.text := by
  simp [isBlank, text, Text.isBlankText]

end SqlBuffer

end QueryGen.Template
