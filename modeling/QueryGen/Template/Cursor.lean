import QueryGen.Template.Section

/-!
# A place among sections

- `Cursor`: the sections before and behind a place.
- `Cursor.next`, `Cursor.back`: one section further, and one back.
-/

namespace QueryGen.Template

/-- A place among sections. -/
structure Cursor where
  /-- The sections before the place, the nearest first. -/
  passed : List Section := []
  ahead : List Section
deriving DecidableEq, Repr, Inhabited

namespace Cursor

def ofList (sections : List Section) : Cursor := ⟨[], sections⟩

/-- All sections. -/
def toList (c : Cursor) : List Section := c.passed.reverse ++ c.ahead

/-- The section behind the place. -/
def peek? (c : Cursor) : Option Section := c.ahead.head?

/-- The section behind the place, and the place behind that section. -/
def next (c : Cursor) : Option Section × Cursor :=
  match c.ahead with
  | [] => (none, c)
  | s :: rest => (some s, ⟨s :: c.passed, rest⟩)

/-- The place before the nearest section that was passed. -/
def back (c : Cursor) : Cursor :=
  match c.passed with
  | [] => c
  | s :: rest => ⟨rest, s :: c.ahead⟩

def position (c : Cursor) : Nat := c.passed.length

def isEnd (c : Cursor) : Bool := c.ahead.isEmpty

@[simp] theorem toList_ofList (sections : List Section) : (ofList sections).toList = sections := rfl

theorem toList_next (c : Cursor) : c.next.2.toList = c.toList := by
  obtain ⟨passed, ahead⟩ := c
  cases ahead <;> simp [next, toList]

theorem toList_back (c : Cursor) : c.back.toList = c.toList := by
  obtain ⟨passed, ahead⟩ := c
  cases passed <;> simp [back, toList]

theorem back_next {c : Cursor} {s : Section} {rest : List Section} (h : c.ahead = s :: rest) :
    c.next.2.back = c := by
  obtain ⟨passed, ahead⟩ := c
  cases h
  rfl

end Cursor

end QueryGen.Template
