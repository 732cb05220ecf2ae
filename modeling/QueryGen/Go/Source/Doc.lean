import QueryGen.Go.Declaration
import QueryGen.Go.Source.Comment
import QueryGen.Go.Source.Token

/-!
# Comments of methods

A method goes with the block of comments that ends on the row above it.

- `BodyItem`: what stands in the body of an interface.
- `attachDocs`: the methods of a body with their comments.
-/

namespace QueryGen.Go

/-- What stands in the body of an interface. -/
inductive BodyItem where
  | comment (c : Comment)
  | method (m : Method) (row endRow : Nat)
  /-- An embedded interface or a union of types. -/
  | other (endRow : Nat)
deriving DecidableEq, Repr, Inhabited

/-- The comments that may belong to the next method. -/
structure PendingDoc where
  /-- Their lines, the first first. -/
  lines : List (List Char) := []
  /-- The row where the last of them ends. -/
  endRow : Option Nat := none
  /-- The row where the element before them ends. -/
  previous : Option Nat := none
deriving DecidableEq, Repr, Inhabited

namespace PendingDoc

/-- Adds a comment. One on the row of the element before is no part of a block, and a gap starts a
new block. -/
def add (p : PendingDoc) (c : Comment) : PendingDoc :=
  if p.previous = some c.row then p
  else
    let kept := if p.endRow.any (· + 1 < c.row) then [] else p.lines
    { p with lines := kept ++ stripMarkers c.text, endRow := some c.endRow }

/-- The text of the block, if it ends on the row above. -/
def docFor (p : PendingDoc) (row : Nat) : String :=
  if p.endRow.any (· + 1 == row) then .ofList (joinDoc p.lines) else ""

/-- What is pending behind an element. -/
def after (endRow : Nat) : PendingDoc := { previous := some endRow }

end PendingDoc

/-- The methods of a body, each with the comments above it. -/
def attachDocs (p : PendingDoc) : List BodyItem → List Method
  | [] => []
  | .comment c :: rest => attachDocs (p.add c) rest
  | .method m row endRow :: rest =>
    { m with doc := p.docFor row } :: attachDocs (.after endRow) rest
  | .other endRow :: rest => attachDocs (.after endRow) rest

/-- The methods among items, without comments. -/
def BodyItem.method? : BodyItem → Option Method
  | method m _ _ => some m
  | _ => none

theorem length_attachDocs (p : PendingDoc) (items : List BodyItem) :
    (attachDocs p items).length = (items.filterMap BodyItem.method?).length := by
  induction items generalizing p with
  | nil => rfl
  | cons item rest ih =>
    cases item <;> simp [attachDocs, BodyItem.method?, ih, List.filterMap_cons]

end QueryGen.Go
