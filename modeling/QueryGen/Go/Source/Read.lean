import QueryGen.Go.Identifier
import QueryGen.Go.Source.Token
import QueryGen.Text.Basic

/-!
# Reading from the front of a list of tokens

A reader takes something from the front of a list of tokens and gives the rest. Where one text can
be read in several ways, a reader gives them all, and what follows decides.

- `Read`, `Pass`: what readers give.
- `mark?`, `longestMark?`, `word?`, `name?`: single marks and words.
- `atLineEnd`, `endAt`: the ends of statements, declarations and elements.
- `partsFrom`: parts one after the other, over all ways to read them.
- `textUpTo`: the text of what was read.
-/

namespace QueryGen.Go

/-- What was read, and the tokens behind it. -/
abbrev Read (α : Type) : Type := α × List Token

/-- Passes over something: gives the tokens behind it, once for every way to read it. -/
abbrev Pass : Type := List Token → List (List Token)

/-- Drops repeated places. Rests of one list are the same if they are equally long. -/
def distinctEnds (ends : List (List Token)) : List (List Token) :=
  ends.foldr (fun ts kept => if kept.any (·.length == ts.length) then kept else ts :: kept) []

/-- The tokens before a rest. -/
def upTo (ts rest : List Token) : List Token := ts.take (ts.length - rest.length)

/-- The text of the tokens before a rest, on one line. -/
def textUpTo (ts rest : List Token) : String :=
  .ofList (Text.collapseBlanks (sourceOf (upTo ts rest)))

/-! ## Marks -/

/-- Takes the characters of a mark, with nothing in front of any of them. -/
def glued? : List Char → List Token → Option (List Token)
  | [], ts => some ts
  | _ :: _, [] => none
  | c :: cs, t :: rest =>
    if t.before.isEmpty && t.isMark (.singleton c) then glued? cs rest else none

/-- Takes a mark. -/
def mark? (mark : String) (ts : List Token) : Option (List Token) :=
  match mark.toList, ts with
  | c :: cs, t :: rest => if t.isMark (.singleton c) then glued? cs rest else none
  | _, _ => none

/-- Takes the longest of several marks. -/
def longestMark? (marks : List String) (ts : List Token) : Option (Read String) :=
  marks.foldl (fun best mark =>
    match mark? mark ts, best with
    | none, _ => best
    | some rest, none => some (mark, rest)
    | some rest, some (other, _) =>
      if other.length < mark.length then some (mark, rest) else best) none

/-- Whether the list begins with a mark. -/
def startsWith (mark : String) (ts : List Token) : Bool := (mark? mark ts).isSome

/-! ## Words -/

/-- Takes a word. -/
def word? (word : String) : List Token → Option (List Token)
  | t :: rest => if t.isWord word then some rest else none
  | [] => none

/-- Takes a name. Keywords are none. -/
def name? : List Token → Option (Read String)
  | t :: rest =>
    if t.kind == .word && !keywords.contains t.text then some (t.text, rest) else none
  | [] => none

/-! ## Ends -/

/-- Whether the next token stands on a new line, if that counts. -/
def atLineEnd (lines : Bool) (ts : List Token) : Bool := lines && ts.head?.any (·.onNewLine)

/-- Takes a mark, unless the line ends before it and that counts. -/
def markIn? (lines : Bool) (mark : String) (ts : List Token) : Option (List Token) :=
  if atLineEnd lines ts then none else mark? mark ts

/-- Whether a mark comes next and the line does not end before it, if that counts. -/
def startsIn (lines : Bool) (mark : String) (ts : List Token) : Bool :=
  (markIn? lines mark ts).isSome

/-- The marks that end what a line end may end. -/
def isEndMark (t : Token) : Bool := t.isMark ";" || t.isMark "\x00"

/-- Takes the end of a statement, a declaration or an element: a line end, which is no token, or a
mark. -/
def endAt : List Token → Option (List Token)
  | [] => none
  | t :: rest => if t.onNewLine then some (t :: rest) else if isEndMark t then some rest else none

/-- Whether nothing is left. -/
def atTextEnd (ts : List Token) : Bool := ts.head?.all (·.kind == .ending)

/-! ## Sequences -/

/-- The parts read up to a place, the last part first. -/
abbrev Progress (α : Type) : Type := List α × List Token

/-- Adds a progress to several, of which the first is the one with the most tokens left. Of two to
one place the one with more parts is kept, or else the first. -/
def addProgress {α : Type} (all : List (Progress α)) (new : Progress α) : List (Progress α) :=
  match all with
  | [] => [new]
  | old :: more =>
    if new.2.length = old.2.length then
      (if old.1.length < new.1.length then new else old) :: more
    else if old.2.length < new.2.length then new :: old :: more
    else old :: addProgress more new

/-- Reads parts up to where `done` takes the end, in at most `n` steps. `part` gives what stands
next, in every way to read it, and the place behind it. The first progress goes on, so no place is
read twice. -/
def partsFrom {α : Type} (done : List Token → Option (List Token))
    (part : List Token → List (Read (List α))) : Nat → List (Progress α) → Option (Read (List α))
  | 0, _ => none
  | _ + 1, [] => none
  | n + 1, (read, ts) :: more =>
    match done ts with
    | some rest => some (read.reverse, rest)
    | none =>
      partsFrom done part n <| (part ts).foldl
        (fun all (parts, rest) => addProgress all (parts.reverse ++ read, rest)) more

theorem glued?_nil (ts : List Token) : glued? [] ts = some ts := by
  cases ts <;> rfl

end QueryGen.Go
