import QueryGen.Go.Source.Expression

/-!
# Passing over statements

Nothing in a statement is kept, but it has to be in order. A reader of statements gives the tokens
behind one, for every way to read it.

The head of a statement with a block may end in a selector or an instance, and with a brace behind
it that may be a literal as well. Both readings are kept until one of them fails.

- `blockAt`: a block with its braces.
- `statementAt`: a statement.
-/

namespace QueryGen.Go

/-! ## Simple statements -/

/-- What a simple statement is, as far as heads ask for it. -/
inductive SimpleForm where
  /-- An expression alone. -/
  | value
  /-- Names that are declared with a single value. -/
  | define
  /-- The variables of a loop over a range, with the range. -/
  | range
  | other
deriving DecidableEq, Repr, Inhabited

/-- The right side of an assignment behind the given mark. `ranges` tells whether it may be a
range. -/
def rightSideAt (block : Pass) (n : Nat) (right : Place) (ranges : Bool) (mark : String)
    (ts : List Token) : List (Read SimpleForm) :=
  let range := if ranges && (mark == "=" || mark == ":=") then word? "range" ts else none
  match range with
  | some rest => (exprAt block n .beforeBlock rest).map (.range, ·)
  | none => (exprAt block n right ts).flatMap fun rest =>
    match markIn? right.lines "," rest with
    | some more => (exprsAt block n right more).map (.other, ·)
    | none => [(if mark == ":=" then .define else .other, rest)]

/-- An expression, an assignment, a step of a counter, or the sending of a value. It begins at the
place `left` and goes on at the place `right`. -/
def simpleAt (block : Pass) (n : Nat) (left right : Place) (ranges : Bool) (ts : List Token) :
    List (Read SimpleForm) :=
  (exprAt block n left ts).flatMap fun rest =>
    match markIn? left.lines "," rest with
    | some more => (exprsAt block n .targets more).flatMap fun rest =>
      match longestMark? assignMarks rest with
      | some (mark, rest) => rightSideAt block n right ranges mark rest
      | none => []
    | none =>
      match left.mark? rest with
      | none => [(.value, rest)]
      | some (mark, more) =>
        if mark == "++" || mark == "--" then [(.other, more)]
        else if mark == "<-" then (exprAt block n right more).map (.other, ·)
        else if assignMarks.contains mark then rightSideAt block n right ranges mark more
        else [(.value, rest)]

/-- A simple statement as a statement of its own. -/
def simpleStatementAt (block : Pass) (n : Nat) : Pass := fun ts =>
  (simpleAt block n .statement .line false ts).map Prod.snd

/-! ## Heads -/

/-- The head of an `if`. -/
def conditionAt (block : Pass) (n : Nat) : Pass := fun ts =>
  (simpleAt block n .head .brackets false ts).flatMap fun (form, rest) =>
    (if form = .value then [rest] else []) ++
      match mark? ";" rest with
      | some rest => exprAt block n .beforeBlock rest
      | none => []

/-- The condition and the step of a loop, behind the first semicolon. -/
def loopPartsAt (block : Pass) (n : Nat) : Pass := fun ts =>
  let conditions := if startsWith ";" ts then [ts] else exprAt block n .brackets ts
  (conditions.filterMap (mark? ";")).flatMap fun rest =>
    if startsWith "\x7b" rest then [rest]
    else (simpleAt block n .head .beforeBlock false rest).map Prod.snd

/-- The head of a `for`: nothing, a range, three parts, or a condition. -/
def loopHeadAt (block : Pass) (n : Nat) : Pass := fun ts =>
  if startsWith "\x7b" ts then [ts]
  else match word? "range" ts, mark? ";" ts with
    | some rest, _ => exprAt block n .beforeBlock rest
    | none, some rest => loopPartsAt block n rest
    | none, none =>
      (simpleAt block n .head .brackets true ts).flatMap fun (form, rest) =>
        (if form = .value || form = .range then [rest] else []) ++
          match mark? ";" rest with
          | some rest => loopPartsAt block n rest
          | none => []

/-- What a `switch` is over. -/
inductive SwitchKind where
  | values | types
deriving DecidableEq, Repr, Inhabited

/-- The word `type` in brackets behind a point. -/
def typeGuard? (ts : List Token) : Option (List Token) := do
  mark? ")" (← word? "type" (← mark? "(" (← mark? "." ts)))

/-- What a `switch` is over, behind a simple statement of the given form. -/
def switchKindAt (form : SimpleForm) (ts : List Token) : List (Read SwitchKind) :=
  match typeGuard? ts with
  | some rest => if form = .value || form = .define then [(.types, rest)] else []
  | none => if form = .value then [(.values, ts)] else []

/-- The head of a `switch`. -/
def switchHeadAt (block : Pass) (n : Nat) (ts : List Token) : List (Read SwitchKind) :=
  if startsWith "\x7b" ts then [(.values, ts)]
  else (simpleAt block n .head .brackets false ts).flatMap fun (form, rest) =>
    switchKindAt form rest ++
      match mark? ";" rest with
      | none => []
      | some rest =>
        if startsWith "\x7b" rest then [(.values, rest)]
        else (simpleAt block n { block := true, marks := [":="] } .brackets false rest).flatMap
          fun (form, rest) => switchKindAt form rest

/-- What is waited for in a case of a `select`: a value that is sent, or one that is received and
perhaps assigned. -/
def communicationAt (block : Pass) (n : Nat) : Pass := fun ts =>
  (exprAt block n { marks := ["<-", "=", ":="] } ts).flatMap fun rest =>
    match mark? "," rest with
    | some more => (exprsAt block n .targets more).flatMap fun rest =>
      match longestMark? ["=", ":="] rest with
      | some (_, rest) => exprAt block n .brackets rest
      | none => []
    | none =>
      match longestMark? ["<-", "=", ":="] rest with
      | some (_, rest) => exprAt block n .brackets rest
      | none => [rest]

/-! ## Statements -/

/-- Whether a list of statements ends here, in a block or between cases. -/
def endsBody (cases : Bool) (ts : List Token) : Bool :=
  startsWith "\x7d" ts || (cases && ((word? "case" ts).isSome || (word? "default" ts).isSome))

/-- Stays where a list of statements ends. -/
def bodyEnd? (cases : Bool) (ts : List Token) : Option (List Token) :=
  if endsBody cases ts then some ts else none

/-- Takes a label. -/
def label? (ts : List Token) : Option (List Token) := do
  let (name, rest) ← name? ts
  if valueWords.contains name || atLineEnd true rest then none
  else match longestMark? [":", ":="] rest with
    | some (":", rest) => some rest
    | _ => none

/-- A name behind a keyword, which may be missing. -/
def optionalNameAt : Pass := fun ts =>
  ts :: if atLineEnd true ts then [] else ((name? ts).map Prod.snd).toList

mutual

/-- A block with its braces. -/
def blockAt : Nat → Pass
  | 0, _ => []
  | n + 1, ts =>
    match mark? "\x7b" ts with
    | some rest => (bodyAt n false [rest]).filterMap (mark? "\x7d")
    | none => []

/-- Statements from any of several places up to the end of a block or a case. -/
def bodyAt : Nat → Bool → List (List Token) → List (List Token)
  | 0, _, _ => []
  | n + 1, cases, places =>
    let start := (places.map ([], ·)).foldl addProgress []
    ((partsFrom (bodyEnd? cases) (lineAt n cases) n start).map Prod.snd).toList

/-- A statement with what ends it. A label may stand alone at the end of a list of statements. -/
def lineAt : Nat → Bool → List Token → List (Read (List Unit))
  | 0, _, _ => []
  | n + 1, cases, ts =>
    match (label? ts).filter (endsBody cases) with
    | some rest => [([()], rest)]
    | none => (statementAt n ts).filterMap fun rest =>
      (if endsBody cases rest then some rest else endAt rest).map ([()], ·)

/-- A statement. -/
def statementAt : Nat → Pass
  | 0, _ => []
  | _, [] => []
  | n + 1, t :: rest =>
    let block := blockAt n
    let value := exprAt block n .brackets
    let values := exprsAt block n .line
    match t.kind, t.text with
    | .mark, "\x7b" => block (t :: rest)
    | .mark, ";" => [rest]
    | .word, "type" => (specsAt (typeSpecAt value n) true n rest).map Prod.snd
    | .word, "const" => (specsAt (constSpecAt value values n) false n rest).map Prod.snd
    | .word, "var" => (specsAt (varSpecAt value values n) false n rest).map Prod.snd
    | .word, "return" => rest :: if atLineEnd true rest then [] else values rest
    | .word, "go" => exprAt block n .line rest
    | .word, "defer" => exprAt block n .line rest
    | .word, "break" => optionalNameAt rest
    | .word, "continue" => optionalNameAt rest
    | .word, "goto" => ((name? rest).map Prod.snd).toList
    | .word, "fallthrough" => [rest]
    | .word, "if" => ifAt n rest
    | .word, "for" => distinctEnds ((loopHeadAt block n rest).flatMap block)
    | .word, "switch" => distinctEnds <| (switchHeadAt block n rest).flatMap fun (kind, rest) =>
      match mark? "\x7b" rest, kind with
      | some rest, .values => casesAt (exprsAt block n .brackets) n rest
      | some rest, .types => casesAt (typesAt value n) n rest
      | none, _ => []
    | .word, "select" =>
      match mark? "\x7b" rest with
      | some rest => casesAt (communicationAt block n) n rest
      | none => []
    | _, _ =>
      match label? (t :: rest) with
      | some rest => statementAt n rest
      | none => distinctEnds (simpleStatementAt block n (t :: rest))

/-- An `if` behind its keyword, with what belongs to it. -/
def ifAt : Nat → Pass
  | 0, _ => []
  | n + 1, ts =>
    distinctEnds <| ((conditionAt (blockAt n) n ts).flatMap (blockAt n)).flatMap fun rest =>
      match if atLineEnd true rest then none else word? "else" rest with
      | none => [rest]
      | some behind =>
        match word? "if" behind with
        | some rest => ifAt n rest
        | none => blockAt n behind

/-- Cases up to the closing brace. -/
def casesAt (label : Pass) : Nat → Pass
  | 0, _ => []
  | n + 1, ts =>
    match mark? "\x7d" ts with
    | some rest => [rest]
    | none =>
      let heads := match word? "case" ts with
        | some rest => label rest
        | none => (word? "default" ts).toList
      let bodies := heads.filterMap (mark? ":")
      (bodyAt n true bodies).flatMap (casesAt label n)

end

end QueryGen.Go
