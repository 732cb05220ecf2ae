import QueryGen.Go.Source.Spec

/-!
# Passing over expressions

Of an expression only its end is asked for, and how operators bind does not matter. A name may
stand for a value or for a type, and a type may begin a literal, a conversion or an instance of a
generic function, so some texts have several ends. What is a type already goes on over a line end,
since nothing ends there.

- `Place`: where an expression stands. It decides what a line end, a brace and a mark mean.
- `exprAt`: an expression. Function literals hold blocks, which are passed over by `block`.
- `exprsAt`, `typesAt`: expressions or types with commas between them.
-/

namespace QueryGen.Go

/-- Where an expression stands. -/
structure Place where
  /-- Whether it may end with the line. -/
  lines : Bool := false
  /-- Whether a block may follow, so that a brace behind a name begins it. -/
  block : Bool := false
  /-- The marks behind it that an operator could be confused with. -/
  marks : List String := []
deriving DecidableEq, Repr, Inhabited

/-- The marks that step a counter or send a value. -/
def stepMarks : List String := ["++", "--", "<-"]

/-- The marks between the two sides of an assignment. -/
def assignMarks : List String :=
  ["=", ":=", "+=", "-=", "*=", "/=", "%=", "&=", "|=", "^=", "<<=", ">>=", "&^="]

/-- The operators in front of an operand. -/
def unaryMarks : List String := ["+", "-", "!", "^", "*", "&", "<-"]

/-- The operators between operands. -/
def binaryMarks : List String :=
  ["*", "/", "%", "<<", ">>", "&", "&^", "+", "-", "|", "^", "==", "!=", "<", "<=", ">", ">=", "&&",
   "||"]

/-- What begins a selector, a call and an index. -/
def suffixMarks : List String := [".", "(", "["]

namespace Place

/-- Between brackets, and in front of a mark that is no operator. -/
def brackets : Place := {}

/-- Among the arguments of a call. -/
def arguments : Place := { marks := ["..."] }

/-- At the end of a line. -/
def line : Place := { lines := true }

/-- At the beginning of a statement. -/
def statement : Place := { lines := true, marks := stepMarks ++ assignMarks }

/-- Among several targets of an assignment. -/
def targets : Place := { marks := assignMarks }

/-- At the beginning of a head with a block behind it. -/
def head : Place := { block := true, marks := stepMarks ++ assignMarks }

/-- In front of a block. -/
def beforeBlock : Place := { block := true }

/-- The longest mark that may stand here behind an operand. -/
def mark? (p : Place) (ts : List Token) : Option (Read String) :=
  if atLineEnd p.lines ts then none
  else longestMark? (suffixMarks ++ binaryMarks ++ p.marks) ts

end Place

/-- Whether the type before `rest` ends in type arguments. -/
def endsInArguments (ts rest : List Token) : Bool :=
  (upTo ts rest).getLast?.any (·.isMark "]")

/-- Whether a bar stands between the bracket that is still open behind some tokens and their end.
The last token comes first, and `depth` counts the brackets inside that are open there. -/
def barsInside (depth : Nat) : List Token → Bool
  | [] => false
  | t :: before =>
    if ["]", ")", "\x7d"].any (t.isMark ·) then barsInside (depth + 1) before
    else if ["[", "(", "\x7b"].any (t.isMark ·) then
      match depth with
      | 0 => false
      | nested + 1 => barsInside nested before
    else depth == 0 && t.isMark "|" || barsInside depth before

/-- Whether the type before `rest` may be an instance of a generic function: it ends in type
arguments that are single types. -/
def endsInInstance (ts rest : List Token) : Bool :=
  match (upTo ts rest).reverse with
  | [] => false
  | t :: before => t.isMark "]" && !barsInside 0 before

/-- Whether one of the places stands on a new line, if that counts. -/
def anyAtLineEnd (lines : Bool) (ends : List (List Token)) : Bool := ends.any (atLineEnd lines)

mutual

/-- An expression. -/
def exprAt (block : Pass) : Nat → Place → Pass
  | 0, _, _ => []
  | n + 1, p, ts =>
    distinctEnds <| (unaryAt block n p ts).flatMap fun rest =>
      match p.mark? rest with
      | some (mark, right) =>
        if binaryMarks.contains mark then exprAt block n p right else [rest]
      | none => [rest]

/-- An operand with what stands in front of it and behind it. -/
def unaryAt (block : Pass) : Nat → Place → Pass
  | 0, _, _ => []
  | n + 1, p, ts =>
    match unaryMarks.findSome? (mark? · ts) with
    | some rest => unaryAt block n p rest
    | none => operandAt block n p ts

/-- An operand with what stands behind it. -/
def operandAt (block : Pass) : Nat → Place → Pass
  | 0, _, _ => []
  | _, _, [] => []
  | n + 1, p, t :: rest =>
    match t.kind with
    | .number => suffixesAt block n p rest
    | .rune => suffixesAt block n p rest
    | .string => suffixesAt block n p rest
    | .ending => []
    | .mark =>
      if t.isMark "(" then bracketedAt block n p rest
      else if t.isMark "[" || t.isMark "~" then typedAt block n p (t :: rest)
      else []
    | .word =>
      if t.isWord "func" then functionLiteralAt block n p (t :: rest)
      else if typeKeywords.contains t.text then typedAt block n p (t :: rest)
      else if keywords.contains t.text then []
      else if t.isWord "new" || t.isWord "make" then
        match markIn? p.lines "(" rest with
        | some rest => (allocationAt block n rest).flatMap (suffixesAt block n p)
        | none => suffixesAt block n p rest
      else if valueWords.contains t.text then suffixesAt block n p rest
      else nameAt block n p (t :: rest)

/-- A function literal, or a function type that begins a conversion or an instance. Of an instance
in front of a block the block may look like the body of a literal. -/
def functionLiteralAt (block : Pass) : Nat → Place → Pass
  | 0, _, _ => []
  | n + 1, p, ts =>
    let value := exprAt block n .brackets
    let bodies := match ((word? "func" ts).bind (paramsAt value n)).bind fun (_, rest) =>
        resultAt value n false rest with
      | some (_, rest) => block rest
      | none => []
    let types := if bodies.isEmpty || p.block then typedAt block n p ts else []
    bodies.flatMap (suffixesAt block n p) ++ types

/-- An expression in brackets, or a type in brackets that begins a conversion or an instance. -/
def bracketedAt (block : Pass) : Nat → Place → Pass
  | 0, _, _ => []
  | n + 1, p, ts =>
    let closed := (exprAt block n .brackets ts).filterMap (mark? ")")
    let broken := anyAtLineEnd p.lines closed
    let types :=
      if closed.isEmpty || broken || closed.any (startsWith "[") then
        match (typeAt (exprAt block n .brackets) n false ts).bind fun (_, rest) =>
            mark? ")" rest with
        | some rest => typeUseAt block n p (closed.isEmpty || broken) rest
        | none => []
      else []
    closed.flatMap (suffixesAt block n p) ++ types

/-- What begins with a name. -/
def nameAt (block : Pass) : Nat → Place → Pass
  | 0, _, _ => []
  | _, _, [] => []
  | n + 1, p, t :: rest =>
    match if p.block then none else markIn? p.lines "\x7b" rest with
    | some inner => (elementsAt block n inner).flatMap (suffixesAt block n p)
    | none =>
      let types :=
        if startsIn p.lines "." rest || startsIn p.lines "[" rest then
          match namedAt (exprAt block n .brackets) n p.lines false (t :: rest) with
          | some (_, behind) =>
            let later := (upTo rest behind).drop 1 ++ behind.take 1
            typedEndAt block n p true (p.lines && later.any (·.onNewLine)) (t :: rest) behind
          | none => []
        else []
      suffixesAt block n p rest ++ types

/-- What begins with a type that is no name. The length of an array literal may be left open. -/
def typedAt (block : Pass) : Nat → Place → Pass
  | 0, _, _ => []
  | n + 1, p, ts =>
    let value := exprAt block n .brackets
    match ((mark? "[" ts).bind (mark? "...")).bind (mark? "]") with
    | some rest =>
      match (typeAt value n false rest).bind fun (_, rest) => mark? "\x7b" rest with
      | some inner => (elementsAt block n inner).flatMap (suffixesAt block n p)
      | none => []
    | none =>
      match typeAt value n false ts with
      | some (_, rest) =>
        let literal := ts.head?.any fun t =>
          t.isMark "[" || t.isWord "map" || t.isWord "struct" ||
            (t.isMark "~" && endsInArguments ts rest)
        typedEndAt block n p literal true ts rest
      | none => []

/-- What stands behind a type from `ts` to `rest`: a literal, if there may be one, or a use of the
type. With type arguments it may be complete. -/
def typedEndAt (block : Pass) : Nat → Place → Bool → Bool → List Token → Pass
  | 0, _, _, _, _, _ => []
  | n + 1, p, literal, calls, ts, rest =>
    let literals := match if literal then mark? "\x7b" rest else none with
      | some inner => (elementsAt block n inner).flatMap (suffixesAt block n p)
      | none => []
    let complete := if endsInInstance ts rest then suffixesAt block n p rest else []
    literals ++ typeUseAt block n p calls rest ++ complete

/-- A conversion or an instance behind its type. A conversion that is a call too is left out
unless `calls` asks for it. -/
def typeUseAt (block : Pass) : Nat → Place → Bool → Pass
  | 0, _, _, _ => []
  | n + 1, p, calls, ts =>
    let conversions := match if calls then mark? "(" ts else none with
      | some inner => conversionAt block n inner
      | none => []
    let instances := match (mark? "[" ts).bind (argsAt (exprAt block n .brackets) n) with
      | some (_, rest) => if endsInInstance ts rest then [rest] else []
      | none => []
    (conversions ++ instances).flatMap (suffixesAt block n p)

/-- The operand of a conversion, up to the closing bracket. -/
def conversionAt (block : Pass) : Nat → Pass
  | 0, _ => []
  | n + 1, ts =>
    (exprAt block n .brackets ts).filterMap fun rest => mark? ")" ((mark? "," rest).getD rest)

/-- Selectors, calls, indices and type assertions behind a value. -/
def suffixesAt (block : Pass) : Nat → Place → Pass
  | 0, _, _ => []
  | n + 1, p, ts =>
    match p.mark? ts with
    | some (".", rest) =>
      match mark? "(" rest with
      | some inner =>
        if (word? "type" inner).isSome then [ts]
        else match (typeAt (exprAt block n .brackets) n false inner).bind fun (_, rest) =>
            mark? ")" rest with
          | some rest => suffixesAt block n p rest
          | none => []
      | none =>
        match name? rest with
        | some (_, rest) => suffixesAt block n p rest
        | none => []
    | some ("(", rest) => (argumentsAt block n rest).flatMap (suffixesAt block n p)
    | some ("[", rest) =>
      let closed := indexAt block n rest
      let calls :=
        if closed.isEmpty || anyAtLineEnd p.lines closed then
          match (argsAt (exprAt block n .brackets) n rest).bind fun (_, rest) => mark? "(" rest with
          | some rest => argumentsAt block n rest
          | none => []
        else []
      (closed ++ calls).flatMap (suffixesAt block n p)
    | _ => [ts]

/-- Arguments up to the closing bracket. -/
def argumentsAt (block : Pass) : Nat → Pass
  | 0, _ => []
  | n + 1, ts =>
    match mark? ")" ts with
    | some rest => [rest]
    | none => listAt block n .arguments ts

/-- Expressions with commas between them and perhaps behind the last, up to the closing bracket. -/
def listAt (block : Pass) : Nat → Place → Pass
  | 0, _, _ => []
  | n + 1, p, ts =>
    (exprAt block n p ts).flatMap fun rest =>
      let rest := if p.marks.contains "..." then (mark? "..." rest).getD rest else rest
      match mark? "," rest with
      | some more =>
        match mark? ")" more with
        | some rest => [rest]
        | none => listAt block n p more
      | none => (mark? ")" rest).toList

/-- The arguments of `new` and `make`, of which the first is a type, up to the closing bracket. -/
def allocationAt (block : Pass) : Nat → Pass
  | 0, _ => []
  | n + 1, ts =>
    match mark? ")" ts with
    | some rest => [rest]
    | none =>
      match typeAt (exprAt block n .brackets) n false ts with
      | none => []
      | some (_, rest) =>
        match mark? "," rest with
        | some more =>
          match mark? ")" more with
          | some rest => [rest]
          | none => listAt block n .brackets more
        | none => (mark? ")" rest).toList

/-- An index or the bounds of a slice, up to the closing bracket. -/
def indexAt (block : Pass) : Nat → Pass
  | 0, _ => []
  | n + 1, ts =>
    match mark? ":" ts with
    | some rest => boundsAt block n rest
    | none =>
      (exprAt block n .brackets ts).flatMap fun rest =>
        match mark? ":" rest with
        | some rest => boundsAt block n rest
        | none => (mark? "]" rest).toList

/-- The bounds of a slice behind the first one, up to the closing bracket. -/
def boundsAt (block : Pass) : Nat → Pass
  | 0, _ => []
  | n + 1, ts =>
    match mark? "]" ts with
    | some rest => [rest]
    | none =>
      (exprAt block n .brackets ts).flatMap fun rest =>
        match mark? ":" rest with
        | some rest => (exprAt block n .brackets rest).filterMap (mark? "]")
        | none => (mark? "]" rest).toList

/-- The elements of a literal, up to the closing brace. A comma may stand for none of them. -/
def elementsAt (block : Pass) : Nat → Pass
  | 0, _ => []
  | n + 1, ts =>
    match mark? "\x7d" ((mark? "," ts).getD ts) with
    | some rest => [rest]
    | none => elementListAt block n ts

/-- At least one element of a literal, up to the closing brace. -/
def elementListAt (block : Pass) : Nat → Pass
  | 0, _ => []
  | n + 1, ts =>
    let pairs := (literalElementAt block n ts).flatMap fun rest =>
      match mark? ":" rest with
      | some rest => literalElementAt block n rest
      | none => [rest]
    pairs.flatMap fun rest =>
      match mark? "," rest with
      | some more =>
        match mark? "\x7d" more with
        | some rest => [rest]
        | none => elementListAt block n more
      | none => (mark? "\x7d" rest).toList

/-- A key or a value in a literal. The type of a literal in it may be left out. -/
def literalElementAt (block : Pass) : Nat → Pass
  | 0, _ => []
  | n + 1, ts =>
    match mark? "\x7b" ts with
    | some rest => elementsAt block n rest
    | none => exprAt block n .brackets ts

end

/-- Expressions with commas between them. -/
def exprsAt (block : Pass) : Nat → Place → Pass
  | 0, _, _ => []
  | n + 1, p, ts =>
    distinctEnds <| (exprAt block n p ts).flatMap fun rest =>
      match markIn? p.lines "," rest with
      | some rest => exprsAt block n p rest
      | none => [rest]

/-- Types with commas between them. -/
def typesAt (value : Pass) : Nat → Pass
  | 0, _ => []
  | n + 1, ts =>
    match typeAt value n false ts with
    | none => []
    | some (_, rest) =>
      match mark? "," rest with
      | some rest => typesAt value n rest
      | none => [rest]

end QueryGen.Go
