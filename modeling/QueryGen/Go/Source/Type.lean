import QueryGen.Go.Source.Doc
import QueryGen.Go.Source.Read

/-!
# Reading types and signatures

The number in front of the arguments of a reader bounds the depth of nesting. `value` passes over an
expression in brackets, which may be the length of an array, and `lines` tells whether a line end
may end what is read.

- `typeAt`: a type. Function, channel, struct, generic and constraint types are kept as text.
- `paramsAt`, `resultAt`: the parameters and the results of a signature.
- `fieldsAt`: the fields of a struct.
- `itemsAt`: the elements of an interface, with the comments between them.
- `entryParams`: the parameters of a list whose names and types are told apart.
-/

namespace QueryGen.Go

/-- The words that begin types other than names. -/
def typeKeywords : List String := ["map", "chan", "func", "struct", "interface"]

/-- Whether a type that is not in round brackets may begin here. -/
def startsType : List Token → Bool
  | [] => false
  | t :: rest =>
    (name? (t :: rest)).isSome || typeKeywords.any (t.isWord ·) ||
      ["*", "[", "<-", "~"].any (startsWith · (t :: rest))

/-- The comments in front of a mark that ends an element. -/
def commentsAtEnd : List Token → List Comment
  | t :: _ => if isEndMark t && !t.onNewLine then t.comments else []
  | [] => []

/-- The text of the last comment in front of the next token, as a type of its own. -/
def commentType? (ts : List Token) : Option GoType :=
  (ts.head?.bind (·.comments.getLast?)).map fun c =>
    .verbatim (.ofList (Text.collapseBlanks c.text))

/-- The text of an interface literal. An empty one has one spelling. -/
def interfaceText (ts rest : List Token) : String :=
  match upTo ts rest with
  | [_, opening, closing] =>
    if opening.comments.isEmpty && closing.comments.isEmpty then "interface\x7b\x7d"
    else textUpTo ts rest
  | _ => textUpTo ts rest

/-- What stands in a list of parameters, before names and types are told apart. -/
inductive ParamEntry where
  /-- A name alone, which may be a type. -/
  | alone (name : String)
  | named (name : String) (type : GoType)
  | variadic (name : String) (type : GoType)
  | unnamed (type : GoType)
deriving DecidableEq, Repr, Inhabited

/-- The parameters of entries. Names in front of a named parameter share its type; other names are
types. `names` holds the names read last, the last one first. -/
def entryParams (names : List String) : List ParamEntry → List Param
  | [] => names.reverse.map fun n => { name := "", type := .simple n }
  | .alone name :: rest => entryParams (name :: names) rest
  | .named name type :: rest =>
    (name :: names).reverse.map (fun n => { name := n, type }) ++ entryParams [] rest
  | .variadic name type :: rest =>
    names.reverse.map (fun n => { name := "", type := .simple n }) ++
      { name, type := .slice type, variadic := true } :: entryParams [] rest
  | .unnamed type :: rest =>
    names.reverse.map (fun n => { name := "", type := .simple n }) ++
      { name := "", type } :: entryParams [] rest

/-- A tag behind a field. -/
def tagAt : List Token → Option String × List Token
  | t :: rest =>
    if t.kind = .string ∧ !t.onNewLine then
      (some (.ofList (Text.trimMatches (fun c => c == '"' || c == '\x60') t.text.toList)), rest)
    else (none, t :: rest)
  | [] => (none, [])

/-- Whether a field ends here. -/
def endsField : List Token → Bool
  | [] => false
  | t :: _ => t.onNewLine || isEndMark t || t.isMark "\x7d"

/-- A field with its tag, if it ends there. -/
def withTag {α : Type} (make : Option String → α) (rest : List Token) : Option (Read α) :=
  let (tag, rest) := tagAt rest
  if endsField rest then some (make tag, rest) else none

/-- The length of an array up to the closing bracket. -/
def lengthAt (value : Pass) (ts : List Token) : Option (Read String) :=
  (value ts).findSome? fun rest =>
    (mark? "]" rest).map fun behind => (.ofList (sourceOf (upTo ts rest)), behind)

/-- Names with commas between them, in at most `n` steps. `lines` tells whether a line end may end
them. -/
def namesAt : Nat → Bool → List Token → Option (Read (List String))
  | 0, _, _ => none
  | n + 1, lines, ts => do
    let (name, rest) ← name? ts
    match markIn? lines "," rest with
    | some rest => do
      let (names, rest) ← namesAt n lines rest
      return (name :: names, rest)
    | none => return ([name], rest)

/-! ## Types, signatures and bodies -/

mutual

/-- A type. Behind the type in round brackets a comment takes its place. -/
def typeAt (value : Pass) : Nat → Bool → List Token → Option (Read GoType)
  | 0, _, _ => none
  | _, _, [] => none
  | n + 1, lines, t :: rest =>
    let ts := t :: rest
    match t.kind, t.text with
    | .mark, "(" => do
      let (type, rest) ← typeAt value n false rest
      return ((commentType? rest).getD type, ← mark? ")" rest)
    | .mark, "*" => do
      let (type, rest) ← typeAt value n lines rest
      return (.pointer type, rest)
    | .mark, "[" =>
      match mark? "]" rest with
      | some rest => do
        let (elem, rest) ← typeAt value n lines rest
        return (.slice elem, rest)
      | none => do
        let (len, rest) ← lengthAt value rest
        let (elem, rest) ← typeAt value n lines rest
        return (.array len elem, rest)
    | .mark, "<" => do
      let (_, rest) ← typeAt value n lines (← word? "chan" (← mark? "<-" ts))
      return (.verbatim (textUpTo ts rest), rest)
    | .mark, "~" => do
      let (_, rest) ← typeAt value n lines rest
      let rest := match (markIn? lines "[" rest).bind (argsAt value n) with
        | some (_, behind) => behind
        | none => rest
      return (.verbatim (textUpTo ts rest), rest)
    | .word, "map" => do
      let (key, rest) ← typeAt value n false (← mark? "[" rest)
      let (elem, rest) ← typeAt value n lines (← mark? "]" rest)
      return (.map key elem, rest)
    | .word, "chan" => do
      let (_, rest) ← typeAt value n lines ((mark? "<-" rest).getD rest)
      return (.verbatim (textUpTo ts rest), rest)
    | .word, "func" => do
      let (_, rest) ← paramsAt value n rest
      let (_, rest) ← resultAt value n lines rest
      return (.verbatim (textUpTo ts rest), rest)
    | .word, "struct" => do
      let (_, rest) ← fieldsAt value n (← mark? "\x7b" rest)
      return (.verbatim (textUpTo ts rest), rest)
    | .word, "interface" => do
      let (_, rest) ← itemsAt value n (← mark? "\x7b" rest)
      return (.interface (interfaceText ts rest), rest)
    | _, _ => namedAt value n lines lines ts

/-- A name, with a package in front or without, and perhaps with type arguments. A line end counts
behind the first name as `lines` says, and behind a package and a name as `inner` says. -/
def namedAt (value : Pass) : Nat → Bool → Bool → List Token → Option (Read GoType)
  | 0, _, _, _ => none
  | n + 1, lines, inner, ts => do
    let (first, rest) ← name? ts
    let (type, lines, rest) ← match markIn? lines "." rest with
      | some rest => do
        let (second, rest) ← name? rest
        pure (GoType.qualified first second, inner, rest)
      | none => pure (GoType.simple first, lines, rest)
    match markIn? lines "[" rest with
    | some args => do
      let (_, rest) ← argsAt value n args
      return (.verbatim (textUpTo ts rest), rest)
    | none => return (type, rest)

/-- Type arguments up to the closing bracket. -/
def argsAt (value : Pass) : Nat → List Token → Option (Read Unit)
  | 0, _ => none
  | n + 1, ts => do
    let (_, rest) ← unionAt value n false ts
    match mark? "]" rest with
    | some rest => return ((), rest)
    | none => do
      let rest ← mark? "," rest
      match mark? "]" rest with
      | some rest => return ((), rest)
      | none => argsAt value n rest

/-- Types with bars between them. -/
def unionAt (value : Pass) : Nat → Bool → List Token → Option (Read Unit)
  | 0, _, _ => none
  | n + 1, lines, ts => do
    let (_, rest) ← typeAt value n lines ts
    match markIn? lines "|" rest with
    | some rest => unionAt value n lines rest
    | none => return ((), rest)

/-- An entry of a list of parameters. A name with type arguments is a type of its own, and no
parameter with an array type, only if the entry ends there. -/
def entryAt (value : Pass) : Nat → List Token → Option (Read ParamEntry)
  | 0, _ => none
  | n + 1, ts => do
    let ends (ts : List Token) : Bool := startsWith "," ts || startsWith ")" ts
    match mark? "..." ts with
    | some rest => do
      let (type, rest) ← typeAt value n false rest
      return (.variadic "" type, rest)
    | none =>
      match name? ts with
      | none => do
        let (type, rest) ← typeAt value n false ts
        return (.unnamed type, rest)
      | some (name, rest) =>
        if ends rest then return (.alone name, rest)
        else match mark? "..." rest with
          | some rest => do
            let (type, rest) ← typeAt value n false rest
            return (.variadic name type, rest)
          | none =>
            let whole :=
              if startsWith "." rest || startsWith "[" rest then typeAt value n false ts else none
            match whole.filter (ends ·.2) with
            | some (type, rest) => return (.unnamed type, rest)
            | none => do
              let (type, rest) ← typeAt value n false rest
              return (.named name type, rest)

/-- The entries of a list of parameters, up to the closing bracket. -/
def entriesAt (value : Pass) : Nat → List Token → Option (Read (List ParamEntry))
  | 0, _ => none
  | n + 1, ts =>
    match mark? ")" ts with
    | some rest => some ([], rest)
    | none => do
      let (entry, rest) ← entryAt value n ts
      match mark? "," rest with
      | some rest => do
        let (entries, rest) ← entriesAt value n rest
        return (entry :: entries, rest)
      | none => return ([entry], ← mark? ")" rest)

/-- Parameters in brackets. A comma may stand behind the last one, and for none of them. -/
def paramsAt (value : Pass) : Nat → List Token → Option (Read (List Param))
  | 0, _ => none
  | n + 1, ts => do
    let rest ← mark? "(" ts
    match (mark? "," rest).bind (mark? ")") with
    | some rest => return ([], rest)
    | none => do
      let (entries, rest) ← entriesAt value n rest
      return (entryParams [] entries, rest)

/-- The results behind parameters: none, one without a name, or several in brackets. -/
def resultAt (value : Pass) : Nat → Bool → List Token → Option (Read (List Param))
  | 0, _, _ => none
  | n + 1, lines, ts =>
    if atLineEnd lines ts then some ([], ts)
    else if startsWith "(" ts then paramsAt value n ts
    else if startsType ts then do
      let (type, rest) ← typeAt value n lines ts
      return ([{ name := "", type }], rest)
    else some ([], ts)

/-- A type that a field may embed: one with a name, or a `~` type with type arguments. -/
def embeddableAt (value : Pass) : Nat → List Token → Option (Read GoType)
  | 0, _ => none
  | n + 1, ts =>
    if startsWith "~" ts then
      (typeAt value n false ts).filter fun read =>
        (upTo ts read.2).getLast?.any (·.isMark "]")
    else namedAt value n true true ts

/-- An embedded field, perhaps a pointer. -/
def embeddedAt (value : Pass) : Nat → List Token → Option (Read (List StructField))
  | 0, _ => none
  | n + 1, ts => do
    let (type, rest) ← match mark? "*" ts with
      | some rest => do
        let (type, rest) ← embeddableAt value n rest
        pure (GoType.pointer type, rest)
      | none => embeddableAt value n ts
    withTag (fun tag => [⟨type.typeName?.getD "", type, tag, true⟩]) rest

/-- Fields of one type. Behind the first name neither names nor a type stand on a new line, since
that name may be a field by itself. -/
def namedFieldAt (value : Pass) : Nat → List Token → Option (Read (List StructField))
  | 0, _ => none
  | n + 1, ts => do
    let (first, rest) ← name? ts
    if atLineEnd true rest then none
    else do
      let (others, rest) ← match mark? "," rest with
        | some rest => namesAt n false rest
        | none => some ([], rest)
      let (type, rest) ← typeAt value n true rest
      withTag (fun tag => (first :: others).map fun name => ⟨name, type, tag, false⟩) rest

/-- A field or several of one type, in both ways to read them, up to the next field. -/
def fieldAt (value : Pass) : Nat → List Token → List (Read (List StructField))
  | 0, _ => []
  | n + 1, ts =>
    [embeddedAt value n ts, namedFieldAt value n ts].filterMap fun field => do
      let (fields, rest) ← field
      return (fields, ← if startsWith "\x7d" rest then some rest else endAt rest)

/-- The fields of a struct, up to the closing brace. -/
def fieldsAt (value : Pass) : Nat → List Token → Option (Read (List StructField))
  | 0, _ => none
  | n + 1, ts => partsFrom (mark? "\x7d") (fieldAt value n) n [([], ts)]

/-- A method, or another element of an interface. -/
def elementAt (value : Pass) : Nat → List Token → Option (Read BodyItem)
  | 0, _ => none
  | n + 1, ts => do
    let row := (ts.head?.map (·.row)).getD 0
    let lastRow (rest : List Token) : Nat := ((upTo ts rest).getLast?.map (·.endRow)).getD 0
    match (name? ts).filter (startsIn true "(" ·.2) with
    | some (name, rest) => do
      let (params, rest) ← paramsAt value n rest
      let (results, rest) ← resultAt value n true rest
      return (.method { name, doc := "", params, results } row (lastRow rest), rest)
    | none => do
      let (_, rest) ← unionAt value n true ts
      return (.other (lastRow rest), rest)

/-- The elements of an interface, up to the closing brace, with the comments between them. -/
def itemsAt (value : Pass) : Nat → List Token → Option (Read (List BodyItem))
  | 0, _ => none
  | n + 1, ts =>
    match ts with
    | [] => none
    | t :: rest =>
      let comments := t.comments.map BodyItem.comment
      if t.isMark "\x7d" then some (comments, rest)
      else do
        let (element, rest) ← elementAt value n ts
        let trailing := (commentsAtEnd rest).map BodyItem.comment
        let (items, rest) ←
          itemsAt value n (← if startsWith "\x7d" rest then some rest else endAt rest)
        return (comments ++ element :: trailing ++ items, rest)

end

end QueryGen.Go
