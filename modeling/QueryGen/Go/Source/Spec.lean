import QueryGen.Go.Source.Type

/-!
# Specifications of declarations

A declaration of types, constants or variables holds one specification, or several in brackets.
The values in them are passed over by `value`, an expression in brackets, and `values`, a list of
expressions at the end of a line.

- `TypeSpec`: a type that is given a name, as far as it is kept.
- `typeSpecAt`, `constSpecAt`, `varSpecAt`: the specification at the front of a list of tokens.
- `specsAt`: the specifications of a declaration.
-/

namespace QueryGen.Go

/-- A type that is given a name. -/
inductive TypeSpec where
  | interface (d : InterfaceDecl)
  | struct (d : StructDecl)
  /-- An alias, or a type of another form. -/
  | other
deriving Repr, Inhabited

/-- A specification in brackets, up to the next one. The last one has an end behind it as well,
unless `closed` tells that the bracket is enough. -/
def groupedAt {α : Type} (spec : List Token → List (Read α)) (closed : Bool) (ts : List Token) :
    List (Read (List α)) :=
  (spec ts).filterMap fun (one, rest) =>
    (if closed && startsWith ")" rest then some rest else endAt rest).map ([one], ·)

/-- A specification, or several in brackets. -/
def specsAt {α : Type} (spec : List Token → List (Read α)) (closed : Bool) (n : Nat)
    (ts : List Token) : List (Read (List α)) :=
  match mark? "(" ts with
  | some rest => (partsFrom (mark? ")") (groupedAt spec closed) n [([], rest)]).toList
  | none => (spec ts).map fun (one, rest) => ([one], rest)

/-! ## Types -/

/-- Type parameters up to the closing bracket. -/
def typeParamsAt (value : Pass) : Nat → List Token → Option (Read Unit)
  | 0, _ => none
  | n + 1, ts => do
    let (_, rest) ← namesAt n false ts
    let (_, rest) ← unionAt value n false rest
    match mark? "]" rest with
    | some rest => return ((), rest)
    | none => do
      let rest ← mark? "," rest
      match mark? "]" rest with
      | some rest => return ((), rest)
      | none => typeParamsAt value n rest

/-- The tokens behind type parameters, if there are any. -/
def skipTypeParams (value : Pass) (n : Nat) (ts : List Token) : List Token :=
  match (mark? "[" ts).bind (typeParamsAt value n) with
  | some ((), rest) => rest
  | none => ts

/-- The words that are values or built-in functions wherever an expression may begin. -/
def valueWords : List String := ["nil", "true", "false", "iota", "new", "make"]

/-- The names among tokens that stand alone: they belong to no package and have no arguments.
`dotted` tells whether a point stands before the tokens. -/
def loneNames (dotted : Bool) : List Token → Nat
  | [] => 0
  | t :: rest =>
    let linked := dotted || startsWith "." rest || startsWith "[" rest
    let own := if (name? (t :: rest)).isSome && !linked then 1 else 0
    own + loneNames (t.isMark ".") rest

/-- Whether the brackets behind the name of a type hold type parameters rather than the length of
an array, when they can be read as both: arguments speak for parameters, lone names against
them. -/
def prefersParams (inner : List Token) : Bool :=
  loneNames false inner < 3 * (inner.filter (·.isMark "[")).length

/-- The type that gets a name. -/
def declaredTypeAt (value : Pass) (n : Nat) (name : String) (ts : List Token) :
    Option (Read TypeSpec) :=
  match ts with
  | [] => none
  | t :: rest =>
    if t.isWord "struct" then do
      let (fields, rest) ← fieldsAt value n (← mark? "\x7b" rest)
      return (.struct ⟨name, fields⟩, rest)
    else if t.isWord "interface" then do
      let inner ← mark? "\x7b" rest
      let comments := ((rest.head?.map (·.comments)).getD []).map BodyItem.comment
      let (items, rest) ← itemsAt value n inner
      return (.interface ⟨name, attachDocs {} (comments ++ items)⟩, rest)
    else do
      let (_, rest) ← typeAt value n true ts
      return (.other, rest)

/-- The type that gets a name, or the one that an alias stands for. -/
def definitionAt (value : Pass) (n : Nat) (name : String) (ts : List Token) :
    Option (Read TypeSpec) :=
  match mark? "=" ts with
  | some rest => (typeAt value n true rest).map fun (_, rest) => (.other, rest)
  | none => declaredTypeAt value n name ts

/-- A type with type parameters that is given a name. -/
def genericSpecAt (value : Pass) (n : Nat) (name : String) (ts : List Token) :
    Option (Read TypeSpec × Bool) := do
  let inner ← mark? "[" ts
  if inner.head?.any fun t => valueWords.contains t.text then none
  else do
    let (_, rest) ← typeParamsAt value n inner
    return (← definitionAt value n name rest, prefersParams ((upTo inner rest).drop 1))

/-- A type that is given a name. Where brackets are both type parameters and the length of an
array, the better reading comes first. -/
def typeSpecAt (value : Pass) (n : Nat) (ts : List Token) : List (Read TypeSpec) :=
  match name? ts with
  | none => []
  | some (name, rest) =>
    let plain := (definitionAt value n name rest).toList
    match genericSpecAt value n name rest with
    | none => plain
    | some (generic, preferred) => if preferred then generic :: plain else plain ++ [generic]

/-! ## Constants and variables -/

/-- Constants with values, perhaps of a type. Without them the values before are repeated. -/
def constSpecAt (value values : Pass) (n : Nat) (ts : List Token) : List (Read Unit) :=
  match namesAt n true ts with
  | none => []
  | some (_, rest) =>
    if atLineEnd true rest then [((), rest)]
    else match mark? "=" rest with
      | some rest => (values rest).map ((), ·)
      | none =>
        if startsType rest || startsWith "(" rest then
          match (typeAt value n false rest).bind fun (_, rest) => mark? "=" rest with
          | some rest => (values rest).map ((), ·)
          | none => []
        else [((), rest)]

/-- Variables with a type, with values, or with both. -/
def varSpecAt (value values : Pass) (n : Nat) (ts : List Token) : List (Read Unit) :=
  match namesAt n false ts with
  | none => []
  | some (_, rest) =>
    match mark? "=" rest with
    | some rest => (values rest).map ((), ·)
    | none =>
      match typeAt value n true rest with
      | none => []
      | some (_, rest) =>
        match markIn? true "=" rest with
        | some rest => (values rest).map ((), ·)
        | none => [((), rest)]

end QueryGen.Go
