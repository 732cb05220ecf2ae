/-!
# Data trees

What a data file holds, whatever notation it is written in: scalars, lists and records. How a
scalar reads as a text or a flag depends on the notation.

- `Tree`: a tree over scalars of a notation. One over `Option σ` may have parts that can only be
  passed over.
- `Scalar`: what the readers ask of a scalar.
- `Tree.readable?`: a tree without parts that can only be passed over.
- `Tree.fields?`: the fields of a record under the names that its reader knows.
- `Fields.required`, `Fields.optional`, `Fields.withDefault`: the values of single fields.
- `Fields.flag`, `Fields.textOrNull`: fields of common forms.
-/

namespace QueryGen

/-- The contents of a data file. -/
inductive Tree (σ : Type) where
  | scalar (s : σ)
  | list (items : List (Tree σ))
  | record (fields : List (String × Tree σ))
deriving Inhabited

/-- What a reader asks of a scalar. -/
class Scalar (σ : Type) where
  text? : σ → Option String
  /-- The name of one of several values. -/
  word? : σ → Option String
  flag? : σ → Option Bool
  /-- Whether it stands for a value that is left out. A scalar may contradict itself here. -/
  isNull? : σ → Option Bool
  /-- Stands for an empty list or record. -/
  isVoid : σ → Bool
  /-- A record may be written as the list of the values of its fields. -/
  positional : Bool

/-- A part that can only be passed over has no value of any form. -/
instance {σ : Type} [Scalar σ] : Scalar (Option σ) where
  text? s := s.bind Scalar.text?
  word? s := s.bind Scalar.word?
  flag? s := s.bind Scalar.flag?
  isNull? s := s.elim (some false) Scalar.isNull?
  isVoid s := s.any Scalar.isVoid
  positional := Scalar.positional σ

/-- Fields of a record under known names. -/
structure Fields (σ : Type) where
  entries : List (String × Tree σ)
  /-- The values were listed without their names. -/
  positional : Bool

variable {σ α : Type}

namespace Tree

mutual

/-- The number of levels of a tree. -/
def depth : Tree σ → Nat
  | scalar _ => 1
  | list items => depthAll items + 1
  | record fields => depthFields fields + 1

/-- The largest depth in a list. -/
def depthAll : List (Tree σ) → Nat
  | [] => 0
  | t :: rest => max t.depth (depthAll rest)

/-- The largest depth among the values of fields. -/
def depthFields : List (String × Tree σ) → Nat
  | [] => 0
  | (_, t) :: rest => max t.depth (depthFields rest)

end

mutual

/-- The tree itself, if no part of it can only be passed over. -/
def readable? : Tree (Option σ) → Option (Tree σ)
  | scalar s => s.map scalar
  | list items => (readableItems? items).map list
  | record fields => (readableFields? fields).map record

/-- The items of a list, each without such parts. -/
def readableItems? : List (Tree (Option σ)) → Option (List (Tree σ))
  | [] => some []
  | t :: rest => do return (← t.readable?) :: (← readableItems? rest)

/-- The fields of a record, each without such parts. -/
def readableFields? : List (String × Tree (Option σ)) → Option (List (String × Tree σ))
  | [] => some []
  | (name, t) :: rest => do return (name, ← t.readable?) :: (← readableFields? rest)

end

variable [Scalar σ]

def text? : Tree σ → Option String
  | scalar s => Scalar.text? s
  | _ => none

def word? : Tree σ → Option String
  | scalar s => Scalar.word? s
  | _ => none

def flag? : Tree σ → Option Bool
  | scalar s => Scalar.flag? s
  | _ => none

def isNull? : Tree σ → Option Bool
  | scalar s => Scalar.isNull? s
  | _ => some false

def isNull (t : Tree σ) : Bool := t.isNull? == some true

/-- A value that may be left out. -/
def orNull (read : Tree σ → Option α) (t : Tree σ) : Option (Option α) := do
  if ← t.isNull? then return none else return some (← read t)

def items? : Tree σ → Option (List (Tree σ))
  | scalar s => if Scalar.isVoid s then some [] else none
  | list items => some items
  | record _ => none

/-- A list whose items all have the form that `read` reads. -/
def listOf (read : Tree σ → Option α) (t : Tree σ) : Option (List α) := do
  (← t.items?).mapM read

/-- The fields of a record that stand in `names`; others are passed over. No known name may stand
twice. A list gives the values of the first fields, in the order of `names`. -/
def fields? (names : List String) : Tree σ → Option (Fields σ)
  | scalar s => if Scalar.isVoid s then some ⟨[], false⟩ else none
  | list items =>
    if Scalar.positional σ ∧ items.length ≤ names.length then some ⟨names.zip items, true⟩
    else none
  | record fields =>
    let known := fields.filter (names.contains ·.1)
    if (known.map Prod.fst).Nodup then some ⟨known, false⟩ else none

end Tree

namespace Fields

def find? (f : Fields σ) (name : String) : Option (Tree σ) := f.entries.lookup name

/-- A field that has to be there. -/
def required (f : Fields σ) (name : String) (read : Tree σ → Option α) : Option α :=
  (f.find? name).bind read

/-- A field with a value for records that leave it out. -/
def withDefault (f : Fields σ) (name : String) (default : α) (read : Tree σ → Option α) :
    Option α :=
  match f.find? name with
  | some t => read t
  | none => some default

/-- A field that may be null, or missing from a record with names. -/
def optional [Scalar σ] (f : Fields σ) (name : String) (read : Tree σ → Option α) :
    Option (Option α) :=
  match f.find? name with
  | some t => t.orNull read
  | none => if f.positional then none else some none

/-- A flag that is off where it is left out. -/
def flag [Scalar σ] (f : Fields σ) (name : String) : Option Bool :=
  f.withDefault name false Tree.flag?

/-- A text that may be null or left out. -/
def textOrNull [Scalar σ] (f : Fields σ) (name : String) : Option (Option String) :=
  f.withDefault name none (Tree.orNull Tree.text?)

end Fields

end QueryGen
