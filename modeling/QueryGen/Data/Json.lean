import QueryGen.Data.Tree

/-!
# JSON values

- `Json`: trees over the scalars of JSON. Records keep the order of their fields.
- `Json.tagged?`, `Json.adjacent?`, `Json.variant?`: the three ways in which a value names one of
  several forms.
-/

namespace QueryGen

/-- The scalars of JSON. -/
inductive JsonScalar where
  | null
  | bool (b : Bool)
  /-- A number without sign, fraction and exponent that fits into 64 bits. -/
  | nat (n : Nat)
  /-- Any other number, as it is written. -/
  | number (text : String)
  | text (s : String)
deriving DecidableEq, Repr, Inhabited

instance : Scalar JsonScalar where
  text?
    | .text s => some s
    | _ => none
  word?
    | .text s => some s
    | _ => none
  flag?
    | .bool b => some b
    | _ => none
  isNull? s := some (s == .null)
  isVoid _ := false
  positional := true

abbrev Json := Tree JsonScalar

namespace Json

/-! ## Building values -/

def null : Json := .scalar .null

def bool (b : Bool) : Json := .scalar (.bool b)

def nat (n : Nat) : Json := .scalar (.nat n)

def str (s : String) : Json := .scalar (.text s)

def array {α : Type} (form : α → Json) (xs : List α) : Json := .list (xs.map form)

def texts (xs : List String) : Json := array str xs

/-- Null in the place of a value that is left out. -/
def ofOption {α : Type} (form : α → Json) : Option α → Json
  | some a => form a
  | none => null

/-! ## Reading values -/

def nat? : Json → Option Nat
  | .scalar (.nat n) => some n
  | _ => none

/-- The name of one of several forms. `nested` says that the value stands inside of one that names
its own form; there the number of a form will do. -/
def formName? (nested : Bool) (names : List String) : Json → Option String
  | .scalar (.text name) => some name
  | .scalar (.nat n) => if nested then names[n]? else none
  | _ => none

/-- A value that names its form in a field `tag` beside the fields of the form. A list names it
in its first item. -/
def tagged? (nested : Bool) (names : List String) (tag : String) : Json → Option (String × Json)
  | .scalar _ => none
  | .list items =>
    match items with
    | [] => none
    | kind :: rest => do return (← formName? nested names kind, .list rest)
  | .record fields =>
    match fields.filter (·.1 == tag) with
    | [(_, kind)] => do
      return (← formName? nested names kind, .record (fields.filter (·.1 != tag)))
    | _ => none

/-- What stands beside the name of a form without contents: any fields, but no items. -/
def hasNoItems : Json → Bool
  | .list items => items.isEmpty
  | _ => true

/-- The name of a form alone, or a record with the form as its only field. -/
def variant? : Json → Option (String × Option Json)
  | .scalar (.text kind) => some (kind, none)
  | .record [(kind, inner)] => some (kind, some inner)
  | _ => none

/-- The form has no contents. -/
def isUnit : Option Json → Bool
  | none => true
  | some t => t.isNull

/-- The name of a form alone, or a record with it as a field that holds nothing. Inside of a value
that names its own form an empty record is nothing too. -/
def unitName? (nested : Bool) (t : Json) : Option String := do
  let (name, inner) ← t.variant?
  match inner with
  | some (.record []) => if nested then return name else none
  | _ => if isUnit inner then return name else none

/-- A value that names its form in a field `tag` and holds the form in a field `content`, which
may be missing. A list holds both. -/
def adjacent? (nested : Bool) (names : List String) (tag content : String) (t : Json) :
    Option (String × Option Json) := do
  let f ← t.fields? [tag, content]
  let kind ← f.required tag (if f.positional then formName? nested names else unitName? nested)
  match f.find? content with
  | some inner => return (kind, some inner)
  | none => if f.positional then none else return (kind, none)

/-- A form without contents that goes by one of several names. -/
def choice? {α : Type} (ofName? : String → Option α) (t : Json) : Option α := do
  let (name, inner) ← t.variant?
  if isUnit inner then ofName? name else none

@[simp] theorem text?_str (s : String) : (str s).text? = some s := rfl

@[simp] theorem isNull_str (s : String) : (str s).isNull = false := rfl

@[simp] theorem isNull_null : null.isNull = true := rfl

@[simp] theorem nat?_nat (n : Nat) : (nat n).nat? = some n := rfl

@[simp] theorem flag?_bool (b : Bool) : (bool b).flag? = some b := rfl

end Json

end QueryGen
