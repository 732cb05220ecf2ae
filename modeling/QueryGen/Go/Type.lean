import QueryGen.Distinct

/-!
# Go types

- `GoType`: a type expression as it stands in a signature or a struct field.
- `GoType.text`: the Go spelling.
- `base`, `deref`: what is left without wrappers, and without pointers alone.
- `rangeTypes?`: the types that a `range` loop binds.
- `packages`, `substitute`: the packages a type names, and replacement of leaves.
-/

namespace QueryGen

/-- A Go type expression. -/
inductive GoType where
  /-- A name, with the package qualifier written before it. -/
  | named (package : Option String) (name : String)
  | pointer (elem : GoType)
  | slice (elem : GoType)
  /-- An array whose length is kept as it is written. -/
  | array (len : String) (elem : GoType)
  | map (key value : GoType)
  /-- An interface literal, kept as it is written. -/
  | interface (text : String)
  /-- A function, channel, struct or generic type, kept as it is written. -/
  | verbatim (text : String)
  /-- The type of a field of a struct that is not known. -/
  | unknown
deriving DecidableEq, Repr, Inhabited

namespace GoType

/-- A name without a package. -/
abbrev simple (name : String) : GoType := .named none name

/-- `package.name`. -/
abbrev qualified (package name : String) : GoType := .named (some package) name

/-- `map[string]interface{}`. -/
def stringMap : GoType := .map (simple "string") (.interface "interface{}")

/-- The Go spelling of a type. -/
def text : GoType → String
  | named (some package) name => package ++ "." ++ name
  | named none name => name
  | pointer elem => "*" ++ elem.text
  | slice elem => "[]" ++ elem.text
  | array len elem => "[" ++ len ++ "]" ++ elem.text
  | map key value => "map[" ++ key.text ++ "]" ++ value.text
  | interface text => text
  | verbatim text => text
  | unknown => "<unknown>"

/-! ## What kind of type -/

def isPointer : GoType → Bool
  | pointer _ => true
  | _ => false

/-- A slice or an array. -/
def isArray : GoType → Bool
  | slice _ => true
  | array _ _ => true
  | _ => false

def isMap : GoType → Bool
  | map _ _ => true
  | _ => false

/-- The name `builtin` without a package. -/
def isBuiltin (builtin : String) (t : GoType) : Bool := t == simple builtin

/-- The name `name` of the package `package`. -/
def isQualified (package name : String) (t : GoType) : Bool := t == qualified package name

def isString (t : GoType) : Bool := t.isBuiltin "string"

def isError (t : GoType) : Bool := t.isBuiltin "error"

/-- `[]byte` or `[]uint8`. -/
def isByteSlice : GoType → Bool
  | slice elem => elem.isBuiltin "byte" || elem.isBuiltin "uint8"
  | _ => false

/-- An interface literal, or `any`. -/
def isInterface : GoType → Bool
  | interface _ => true
  | t => t.isBuiltin "any"

/-- The predeclared types without structure. -/
def scalars : List String :=
  ["bool", "string", "int", "int8", "int16", "int32", "int64", "uint", "uint8", "uint16", "uint32",
   "uint64", "uintptr", "float32", "float64", "complex64", "complex128", "byte", "rune"]

def isScalar : GoType → Bool
  | named none name => scalars.contains name
  | _ => false

/-! ## Inside a type -/

/-- The type without pointers, slices, arrays and map values around it. -/
def base : GoType → GoType
  | pointer elem => elem.base
  | slice elem => elem.base
  | array _ elem => elem.base
  | map _ value => value.base
  | t => t

/-- The type without pointers around it. -/
def deref : GoType → GoType
  | pointer elem => elem.deref
  | t => t

theorem deref_deref (t : GoType) : t.deref.deref = t.deref := by
  induction t with
  | pointer elem ih => simpa [deref] using ih
  | _ => rfl

theorem isPointer_deref (t : GoType) : t.deref.isPointer = false := by
  induction t with
  | pointer elem ih => simpa [deref] using ih
  | _ => rfl

/-- The package of the innermost name. -/
def package? (t : GoType) : Option String :=
  match t.base with
  | named package _ => package
  | _ => none

/-- The innermost name. -/
def typeName? (t : GoType) : Option String :=
  match t.base with
  | named _ name => some name
  | _ => none

/-- The types of the two variables of a `range` loop over a value of this type. -/
def rangeTypes? (t : GoType) : Option (GoType × GoType) :=
  match t.deref with
  | slice elem => some (simple "int", elem)
  | array _ elem => some (simple "int", elem)
  | map key value => some (key, value)
  | t => if t.isString then some (simple "int", simple "rune") else none

/-- The package qualifiers of all names in a type, from left to right. -/
def qualifiers : GoType → List String
  | named (some package) _ => [package]
  | pointer elem => elem.qualifiers
  | slice elem => elem.qualifiers
  | array _ elem => elem.qualifiers
  | map key value => key.qualifiers ++ value.qualifiers
  | _ => []

/-- The packages that a type names, each once. -/
def packages (t : GoType) : List String := distinct t.qualifiers

/-- Replaces the outermost types for which `f` has a replacement. -/
def substitute (f : GoType → Option GoType) (t : GoType) : GoType :=
  match f t with
  | some replacement => replacement
  | none =>
    match t with
    | pointer elem => pointer (elem.substitute f)
    | slice elem => slice (elem.substitute f)
    | array len elem => array len (elem.substitute f)
    | map key value => map (key.substitute f) (value.substitute f)
    | t => t

end GoType

end QueryGen
