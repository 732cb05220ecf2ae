import QueryGen.Data.Json
import QueryGen.Go.Param

/-!
# Types and parameters as JSON

- `GoType.toJson`, `GoType.ofJson?`: a type as a record that names its form in `kind`.
- `Param.toJson`, `StructShape.toJson` and their readers.
-/

namespace QueryGen

open Json (str)

/-! ## Types -/

/-- A type as JSON. -/
def GoType.toJson : GoType → Json
  | .named package name =>
    .record [("kind", str "named"), ("package", Json.ofOption str package), ("name", str name)]
  | .pointer elem => .record [("kind", str "pointer"), ("elem", elem.toJson)]
  | .slice elem => .record [("kind", str "slice"), ("elem", elem.toJson)]
  | .array len elem =>
    .record [("kind", str "array"), ("len", str len), ("elem", elem.toJson)]
  | .map key value =>
    .record [("kind", str "map"), ("key", key.toJson), ("value", value.toJson)]
  | .interface s => .record [("kind", str "interface"), ("text", str s)]
  | .verbatim s => .record [("kind", str "other"), ("text", str s)]
  | .unknown => .record [("kind", str "unknown")]

/-- The names of the forms of types, in the order of their numbers. -/
def GoType.forms : List String :=
  ["named", "pointer", "slice", "array", "map", "interface", "other", "unknown"]

/-- The type of a value of at most so many levels. -/
def GoType.read : Nat → Bool → Json → Option GoType
  | 0, _, _ => none
  | n + 1, nested, t => do
    let (kind, t) ← t.tagged? nested GoType.forms "kind"
    match kind with
    | "named" => do
      let f ← t.fields? ["package", "name"]
      return .named (← f.optional "package" Tree.text?) (← f.required "name" Tree.text?)
    | "pointer" => do
      let f ← t.fields? ["elem"]
      return .pointer (← f.required "elem" (read n true))
    | "slice" => do
      let f ← t.fields? ["elem"]
      return .slice (← f.required "elem" (read n true))
    | "array" => do
      let f ← t.fields? ["len", "elem"]
      return .array (← f.required "len" Tree.text?) (← f.required "elem" (read n true))
    | "map" => do
      let f ← t.fields? ["key", "value"]
      return .map (← f.required "key" (read n true)) (← f.required "value" (read n true))
    | "interface" => do
      let f ← t.fields? ["text"]
      return .interface (← f.required "text" Tree.text?)
    | "other" => do
      let f ← t.fields? ["text"]
      return .verbatim (← f.required "text" Tree.text?)
    | "unknown" => if t.hasNoItems then return .unknown else none
    | _ => none

/-- The type that a value describes, which may be nested in one that names its own form. -/
def GoType.ofNested? (nested : Bool) (t : Json) : Option GoType := GoType.read t.depth nested t

/-- The type that a value describes. -/
def GoType.ofJson? : Json → Option GoType := GoType.ofNested? false

/-! ## Parameters -/

def Param.toJson (p : Param) : Json :=
  .record [("name", str p.name), ("ty", p.type.toJson), ("variadic", Json.bool p.variadic)]

def Param.ofJson? (t : Json) : Option Param := do
  let f ← t.fields? ["name", "ty", "variadic"]
  return {
    name := ← f.required "name" Tree.text?
    type := ← f.required "ty" GoType.ofJson?
    variadic := ← f.withDefault "variadic" false Tree.flag? }

def StructShape.toJson (s : StructShape) : Json :=
  .record [("name", str s.name), ("fields", Json.array Param.toJson s.fields)]

def StructShape.ofJson? (t : Json) : Option StructShape := do
  let f ← t.fields? ["name", "fields"]
  return ⟨← f.required "name" Tree.text?, ← f.required "fields" (Tree.listOf Param.ofJson?)⟩

end QueryGen
