import QueryGen.Go.Type

/-!
# Parameters and known structs

- `Param`: a parameter or result of a method, or a field of a known struct.
- `StructShape`: the fields of a known struct.
- `StructRegistry`: the known structs by type. Lookups see through pointers.
-/

namespace QueryGen

/-- A named and typed parameter, result or field. -/
structure Param where
  /-- Empty for a result without a name. -/
  name : String
  type : GoType
  /-- Declared as `...T`; the type is then `[]T`. -/
  variadic : Bool := false
deriving DecidableEq, Repr, Inhabited

/-- The type as a parameter list spells it. -/
def Param.signatureType (p : Param) : String :=
  match p.type, p.variadic with
  | .slice elem, true => "..." ++ elem.text
  | type, _ => type.text

/-- The fields of a struct that the generator knows. -/
structure StructShape where
  name : String
  fields : List Param
deriving DecidableEq, Repr, Inhabited

def StructShape.field? (s : StructShape) (name : String) : Option Param :=
  s.fields.find? (·.name == name)

/-- Struct shapes by Go type. No type stands twice. -/
structure StructRegistry where
  shapes : List (GoType × StructShape) := []
  nodup_keys : (shapes.map Prod.fst).Nodup := by simp

namespace StructRegistry

def empty : StructRegistry := {}

/-- Adds a shape, in place of an earlier one of the same type. -/
def insert (r : StructRegistry) (type : GoType) (shape : StructShape) : StructRegistry where
  shapes := (type, shape) :: r.shapes.filter (·.1 ≠ type)
  nodup_keys := by
    have h := r.nodup_keys
    simp only [List.map_cons, List.nodup_cons, List.mem_map, List.mem_filter, not_exists, not_and]
    refine ⟨by simp, ?_⟩
    exact h.sublist ((List.filter_sublist (l := r.shapes)).map _)

/-- The shape of a type. Pointers around the type do not count. -/
def lookup (r : StructRegistry) (type : GoType) : Option StructShape :=
  r.shapes.lookup type.deref

def size (r : StructRegistry) : Nat := r.shapes.length

def isEmpty (r : StructRegistry) : Bool := r.shapes.isEmpty

@[simp] theorem lookup_empty (type : GoType) : empty.lookup type = none := rfl

theorem lookup_pointer (r : StructRegistry) (type : GoType) :
    r.lookup (.pointer type) = r.lookup type := rfl

theorem lookup_insert_self (r : StructRegistry) (type : GoType) (shape : StructShape)
    (h : type.deref = type) : (r.insert type shape).lookup type = some shape := by
  simp [lookup, insert, h]

/-- The registry of a list of entries, later ones in place of earlier ones. -/
def ofList (entries : List (GoType × StructShape)) : StructRegistry :=
  entries.foldl (fun r e => r.insert e.1 e.2) empty

end StructRegistry

end QueryGen
