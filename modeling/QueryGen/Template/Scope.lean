import QueryGen.Go.Param

/-!
# What a template may refer to

- `Scope`: the parameters of the method, the name of the table and the known structs.
- `BindStyle`: how bound values are written into SQL text.
- `Options`: the choices of a compilation.
-/

namespace QueryGen.Template

/-- The names and types that a template is read against. -/
structure Scope where
  params : List Param := []
  /-- The text that `@@table` stands for. -/
  table : String
  structs : StructRegistry := .empty

/-- The first parameter of a name. -/
def Scope.param? (s : Scope) (name : String) : Option Param := s.params.find? (·.name == name)

/-- How bound values are written into SQL text. -/
inductive BindStyle where
  /-- `@key`, with a map from keys to values. -/
  | named
  /-- `?`, with a list of values. -/
  | positional
deriving DecidableEq, Repr, Inhabited

def BindStyle.name : BindStyle → String
  | named => "named"
  | positional => "positional"

def BindStyle.ofName? : String → Option BindStyle
  | "named" => some .named
  | "positional" => some .positional
  | _ => none

@[simp] theorem BindStyle.ofName?_name (s : BindStyle) : ofName? s.name = some s := by
  cases s <;> rfl

/-- The choices of a compilation. -/
structure Options where
  bindStyle : BindStyle := .named
  /-- The receiver of the generated method. -/
  receiver : String := "u"
deriving DecidableEq, Repr, Inhabited

end QueryGen.Template
