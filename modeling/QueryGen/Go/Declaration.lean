import QueryGen.Go.Param
import QueryGen.Text.Basic

/-!
# Declarations of a Go file

- `Import`, `Method`, `InterfaceDecl`, `StructDecl`, `GoFile`: what the generator takes from a file.
- `StructField.tagValue?`: the value of a key in a struct tag.
- `SourceError`: why a file or a declaration in it cannot be used.
-/

namespace QueryGen

structure Import where
  /-- The name that the file itself gives to the package. -/
  name : Option String := none
  path : String
deriving DecidableEq, Repr, Inhabited

/-- The part of a path behind its last slash. -/
def lastSegment (path : String) : String :=
  match Text.cutLast? (· == '/') path.toList with
  | some (_, name) => .ofList name
  | none => path

/-- The name by which a file refers to the package. -/
def Import.qualifier (i : Import) : String := i.name.getD (lastSegment i.path)

/-- A method of an interface. -/
structure Method where
  name : String
  /-- The text of the comment above the method. -/
  doc : String
  params : List Param
  results : List Param
deriving DecidableEq, Repr, Inhabited

structure InterfaceDecl where
  name : String
  methods : List Method
deriving DecidableEq, Repr, Inhabited

structure StructField where
  name : String
  type : GoType
  /-- The tag without the quotes around it. -/
  tag : Option String
  embedded : Bool
deriving DecidableEq, Repr, Inhabited

namespace StructField

/-- The text between double quotes behind the first place where `key:` is followed by a quote. -/
def tagValue? (f : StructField) (key : String) : Option String := do
  let tag ← f.tag
  let (_, rest) ← Text.splitAt? (key.toList ++ [':', '"']) tag.toList
  let (value, _) ← Text.cutFirst? (· == '"') rest
  return .ofList value

/-- Whether other packages see the field. -/
def isExported (f : StructField) : Bool := f.name.toList.head?.any Text.isUpper

end StructField

structure StructDecl where
  name : String
  fields : List StructField
deriving DecidableEq, Repr, Inhabited

/-- What the generator takes from a Go file. -/
structure GoFile where
  package : String := ""
  imports : List Import := []
  interfaces : List InterfaceDecl := []
  structs : List StructDecl := []
deriving DecidableEq, Repr, Inhabited

/-- Why a Go file cannot be used. -/
inductive SourceError where
  | malformed
  | unreadable (path reason : String)
  | interfaceNotFound (name package : String)
  | structNotFound (name package : String)
deriving DecidableEq, Repr, Inhabited

/-- The wording of an error. A file that is no Go has none that is fixed. -/
def SourceError.message? : SourceError → Option String
  | malformed => none
  | unreadable path reason => some ("failed to read '" ++ path ++ "': " ++ reason)
  | interfaceNotFound name package =>
    some ("interface " ++ name ++ " not found in package " ++ package)
  | structNotFound name package =>
    some ("struct " ++ name ++ " not found in package " ++ package)

namespace GoFile

/-- The path of the first import that goes by a qualifier. -/
def importPath? (f : GoFile) (qualifier : String) : Option String :=
  (f.imports.find? (·.qualifier == qualifier)).map (·.path)

def findInterface (f : GoFile) (name : String) : Except SourceError InterfaceDecl :=
  match f.interfaces.find? (·.name == name) with
  | some d => .ok d
  | none => .error (.interfaceNotFound name f.package)

def findStruct (f : GoFile) (name : String) : Except SourceError StructDecl :=
  match f.structs.find? (·.name == name) with
  | some d => .ok d
  | none => .error (.structNotFound name f.package)

end GoFile

end QueryGen
