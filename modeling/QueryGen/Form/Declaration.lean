import QueryGen.Form.Type
import QueryGen.Go.Declaration

/-!
# Go declarations as JSON

- `Import`, `Method`, `StructField`, `StructDecl`, `GoFile`: `toJson` and `ofJson?` of each.
-/

namespace QueryGen

open Json (str)

def Import.toJson (i : Import) : Json :=
  .record [("alias", Json.ofOption str i.name), ("path", str i.path)]

def Import.ofJson? (t : Json) : Option Import := do
  let f ← t.fields? ["alias", "path"]
  return ⟨← f.optional "alias" Tree.text?, ← f.required "path" Tree.text?⟩

def Method.toJson (m : Method) : Json :=
  .record [("name", str m.name), ("doc", str m.doc), ("params", Json.array Param.toJson m.params),
    ("results", Json.array Param.toJson m.results)]

def Method.ofJson? (t : Json) : Option Method := do
  let f ← t.fields? ["name", "doc", "params", "results"]
  return {
    name := ← f.required "name" Tree.text?
    doc := ← f.required "doc" Tree.text?
    params := ← f.required "params" (Tree.listOf Param.ofJson?)
    results := ← f.required "results" (Tree.listOf Param.ofJson?) }

def InterfaceDecl.toJson (d : InterfaceDecl) : Json :=
  .record [("name", str d.name), ("methods", Json.array Method.toJson d.methods)]

def InterfaceDecl.ofJson? (t : Json) : Option InterfaceDecl := do
  let f ← t.fields? ["name", "methods"]
  return ⟨← f.required "name" Tree.text?, ← f.required "methods" (Tree.listOf Method.ofJson?)⟩

def StructField.toJson (f : StructField) : Json :=
  .record [("name", str f.name), ("ty", f.type.toJson), ("tag", Json.ofOption str f.tag),
    ("embedded", Json.bool f.embedded)]

def StructField.ofJson? (t : Json) : Option StructField := do
  let f ← t.fields? ["name", "ty", "tag", "embedded"]
  return {
    name := ← f.required "name" Tree.text?
    type := ← f.required "ty" GoType.ofJson?
    tag := ← f.optional "tag" Tree.text?
    embedded := ← f.required "embedded" Tree.flag? }

def StructDecl.toJson (d : StructDecl) : Json :=
  .record [("name", str d.name), ("fields", Json.array StructField.toJson d.fields)]

def StructDecl.ofJson? (t : Json) : Option StructDecl := do
  let f ← t.fields? ["name", "fields"]
  return ⟨← f.required "name" Tree.text?,
    ← f.required "fields" (Tree.listOf StructField.ofJson?)⟩

def GoFile.toJson (f : GoFile) : Json :=
  .record [("package", str f.package), ("imports", Json.array Import.toJson f.imports),
    ("interfaces", Json.array InterfaceDecl.toJson f.interfaces),
    ("structs", Json.array StructDecl.toJson f.structs)]

def GoFile.ofJson? (t : Json) : Option GoFile := do
  let f ← t.fields? ["package", "imports", "interfaces", "structs"]
  return {
    package := ← f.required "package" Tree.text?
    imports := ← f.required "imports" (Tree.listOf Import.ofJson?)
    interfaces := ← f.required "interfaces" (Tree.listOf InterfaceDecl.ofJson?)
    structs := ← f.required "structs" (Tree.listOf StructDecl.ofJson?) }

end QueryGen
