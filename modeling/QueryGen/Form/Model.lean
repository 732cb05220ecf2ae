import QueryGen.Form.Type
import QueryGen.Model.Basic

/-!
# Models as JSON

- `ModelField.toJson`, `Model.toJson`: a field and a model.
-/

namespace QueryGen

open Json (str)

def ModelField.toJson (f : ModelField) : Json :=
  .record [("name", str f.name), ("column", str f.column), ("ty", f.type.toJson),
    ("primary_key", Json.bool f.isPrimaryKey), ("auto_increment", Json.bool f.autoIncrement),
    ("comment", Json.ofOption str f.comment), ("field_kind", str f.kind)]

def Model.toJson (m : Model) : Json :=
  .record [("name", str m.name), ("table", str m.table), ("package", str m.package),
    ("comment", Json.ofOption str m.comment), ("fields", Json.array ModelField.toJson m.fields)]

end QueryGen
