import QueryGen.Form.Clause
import QueryGen.Method.Basic

/-!
# Query methods as JSON

- `QueryMethod.toJson`: a checked method.
- `Compiled.toJson`: its statements and clauses.
-/

namespace QueryGen

open Json (str)

def SqlDoc.toJson (d : SqlDoc) : Json :=
  .record [("kind", str d.kind.name), ("text", str d.text)]

def ResultRole.toJson : ResultRole → Json
  | data kind => .record [("role", str "data"), ("scan", str kind.method)]
  | rowsAffected => .record [("role", str "rows_affected")]
  | error => .record [("role", str "error")]

def ResultSlot.toJson (r : ResultSlot) : Json :=
  .record [("name", str r.name), ("ty", r.type.toJson), ("role", r.role.toJson)]

def QueryMethod.toJson (m : QueryMethod) : Json :=
  .record [("interface", str m.interface), ("name", str m.name), ("doc", m.doc.toJson),
    ("exec", str m.exec.name), ("params", Json.array Param.toJson m.params),
    ("results", Json.array ResultSlot.toJson m.results)]

def Compiled.toJson (c : Compiled) : Json :=
  .record [("statements", Json.texts c.statements),
    ("clauses", Json.array Clause.toJson c.clauses), ("bind_count", Json.nat c.bindCount),
    ("imports", Json.texts c.imports), ("bind_style", str c.bindStyle.name)]

end QueryGen
