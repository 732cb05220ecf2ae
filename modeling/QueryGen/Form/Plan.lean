import QueryGen.Form.Method
import QueryGen.Plan.Basic

/-!
# Plans as JSON

- `Plan.methodsJson`: the methods of a name with their clause trees.
-/

namespace QueryGen

open Json (str)

/-- The methods of a name, for each table that gets them. -/
def Plan.methodsJson (p : Plan) (name : String) : Json :=
  .list <| p.tables.flatMap fun t =>
    (t.methods.filter (·.method.name == name)).map fun g =>
      .record [("table", str t.table), ("interface", str g.method.interface),
        ("method", g.method.toJson), ("compiled", g.compiled.toJson)]

end QueryGen
