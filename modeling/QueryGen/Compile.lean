import QueryGen.Clause.Build
import QueryGen.Statement.Render
import QueryGen.Template.Tokenize

/-!
# Compiling templates

- `Compiled`: the clause tree of a template and the Go statements that it stands for.
- `Compiled.imports`, `Compiled.execArgs`: the packages that the statements use, and the arguments
  of the call that runs the statement.
- `compile`: a template read against a scope.
-/

namespace QueryGen

open Template (BindStyle Options Scope)

/-- A compiled template. -/
structure Compiled where
  clauses : List Clause
  block : List Statement
  bindStyle : BindStyle
deriving Inhabited

namespace Compiled

/-- The lines of the statements. -/
def statements (c : Compiled) : List String := Statement.linesAll 0 c.block

/-- How many values the template binds in its source text. -/
def bindCount (c : Compiled) : Nat := (Clause.bindingsAll c.clauses).length

def hasParams (c : Compiled) : Bool := 0 < c.bindCount

/-- Whether the statements format keys. -/
def needsFormat (c : Compiled) : Bool := Statement.anyUsesFormat c.block

/-- The packages that the statements use. -/
def imports (c : Compiled) : List String :=
  if c.needsFormat then ["fmt", "strings"] else ["strings"]

/-- The arguments of the call that runs the statement. -/
def execArgs (c : Compiled) : String :=
  let text := Reserved.sqlBuilder ++ ".String()"
  match c.hasParams, c.bindStyle with
  | false, _ => text
  | true, .named => text ++ ", " ++ Reserved.bindings
  | true, .positional => text ++ ", " ++ Reserved.bindings ++ "..."

end Compiled

/-- The statements of clauses. -/
def render (opts : Options) (clauses : List Clause) : Compiled :=
  ⟨clauses, methodStatements opts clauses, opts.bindStyle⟩

/-- Compiles a template. -/
def compile (template : String) (scope : Scope) (opts : Options) :
    Except TemplateError Compiled :=
  if isBlankString template then .error .empty
  else do
    let sections ← Template.tokenize template scope (some opts.receiver)
    let clauses ← buildClauses sections template
    return render opts clauses

end QueryGen
