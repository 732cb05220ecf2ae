import QueryGen.Catalog.Basic
import QueryGen.Go.Declaration
import QueryGen.Method.Error
import QueryGen.Model.Basic

/-!
# Failures

- `Failure`: why a table, an interface or a method is left out of a run.
- `RunError`: why a run comes to nothing.
-/

namespace QueryGen

/-- Why a part of a run is left out. The rest of the run goes on. -/
inductive Failure where
  /-- The catalog has no answer. -/
  | table (table : String) (cause : CatalogError)
  /-- The model source has no struct for the table. -/
  | modelSource (table : String) (cause : SourceError)
  | model (table : String) (cause : ModelError)
  | interface (name path : String) (cause : SourceError)
  | method (interface method : String) (cause : MethodError)
deriving DecidableEq, Repr, Inhabited

namespace Failure

/-- What is left out. -/
def subject : Failure → String
  | table name _ => "table " ++ name
  | modelSource name _ => "model struct for table " ++ name
  | model name _ => "model for table " ++ name
  | interface name path _ => "interface " ++ name ++ " (" ++ path ++ ")"
  | method owner name _ => owner ++ "." ++ name

/-- The wording of the cause. -/
def reason? : Failure → Option String
  | table _ e => e.message?
  | modelSource _ e => e.message?
  | model _ e => some e.message
  | interface _ _ e => e.message?
  | method _ _ e => some e.message

/-- The wording of a failure, if its cause has one that is fixed. -/
def message? (f : Failure) : Option String := f.reason?.map (f.subject ++ ": " ++ ·)

end Failure

/-- Why a run comes to nothing. -/
inductive RunError where
  | catalog (cause : CatalogError)
  | modelSource (cause : SourceError)
  | unwritable (path reason : String)
deriving DecidableEq, Repr, Inhabited

/-- The wording of an error, if its cause has one that is fixed. -/
def RunError.message? : RunError → Option String
  | catalog e => e.message?.map ("Catalog error: " ++ ·)
  | modelSource e => e.message?
  | unwritable path reason => some ("Cannot write " ++ path ++ ": " ++ reason)

end QueryGen
