import QueryGen.Command.Basic
import QueryGen.Command.LogFilter
import QueryGen.Config.Reader
import QueryGen.Data.Json.Printer
import QueryGen.Form.Plan
import QueryGen.Plan.Files

/-!
# Running commands

What a command does is worked out before anything is written.

- `Outcome`: what the program says, and its exit code.
- `Run`: the files that are written first.
- `Command.run`: the run of a command.
- `Run.perform`: a run in a working directory.
-/

namespace QueryGen

/-- What the program says, and its exit code. -/
structure Outcome where
  code : Nat
  stdout : String := ""
  stderr : String := ""
deriving DecidableEq, Repr, Inhabited

/-- Files to write, and the outcome when all of them are written. -/
structure Run where
  files : List OutputFile := []
  outcome : Outcome
deriving Inhabited

/-! ## Reports -/

/-- A text whose later lines are indented. -/
def indented (first later : String) (text : String) : String :=
  first ++ text.replace "\n" ("\n" ++ later)

/-- The lines below a headline, one cause after the other. A single cause has no number. -/
def causeLines : List String → List String
  | [cause] => [indented "    " "    " cause]
  | causes => causes.mapIdx fun i cause => indented ("    " ++ i.repr ++ ": ") "       " cause

/-- The report of an error. -/
def report (headline : String) (causes : List String) : String :=
  "Error: " ++ headline ++ "\n" ++
    if causes.isEmpty then ""
    else "\nCaused by:\n" ++ "\n".intercalate (causeLines causes) ++ "\n"

/-- The outcome of an error. -/
def Outcome.failed (headline : String) (causes : List String) : Outcome where
  code := 1
  stderr := report headline causes

/-- The outcome of an error that ends a run. -/
def Outcome.ofError (e : RunError) : Outcome := failed (e.message?.getD "Go syntax error") []

/-- The outcome of a command line that is no request. -/
def Outcome.ofUsage (e : UsageError) : Outcome where
  code := 2
  stderr := "error: " ++ e.message ++ "\n\nUsage: sqlgen [OPTIONS]\n\n" ++
    "For more information, try '--help'.\n"

/-- The lines of a text, each with its end. -/
def textOfLines (lines : List String) : String := .join (lines.map (· ++ "\n"))

/-! ## Runs -/

/-- The configuration of a command. -/
def Command.load (c : Command) (read : FileReader) : Except ConfigError Config := do
  let config ← Config.load read c.config
  return { config with outDir := c.outDir.getD config.outDir }

/-- The run of a plan. -/
def Command.runPlan (c : Command) (config : Config) (p : Plan) : Run :=
  match c.dump with
  | some name => { outcome := { code := 0, stdout := (p.methodsJson name).pretty ++ "\n" } }
  | none =>
    let files := config.files p
    { files := if c.dryRun then [] else files
      outcome := {
        code := if p.failures.isEmpty then 0 else 1
        stdout := if c.dryRun then textOfLines (files.map (·.path)) else ""
        stderr := textOfLines (p.failures.map fun f => "error: " ++ f.message?.getD f.subject) } }

/-- The run of a command whose options are in order. -/
def Command.runConfig (c : Command) (read : FileReader) : Run :=
  match c.load read with
  | .error e =>
    { outcome := .failed ("loading " ++ c.config) [e.message?.getD "Invalid config file"] }
  | .ok config =>
    match config.openCatalog read with
    | .error e =>
      let cause := e.message?.getD "Failed to parse schema data"
      { outcome := .failed "opening catalog" ["Catalog error: " ++ cause, cause] }
    | .ok catalog =>
      match config.plan catalog read with
      | .error e => { outcome := .ofError (.modelSource e) }
      | .ok p => c.runPlan config p

/-- The run of a command. -/
def Command.run (c : Command) (read : FileReader) : Run :=
  match c.logLevel.forM checkLogFilter with
  | .ok () => c.runConfig read
  | .error e => { outcome := .failed "invalid --log-level" e.causes }

/-- The run of a command line. -/
def runArgs (args : List String) (read : FileReader) : Run :=
  match Request.ofArgs args with
  | .error e => { outcome := .ofUsage e }
  | .ok .help => { outcome := { code := 0, stdout := usage } }
  | .ok .version => { outcome := { code := 0, stdout := version ++ "\n" } }
  | .ok (.run c) => c.run read

/-- Writes the files of a run. The first that cannot be written ends it. -/
def Run.perform (r : Run) (d : WorkDir) : WorkDir × Outcome :=
  match d.writeAll r.files with
  | (d, none) => (d, r.outcome)
  | (d, some e) => (d, .ofError e)

/-- The paths of the files that a command line reads, as far as its configuration tells. -/
def neededPaths (args : List String) (read : FileReader) : List String :=
  match Request.ofArgs args with
  | .ok (.run c) => match c.load read with
    | .ok config => config.sources
    | .error _ => []
  | _ => []

/-- The path of the configuration of a command line. -/
def configPath? (args : List String) : Option String :=
  match Request.ofArgs args with
  | .ok (.run c) => some c.config
  | _ => none

theorem perform_of_files_eq_nil {r : Run} (h : r.files = []) (d : WorkDir) :
    r.perform d = (d, r.outcome) := by
  simp [Run.perform, h, WorkDir.writeAll]

end QueryGen
