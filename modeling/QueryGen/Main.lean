import QueryGen.Command.Run

/-!
# The program

Reads the files that a command needs, works out the run, and writes its files.
-/

namespace QueryGen

/-- Why a file cannot be read or written. -/
def fileReason : IO.Error → String
  | .noFileOrDirectory .. => FileError.notFound.message
  | .alreadyExists .. => FileError.alreadyExists.message
  | .inappropriateType .. => FileError.isDirectory.message
  | e => toString e

/-- The result of an action on a file, with the reason when it fails. -/
def attempt {α : Type} (action : IO α) : IO (Except String α) := do
  try return .ok (← action)
  catch e => return .error (fileReason e)

/-- The contents of files, by path. -/
def readAll (paths : List String) : IO FileReader := do
  let texts ← paths.mapM fun (path : String) => do
    return (path, ← attempt (IO.FS.readFile path))
  return fun path => (texts.lookup path).getD (.error FileError.notFound.message)

def writeFile (f : OutputFile) : IO (Except String Unit) := attempt do
  if let some dir := Path.parent? f.path then
    if dir != "" then IO.FS.createDirAll dir
  IO.FS.writeFile f.path f.contents

/-- Writes files up to the first that cannot be written. -/
def writeAll : List OutputFile → IO (Option RunError)
  | [] => return none
  | f :: rest => do
    match ← writeFile f with
    | .ok () => writeAll rest
    | .error reason => return some (.unwritable f.path reason)

end QueryGen

open QueryGen in
/-- Runs a command line. -/
def main (args : List String) : IO UInt32 := do
  let config := (configPath? args).toList
  let paths := neededPaths args (← readAll config)
  let run := runArgs args (← readAll (config ++ paths))
  let outcome ← match ← writeAll run.files with
    | none => pure run.outcome
    | some e => pure (Outcome.ofError e)
  IO.print outcome.stdout
  IO.eprint outcome.stderr
  return outcome.code.toUInt32
