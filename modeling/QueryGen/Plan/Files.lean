import QueryGen.Output.HelperFile
import QueryGen.Output.ModelFile
import QueryGen.Plan.Basic

/-!
# Files of a run

- `OutputFile`: a file that a run writes.
- `Config.files`: the files of a plan.
- `WorkDir.writeAll`: writing files into a working directory.
-/

namespace QueryGen

/-- A file that a run writes. -/
structure OutputFile where
  path : String
  contents : String
deriving DecidableEq, Repr, Inhabited

namespace TablePlan

/-- The name of the files of a table. -/
def fileName (t : TablePlan) : String := t.table ++ ".gen.go"

/-- What the query file of a table is written from. -/
def queryFile (c : Config) (t : TablePlan) : QueryFile where
  package := c.queryPackage
  model := t.model
  receiver := c.receiver
  modelImport := c.importOfModels
  genImport := c.genImport
  genPackage := c.genPackage
  methods := t.methods

/-- The files of a table. The model has one if there is a directory for it, and it is not read from
a model source. -/
def files (c : Config) (t : TablePlan) : List OutputFile :=
  (match c.modelDir, c.modelSource with
    | some dir, none => [⟨Path.join dir t.fileName, Output.modelFile t.model⟩]
    | _, _ => []) ++
  [⟨Path.join c.outDir t.fileName, (t.queryFile c).source⟩]

end TablePlan

namespace Config

/-- The file that all query files of a package share. -/
def sharedFile (c : Config) : OutputFile :=
  ⟨Path.join c.outDir Output.helperFileName, Output.helperFile c.queryPackage⟩

/-- The files of a plan, in the order in which they are written. -/
def files (c : Config) (p : Plan) : List OutputFile :=
  p.tables.flatMap (TablePlan.files c) ++ if p.tables.isEmpty then [] else [c.sharedFile]

end Config

namespace WorkDir

/-- Writes a file, and makes the directories that lead to it. -/
def writeOut (d : WorkDir) (f : OutputFile) : WorkDir × Option FileError :=
  let (d, failed) := match Path.parent? f.path with
    | some dir => d.makeDirs dir
    | none => (d, none)
  match failed with
  | some e => (d, some e)
  | none => match d.write f.path f.contents with
    | .ok written => (written, none)
    | .error e => (d, some e)

/-- Writes files up to the first that cannot be written. -/
def writeAll (d : WorkDir) : List OutputFile → WorkDir × Option RunError
  | [] => (d, none)
  | f :: rest =>
    match d.writeOut f with
    | (d, none) => writeAll d rest
    | (d, some e) => (d, some (.unwritable f.path e.message))

end WorkDir

end QueryGen
