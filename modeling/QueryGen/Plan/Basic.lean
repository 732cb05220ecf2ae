import QueryGen.Catalog.Live
import QueryGen.Catalog.SchemaFile
import QueryGen.Config.Basic
import QueryGen.Go.Source.File
import QueryGen.Output.QueryFile
import QueryGen.Plan.Failure
import QueryGen.Results

/-!
# Plans

A plan is all that a run finds out before it renders files: the model of each table, and the
compiled methods of each interface that applies to it. What cannot be used is left out and
recorded.

- `TablePlan`, `Report`, `Plan`: what is rendered, what was counted, and what is left out.
- `Config.openCatalog`: the catalog that a configuration names.
- `modelOf`, `methodOf`: the model of a table, and a method for a table.
- `Plan.addTable`, `Config.addInterface`: the steps of a run. Each adds to what is there.
- `Config.plan`: the plan of a configuration.
-/

namespace QueryGen

/-- The model of a table and the methods that its query struct gets. -/
structure TablePlan where
  /-- The name of the table in the configuration. -/
  table : String
  model : Model
  methods : List GeneratedMethod
deriving Inhabited

/-- What a run has counted, and what it has left out. -/
@[ext]
structure Report where
  tables : Nat := 0
  methods : Nat := 0
  failures : List Failure := []
deriving DecidableEq, Repr, Inhabited

/-- Records what is left out. -/
def Report.fail (r : Report) (f : Failure) : Report := { r with failures := r.failures ++ [f] }

@[ext]
structure Plan where
  tables : List TablePlan := []
  report : Report := {}
deriving Inhabited

namespace Plan

def failures (p : Plan) : List Failure := p.report.failures

/-- How many methods all tables have together. -/
def methodCount (p : Plan) : Nat := p.report.methods

end Plan

/-- An interface as it is declared in its file. -/
structure FoundInterface where
  source : InterfaceSource
  file : GoFile
  decl : InterfaceDecl
deriving Inhabited

namespace Config

/-- The catalog that the configuration names. -/
def openCatalog (c : Config) (read : FileReader) : Except CatalogError Catalog :=
  match c.catalog.schemaFile, c.catalog.connection with
  | some path, _ => (Schema.load read path).map Schema.catalog
  | none, some connection => connect c.dialect connection
  | none, none => .error .noConnection

/-! ## Models -/

/-- The model of a table: its struct in the model source if there is one, or else the columns that
the catalog gives it. -/
def modelOf (c : Config) (catalog : Catalog) (source : Option GoFile) (table : String) :
    Except Failure Model := do
  let found ← (catalog.table table).mapError (.table table)
  match source with
  | some file =>
    let decl ← (file.findStruct (Naming.structName table)).mapError (.modelSource table)
    (Model.ofStruct decl table c.modelPackage).mapError (.model table)
  | none => (Model.ofTable found c.modelPackage).mapError (.model table)

/-- The structs of the model source that are no model of a table. -/
def otherModels (c : Config) (models : List Model) (file : GoFile) : List Model :=
  successes ((file.structs.filter fun d => !models.any (·.name == d.name)).map fun d =>
    Model.ofStruct d (Naming.columnName d.name) c.modelPackage)

/-- The structs that signatures and templates may refer to. -/
def knownStructs (c : Config) (models : List Model) (source : Option GoFile) : StructRegistry :=
  Model.registry (models ++ (source.map (c.otherModels models)).getD [])

/-! ## Methods -/

def findInterface (read : FileReader) (i : InterfaceSource) : Except Failure FoundInterface := do
  let file ← (GoFile.load read i.path).mapError (.interface i.name i.path)
  let decl ← (file.findInterface i.name).mapError (.interface i.name i.path)
  return ⟨i, file, decl⟩

/-- The import of the model package. -/
def importOfModels (c : Config) : Import := .ofQualifier c.modelPackage c.modelImport

/-- The imports for the packages that a signature names. A package that the file does not import
is imported by its qualifier. -/
def methodImports (c : Config) (file : GoFile) (m : QueryMethod) : List Import :=
  (m.packages.filter (· ≠ c.genPackage)).map fun qualifier =>
    if qualifier = c.modelPackage then c.importOfModels
    else
      let known := file.imports.reverse.find? (·.qualifier == qualifier)
      .ofQualifier qualifier ((known.map (·.path)).getD qualifier)

/-- What the methods of a table are read against. -/
def methodContext (c : Config) (structs : StructRegistry) (model : Model) : MethodContext where
  placeholders := c.genPackage
  model := model.goType
  receiver := c.receiver
  structs := structs

/-- A method of an interface for a table. -/
def methodOf (c : Config) (structs : StructRegistry) (i : FoundInterface) (t : TablePlan)
    (m : Method) : Except Failure GeneratedMethod :=
  let built : Except MethodError GeneratedMethod := do
    let method ← QueryMethod.build i.decl.name m (c.methodContext structs t.model)
    let compiled ← method.compile t.table structs c.options
    return ⟨method, compiled, m.doc, c.methodImports i.file method⟩
  built.mapError (.method i.decl.name m.name)

end Config

/-! ## Steps of a run -/

/-- Takes in a table with its model, or records why it has none. -/
def Plan.addTable (p : Plan) (table : String) : Except Failure Model → Plan
  | .ok model => { p with tables := p.tables ++ [⟨table, model, []⟩] }
  | .error f => { p with report := p.report.fail f }

/-- Counts the tables that were taken in. -/
def Plan.countTables (p : Plan) : Plan :=
  { p with report := { p.report with tables := p.tables.length } }

/-- Gives a table a method, or records why it cannot have it. -/
def TablePlan.addMethod (t : TablePlan) (r : Report) :
    Except Failure GeneratedMethod → TablePlan × Report
  | .ok m => ({ t with methods := t.methods ++ [m] }, { r with methods := r.methods + 1 })
  | .error f => (t, r.fail f)

namespace Config

/-- Gives a table the methods of an interface, one after the other. -/
def addMethods (c : Config) (structs : StructRegistry) (i : FoundInterface) :
    List Method → TablePlan → Report → TablePlan × Report
  | [], t, r => (t, r)
  | m :: rest, t, r =>
    let (t, r) := t.addMethod r (c.methodOf structs i t m)
    c.addMethods structs i rest t r

/-- Gives the methods of an interface to each table that it applies to. -/
def addToTables (c : Config) (structs : StructRegistry) (i : FoundInterface) :
    List TablePlan → Report → List TablePlan × Report
  | [], r => ([], r)
  | t :: rest, r =>
    let (t, r) :=
      if i.source.appliesTo t.table then c.addMethods structs i i.decl.methods t r else (t, r)
    let (rest, r) := c.addToTables structs i rest r
    (t :: rest, r)

/-- Takes in an interface, or records why it cannot be found. -/
def addInterface (c : Config) (structs : StructRegistry) (read : FileReader) (p : Plan)
    (i : InterfaceSource) : Plan :=
  match findInterface read i with
  | .ok found =>
    let (tables, report) := c.addToTables structs found p.tables p.report
    { tables, report }
  | .error f => { p with report := p.report.fail f }

/-- The tables of a run with their models. -/
def planTables (c : Config) (catalog : Catalog) (source : Option GoFile) : Plan :=
  let step (p : Plan) (table : String) : Plan :=
    p.addTable table (c.modelOf catalog source table)
  (c.tables.foldl step {}).countTables

/-- The plan of a run whose model source has been read. -/
def planFrom (c : Config) (catalog : Catalog) (read : FileReader) (source : Option GoFile) : Plan :=
  let p := c.planTables catalog source
  let structs := c.knownStructs (p.tables.map (·.model)) source
  c.interfaces.foldl (c.addInterface structs read) p

/-- The plan of a configuration. Only a model source that cannot be read leaves a run without
one. -/
def plan (c : Config) (catalog : Catalog) (read : FileReader) : Except SourceError Plan := do
  return c.planFrom catalog read (← c.modelSource.mapM (GoFile.load read))

end Config

end QueryGen
