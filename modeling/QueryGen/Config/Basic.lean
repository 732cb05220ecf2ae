import QueryGen.Path
import QueryGen.Schema.Dialect
import QueryGen.Template.Scope

/-!
# Configurations

- `Config`: where the generated packages go, which tables they cover, and which interfaces.
- `Config.resolve`: the paths of a configuration, seen from another directory.
- `Config.sources`: the files that a run reads.
-/

namespace QueryGen

/-- Where the tables are described. -/
structure CatalogSource where
  schemaFile : Option String := none
  connection : Option String := none
deriving DecidableEq, Repr, Inhabited

/-- An interface whose methods are generated. -/
structure InterfaceSource where
  /-- The path of the Go file that declares the interface. -/
  path : String
  name : String
  /-- The tables that get the methods. Empty for all. -/
  applyTo : List String := []
deriving DecidableEq, Repr, Inhabited

/-- Whether a table gets the methods of an interface. -/
def InterfaceSource.appliesTo (i : InterfaceSource) (table : String) : Bool :=
  i.applyTo.isEmpty || i.applyTo.contains table

/-- What is generated, and from what. -/
structure Config where
  /-- The directory of the query package. -/
  outDir : String := "./query"
  /-- The directory of generated models. Without one they are not written. -/
  modelDir : Option String := none
  /-- The path of a Go file with structs that serve as models. -/
  modelSource : Option String := none
  queryPackage : String := "query"
  modelPackage : String := "model"
  /-- The path by which the model package is imported. -/
  modelImport : String
  dialect : Dialect := .mysql
  bindStyle : Template.BindStyle := .named
  /-- The qualifier of the package of placeholder types. -/
  genPackage : String := "gen"
  genImport : String := "gorm.io/gen"
  /-- The name of the receiver of generated methods. -/
  receiver : String := "u"
  catalog : CatalogSource := {}
  tables : List String := []
  interfaces : List InterfaceSource := []
deriving DecidableEq, Repr, Inhabited

namespace Config

/-- How templates are compiled. -/
def options (c : Config) : Template.Options where
  bindStyle := c.bindStyle
  receiver := c.receiver

/-- Relative paths are taken to start at `base`. -/
def resolve (base : String) (c : Config) : Config :=
  { c with
    outDir := Path.join base c.outDir
    modelDir := c.modelDir.map (Path.join base)
    modelSource := c.modelSource.map (Path.join base)
    catalog := { c.catalog with schemaFile := c.catalog.schemaFile.map (Path.join base) }
    interfaces := c.interfaces.map fun i => { i with path := Path.join base i.path } }

/-- The paths of the files that a run reads. -/
def sources (c : Config) : List String :=
  c.catalog.schemaFile.toList ++ c.modelSource.toList ++ c.interfaces.map (·.path)

@[simp] theorem tables_resolve (base : String) (c : Config) : (c.resolve base).tables = c.tables :=
  rfl

@[simp] theorem options_resolve (base : String) (c : Config) :
    (c.resolve base).options = c.options := rfl

end Config

end QueryGen
