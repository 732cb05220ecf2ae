import QueryGen.Config.Basic
import QueryGen.Go.Identifier
import QueryGen.Go.Reserved

/-!
# Checking configurations

- `ConfigError`: what is wrong with a configuration.
- `Config.check`: the first thing that is wrong.
-/

namespace QueryGen

/-- Why a configuration cannot be used. -/
inductive ConfigError where
  | unreadable (path reason : String)
  /-- The text is no configuration. -/
  | malformed
  | invalidIdentifier (field value : String)
  | reservedReceiver (name : String)
  | noModelImport
  | noTables
  | unknownTable (interface table : String)
  | twoCatalogs
  | noCatalog
  /-- The connection string has no scheme of the dialect. -/
  | foreignConnection (dialect : Dialect)
deriving DecidableEq, Repr, Inhabited

/-- The wording of an error. A malformed configuration has none that is fixed. -/
def ConfigError.message? : ConfigError → Option String
  | unreadable path reason => some ("Cannot read config " ++ path ++ ": " ++ reason)
  | malformed => none
  | invalidIdentifier field value => some (field ++ " is not a valid Go identifier: " ++ value)
  | reservedReceiver name => some ("Receiver name " ++ name ++ " is reserved")
  | noModelImport => some "model_import is required"
  | noTables => some "Interfaces are configured but no tables are listed"
  | unknownTable interface table =>
    some ("Interface " ++ interface ++ " is applied to unknown table " ++ table)
  | twoCatalogs => some (catalogs "schema_file and connection_string are mutually exclusive")
  | noCatalog => some (catalogs "either schema_file or connection_string is required")
  | foreignConnection dialect =>
    some ("Invalid connection string for " ++ dialect.name ++
      ": scheme does not match the dialect")
where
  catalogs (reason : String) : String := "Invalid catalog configuration: " ++ reason

namespace Config

/-- The names that the generated code declares, by the field that holds them. -/
def identifiers (c : Config) : List (String × String) :=
  [("query_package", c.queryPackage), ("model_package", c.modelPackage),
    ("gen_package", c.genPackage), ("receiver", c.receiver)]

/-- An interface with the first table that it applies to and that is not listed. -/
def unknownTable? (c : Config) : Option (String × String) :=
  c.interfaces.findSome? fun i =>
    (i.applyTo.find? (!c.tables.contains ·)).map fun table => (i.name, table)

/-- There is one source of tables, and a connection suits the dialect. -/
def checkCatalog (c : Config) : Except ConfigError Unit :=
  match c.catalog.schemaFile, c.catalog.connection with
  | some _, some _ => .error .twoCatalogs
  | none, none => .error .noCatalog
  | some _, none => .ok ()
  | none, some connection =>
    if c.dialect.accepts connection then .ok () else .error (.foreignConnection c.dialect)

/-- Whether the configuration can be used. -/
def check (c : Config) : Except ConfigError Unit := do
  if let some (field, value) := c.identifiers.find? (!Go.isGoIdentifier ·.2) then
    throw (.invalidIdentifier field value)
  if c.receiver = Reserved.table ∨ Reserved.isReserved c.receiver then
    throw (.reservedReceiver c.receiver)
  if isBlankString c.modelImport then throw .noModelImport
  if !c.interfaces.isEmpty ∧ c.tables.isEmpty then throw .noTables
  if let some (interface, table) := c.unknownTable? then
    throw (.unknownTable interface table)
  c.checkCatalog

end Config

end QueryGen
