import QueryGen.Schema.Dialect
import QueryGen.Schema.Table

/-!
# Catalogs

A catalog answers questions about tables.

- `CatalogError`: why there is no catalog or no answer.
- `Catalog`: the answers of a catalog.
- `Catalog.table`: a table by name, with its columns.
-/

namespace QueryGen

/-- Why there is no catalog, or no answer. -/
inductive CatalogError where
  /-- The schema is empty when none was asked for. -/
  | tableNotFound (name schema : String)
  /-- The columns of a table cannot be asked for. -/
  | brokenTable (name : String)
  | unreadable (path reason : String)
  /-- The schema is not written in its format. -/
  | malformed
  | duplicateTable (name : String)
  | unknownExtension (extension : Option String)
  | noConnection
  /-- The connection string has no scheme of the family. -/
  | foreignScheme (family : DialectFamily) (connection : String)
  | foreignDialect (dialect : Dialect)
  | emptyPool
  | noTimeout
  /-- The tables of a database cannot be asked for without a driver. -/
  | noTableDriver (family : DialectFamily)
  /-- The columns of a table cannot be asked for without a driver. -/
  | noColumnDriver (family : DialectFamily) (table : String)
deriving DecidableEq, Repr, Inhabited

/-- The name of the driver that the family needs. -/
def DialectFamily.driver : DialectFamily → String
  | mysql => "mysql"
  | postgresql => "postgresql"

/-- How the start of a foreign connection string is reported. -/
def foreignSchemeText (family : DialectFamily) (connection : String) : String :=
  let first (n : Nat) : String := .ofList (connection.toList.take n)
  match family with
  | .mysql => "connection_string must start with 'mysql://', got: " ++ first 10
  | .postgresql =>
    "connection_string must start with 'postgresql://' or 'postgres://', got: " ++ first 15

/-- The wording of an error. A malformed schema has none that is fixed. -/
def CatalogError.message? : CatalogError → Option String
  | tableNotFound name schema =>
    some ("Table '" ++ name ++ "' not found in schema '" ++ schema ++ "'")
  | brokenTable name => some ("Query execution failed: mock failure for table '" ++ name ++ "'")
  | unreadable path reason => some ("Failed to read schema file '" ++ path ++ "': " ++ reason)
  | malformed => none
  | duplicateTable name =>
    some ("Failed to parse schema data: table '" ++ name ++ "' is defined more than once")
  | unknownExtension ext => configuration
      ("unsupported schema file extension: " ++ ext.getD "<none>")
  | noConnection => configuration "connection_string cannot be empty"
  | foreignScheme family connection => configuration (foreignSchemeText family connection)
  | foreignDialect dialect => configuration
      ("connection string does not match dialect '" ++ dialect.name ++ "'")
  | emptyPool => configuration "pool_size must be greater than 0"
  | noTimeout => configuration "timeout_secs must be greater than 0"
  | noTableDriver family => unsupported
      ("list_tables requires '" ++ family.driver ++ "' feature enabled")
  | noColumnDriver family table => unsupported
      ("get_columns requires '" ++ family.driver ++ "' feature enabled (table: '" ++ table ++ "')")
where
  configuration (reason : String) : Option String :=
    some ("Invalid catalog configuration: " ++ reason)
  unsupported (reason : String) : Option String := some ("Feature not supported: " ++ reason)

/-- The answers of a catalog. -/
structure Catalog where
  tables : Except CatalogError (List Table)
  columns : String → Except CatalogError (List Column)

/-- The error for a table that does not exist. -/
def CatalogError.notFound (query : String) : CatalogError :=
  let (schema, name) := splitQualified query
  tableNotFound name (schema.getD "")

/-- A table by name. Columns that the list of tables leaves out are asked for. -/
def Catalog.table (c : Catalog) (query : String) : Except CatalogError Table := do
  match (← c.tables).find? (·.isNamed query) with
  | none => throw (.notFound query)
  | some found =>
    if found.columns.isEmpty then return { found with columns := ← c.columns query }
    else return found

end QueryGen
