import QueryGen.Catalog.Basic

/-!
# Catalogs of databases

A live catalog holds what is needed to connect to a database. Without a driver it checks its
settings and refuses every question.

- `LiveCatalog.checked`: settings that can be used.
- `LiveCatalog.catalog`: the answers.
- `connect`: the catalog of a dialect.
-/

namespace QueryGen

/-- How a database is reached. -/
structure LiveCatalog where
  family : DialectFamily
  connection : String
  poolSize : Nat := 10
  timeoutSeconds : Nat := 5
  /-- The schema of tables that are named without one. -/
  schema : String := "public"
deriving DecidableEq, Repr, Inhabited

namespace LiveCatalog

/-- The settings, if they can be used. -/
def checked (c : LiveCatalog) : Except CatalogError LiveCatalog :=
  if c.connection = "" then .error .noConnection
  else if !c.family.accepts c.connection then .error (.foreignScheme c.family c.connection)
  else if c.poolSize = 0 then .error .emptyPool
  else if c.timeoutSeconds = 0 then .error .noTimeout
  else .ok c

/-- Every question needs a driver. -/
def catalog (c : LiveCatalog) : Catalog where
  tables := .error (.noTableDriver c.family)
  columns query := .error (.noColumnDriver c.family (splitQualified query).2)

end LiveCatalog

/-- The catalog of a database of a dialect. -/
def connect (dialect : Dialect) (connection : String) : Except CatalogError Catalog := do
  if !dialect.accepts connection then throw (.foreignDialect dialect)
  let live ← LiveCatalog.checked { family := dialect.family, connection }
  return live.catalog

end QueryGen
