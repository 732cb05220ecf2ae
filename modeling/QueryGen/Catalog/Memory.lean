import QueryGen.Catalog.Basic

/-!
# Catalogs in memory

A catalog of given tables, some of which refuse to give their columns.

- `MemoryCatalog.add`: adds a table, in place of one of the same name and schema.
- `MemoryCatalog.catalog`: its answers.
- `MemoryCatalog.sample`: a catalog with users and orders.
-/

namespace QueryGen

/-- Given tables, and the names of those that refuse to give their columns. -/
structure MemoryCatalog where
  /-- Sorted by name. -/
  tables : List Table := []
  failing : List String := []
deriving DecidableEq, Repr, Inhabited

namespace MemoryCatalog

/-- The schema and the name with a dot between them. -/
def key (t : Table) : String := t.schema ++ "." ++ t.name

/-- Puts a table behind those whose names do not come after its own. -/
def place (t : Table) : List Table → List Table
  | [] => [t]
  | u :: rest => if t.name < u.name then t :: u :: rest else u :: place t rest

theorem mem_place {t u : Table} {tables : List Table} :
    u ∈ place t tables ↔ u = t ∨ u ∈ tables := by
  induction tables with
  | nil => simp [place]
  | cons v rest ih =>
    by_cases h : t.name < v.name
    · simp [place, h]
    · simp only [place, h, if_false, List.mem_cons, ih]
      exact or_left_comm

/-- Adds a table, in place of one of the same schema and name. -/
def add (c : MemoryCatalog) (t : Table) : MemoryCatalog :=
  { c with tables := place t (c.tables.filter (key · ≠ key t)) }

/-- Makes a table refuse to give its columns. -/
def fail (c : MemoryCatalog) (name : String) : MemoryCatalog :=
  { c with failing := name :: c.failing }

/-- The answers of the catalog. -/
def catalog (c : MemoryCatalog) : Catalog where
  tables := .ok c.tables
  columns query :=
    let name := (splitQualified query).2
    if c.failing.contains name then .error (.brokenTable name)
    else match c.tables.find? (·.isNamed query) with
      | some t => .ok t.columns
      | none => .error (.tableNotFound query "mock")

/-- Registered users. -/
def users : Table where
  name := "users"
  schema := "app"
  comment := some "registered users"
  columns :=
    [{ name := "id", type := .bigInt, isPrimaryKey := true, autoIncrement := true },
     { name := "name", type := .varchar (some 64) },
     { name := "age", type := .integer },
     { name := "role", type := .varchar (some 16), default := some "'member'" },
     { name := "created_at", type := .dateTime },
     { name := "deleted_at", type := .dateTime, nullable := true }]

/-- The orders of users. -/
def orders : Table where
  name := "orders"
  schema := "app"
  columns :=
    [{ name := "id", type := .bigInt, isPrimaryKey := true, autoIncrement := true },
     { name := "user_id", type := .bigInt },
     { name := "total", type := .decimal },
     { name := "paid", type := .boolean },
     { name := "note", type := .text, nullable := true }]

/-- A catalog with users and orders. -/
def sample : MemoryCatalog := add (add {} users) orders

end MemoryCatalog

end QueryGen
