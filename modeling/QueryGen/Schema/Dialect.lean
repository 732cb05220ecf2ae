import QueryGen.Text.Case

/-!
# SQL dialects

- `Dialect`, `DialectFamily`: the dialects, by the protocol that they speak.
- `Dialect.parse?`: a dialect by one of its names, without regard to case.
- `Dialect.accepts`: whether a connection string has the scheme of the dialect.
-/

namespace QueryGen

inductive DialectFamily where
  | mysql | postgresql
deriving DecidableEq, Repr, Inhabited

def DialectFamily.name : DialectFamily → String
  | mysql => "MySQL"
  | postgresql => "PostgreSQL"

inductive Dialect where
  | mysql | postgresql | tidb | mariadb | cockroachdb
deriving DecidableEq, Repr, Inhabited

namespace Dialect

def family : Dialect → DialectFamily
  | mysql => .mysql
  | tidb => .mysql
  | mariadb => .mysql
  | postgresql => .postgresql
  | cockroachdb => .postgresql

def name : Dialect → String
  | mysql => "mysql"
  | postgresql => "postgresql"
  | tidb => "tidb"
  | mariadb => "mariadb"
  | cockroachdb => "cockroachdb"

/-- The dialect of a name in the spelling of `name`. -/
def ofName? : String → Option Dialect
  | "mysql" => some mysql
  | "postgresql" => some postgresql
  | "tidb" => some tidb
  | "mariadb" => some mariadb
  | "cockroachdb" => some cockroachdb
  | _ => none

/-- The dialect of a name or a short name, in any case. -/
def parse? (s : String) : Option Dialect :=
  match String.ofList (Text.lower s.toList) with
  | "postgres" => some postgresql
  | "pg" => some postgresql
  | "cockroach" => some cockroachdb
  | small => ofName? small

end Dialect

/-- The schemes of connection strings. -/
def DialectFamily.schemes : DialectFamily → List String
  | mysql => ["mysql://"]
  | postgresql => ["postgres://", "postgresql://"]

/-- Whether a connection string has a scheme of the family. -/
def DialectFamily.accepts (f : DialectFamily) (connection : String) : Bool :=
  f.schemes.any fun scheme => scheme.toList.isPrefixOf connection.toList

/-- Whether a connection string has the scheme of the dialect. -/
def Dialect.accepts (d : Dialect) (connection : String) : Bool := d.family.accepts connection

@[simp] theorem Dialect.ofName?_name (d : Dialect) : ofName? d.name = some d := by
  cases d <;> rfl

end QueryGen
