import QueryGen.Go.Type
import QueryGen.Text.Basic
import QueryGen.Text.Case

/-!
# Column types

- `DataType`: the types that the generator tells apart.
- `DataType.ofSql`: the type that a column declaration names.
- `DataType.goType`, `DataType.fieldKind`: the Go type of a column, and the kind of its query field.
-/

namespace QueryGen

/-- The type of a column. -/
inductive DataType where
  | integer | bigInt | smallInt | tinyInt | decimal | float | double
  | varchar (length : Option Nat)
  | char (length : Option Nat)
  | text | binary
  | varBinary (length : Option Nat)
  | blob | date | time | dateTime | timestamp | boolean | json | uuid
  | enum (values : List String)
  /-- Any other type, by its declaration. -/
  | other (declaration : String)
deriving DecidableEq, Repr, Inhabited

namespace DataType

/-- A number below `2 ^ 64` in decimal digits, with a plus sign or without. -/
def length? (cs : List Char) : Option Nat :=
  let digits := match cs with
    | '+' :: rest => rest
    | rest => rest
  if digits ≠ [] ∧ digits.all Char.isDigit then
    let n := digits.foldl (fun n c => 10 * n + (c.toNat - '0'.toNat)) 0
    if n < UInt64.size then some n else none
  else none

/-- What stands before the first opening bracket, and from there to the last closing one. Without
a closing bracket the arguments run to the end. -/
def cutArguments (cs : List Char) : List Char × Option (List Char) :=
  match Text.cutFirst? (· == '(') cs with
  | none => (cs, none)
  | some (before, rest) =>
    match Text.cutLast? (· == ')') rest with
    | some (inside, _) => (before, some inside)
    | none =>
      if cs.contains ')' then (before, some []) else (before, some rest)

/-- The values of an enumeration: between commas, without blanks and quotes at their ends. -/
def enumValues (arguments : List Char) : List String :=
  let values := (Text.splitOn ',' arguments).map fun v => Text.trimMatches (· == '\'') (Text.trim v)
  (values.filter (· ≠ [])).map String.ofList

/-- The type of a name with an optional length. -/
def ofName? (name : String) (length : Option Nat) (isVarying : Bool) (arguments : List Char) :
    Option DataType :=
  match name with
  | "int" | "integer" | "int4" | "mediumint" | "serial" => some integer
  | "bigint" | "int8" | "bigserial" => some bigInt
  | "smallint" | "int2" | "smallserial" => some smallInt
  | "tinyint" => some (if length = some 1 then boolean else tinyInt)
  | "decimal" | "numeric" => some decimal
  | "float" | "real" | "float4" => some float
  | "double" | "float8" => some double
  | "varchar" => some (varchar length)
  | "character" => some (if isVarying then varchar length else char length)
  | "char" | "bpchar" => some (char length)
  | "text" | "tinytext" | "mediumtext" | "longtext" | "citext" => some text
  | "binary" => some binary
  | "varbinary" => some (varBinary length)
  | "blob" | "tinyblob" | "mediumblob" | "longblob" | "bytea" => some blob
  | "date" => some date
  | "time" | "timetz" => some time
  | "datetime" => some dateTime
  | "timestamp" | "timestamptz" => some timestamp
  | "bool" | "boolean" => some boolean
  | "json" | "jsonb" => some json
  | "uuid" => some uuid
  | "enum" => some (enum (enumValues arguments))
  | _ => none

/-- The type that a column declaration names, in any case. -/
def ofSql (declaration : String) : DataType :=
  let raw := Text.trim declaration.toList
  let small := Text.lower raw
  let (before, arguments) := cutArguments small
  let name := (Text.words before).headD []
  let length := arguments.bind fun a => length? (Text.trim a)
  let isVarying := Text.contains "varying".toList small
  (ofName? (.ofList name) length isVarying (arguments.getD [])).getD (other (.ofList raw))

/-- The Go type of a value that is present. -/
def valueType : DataType → GoType
  | integer => .simple "int32"
  | bigInt => .simple "int64"
  | smallInt => .simple "int16"
  | tinyInt => .simple "int8"
  | decimal | double => .simple "float64"
  | float => .simple "float32"
  | varchar _ | char _ | text | json | uuid | enum _ | other _ => .simple "string"
  | binary | varBinary _ | blob => .slice (.simple "byte")
  | date | time | dateTime | timestamp => .qualified "time" "Time"
  | boolean => .simple "bool"

/-- The Go type of a column. Null is a nil pointer, and a nil slice for bytes. -/
def goType (t : DataType) (nullable : Bool) : GoType :=
  if nullable && !t.valueType.isByteSlice then .pointer t.valueType else t.valueType

/-- The kind of the query field of a column. -/
def fieldKind : DataType → String
  | integer => "Int32"
  | bigInt => "Int64"
  | smallInt => "Int16"
  | tinyInt => "Int8"
  | decimal | double => "Float64"
  | float => "Float32"
  | binary | varBinary _ | blob => "Bytes"
  | date | time | dateTime | timestamp => "Time"
  | boolean => "Bool"
  | varchar _ | char _ | text | json | uuid | enum _ | other _ => "String"

end DataType

end QueryGen
