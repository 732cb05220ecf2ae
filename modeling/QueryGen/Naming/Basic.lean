import QueryGen.Naming.Words

/-!
# Go names for tables and columns

- `goName`: the exported name of a database name.
- `structName`: the name of the model of a table.
- `columnName`: the column of a field.
- `singular`: the singular of an English plural.
- `lowerFirst`: a name that begins with a small letter.
-/

namespace QueryGen.Naming

/-- Words that Go names spell in capitals. -/
def initialisms : List String :=
  ["ACL", "API", "ASCII", "CPU", "CSS", "DNS", "EOF", "GUID", "HTML", "HTTP", "HTTPS", "ID", "IP",
   "JSON", "QPS", "RAM", "RPC", "SLA", "SMTP", "SQL", "SSH", "TCP", "TLS", "TTL", "UDP", "UI",
   "UID", "UUID", "URI", "URL", "UTF8", "VM", "XML", "XSRF", "XSS"]

/-- A segment of a database name inside a Go name. -/
def goSegment (cs : List Char) : List Char :=
  let capitals := Text.upper cs
  if initialisms.contains (.ofList capitals) then capitals else camelCase cs

/-- Puts a letter in front of a text that begins with a digit, and of the empty one. -/
def leadWithLetter : List Char → List Char
  | [] => ['F']
  | c :: rest => if c.isDigit then 'F' :: c :: rest else c :: rest

/-- The exported Go name of a database name: `user_id` becomes `UserID`. -/
def goName (raw : String) : String :=
  .ofList (leadWithLetter ((segments raw.toList).flatMap goSegment))

/-- Endings of plurals that are two letters longer than the singular. -/
def sibilantPlurals : List (List Char) :=
  ["sses", "uses", "xes", "zes", "ches", "shes"].map String.toList

/-- Drops the last `n` characters. -/
def dropLast (n : Nat) (cs : List Char) : List Char := cs.take (cs.length - n)

/-- The singular of an English plural, without regard to case. -/
def singularText (cs : List Char) : List Char :=
  let small := Text.lower cs
  let ends (suffix : List Char) : Bool := suffix.isSuffixOf small
  if ends ['i', 'e', 's'] && 3 < cs.length then dropLast 3 cs ++ ['y']
  else if sibilantPlurals.any ends then dropLast 2 cs
  else if ends ['s'] && !ends ['s', 's'] && 1 < cs.length then dropLast 1 cs
  else cs

/-- The singular of the last word of a table name. -/
def singular (word : String) : String := .ofList (singularText word.toList)

/-- The name of the model of a table: `user_roles` becomes `UserRole`. -/
def structName (table : String) : String := goName (singular table)

/-- The column of a field that does not name one: `CreatedAt` becomes `created_at`. -/
def columnName (field : String) : String := .ofList (snakeCase field.toList)

/-- A name with a small letter in front: `UserRole` becomes `userRole`. -/
def lowerFirst (name : String) : String :=
  match name.toList with
  | [] => ""
  | c :: rest => .ofList (Text.lowerChar c ++ rest)

end QueryGen.Naming
