import QueryGen.Data.Json

/-!
# Writing JSON

- `quote`: a text as a JSON string.
- `compact`: a value on one line, without blanks.
- `pretty`: a value with two spaces for each level, its fields sorted by name.
-/

namespace QueryGen.Json

/-- A character inside a JSON string. -/
def quoteChar (c : Char) : List Char :=
  match c with
  | '"' => ['\\', '"']
  | '\\' => ['\\', '\\']
  | '\n' => ['\\', 'n']
  | '\r' => ['\\', 'r']
  | '\t' => ['\\', 't']
  | '\x08' => ['\\', 'b']
  | '\x0c' => ['\\', 'f']
  | c =>
    if c.toNat < 0x20 then
      ['\\', 'u', '0', '0', Nat.digitChar (c.toNat / 16), Nat.digitChar (c.toNat % 16)]
    else [c]

/-- A text as a JSON string. -/
def quote (s : String) : String :=
  "\"" ++ .ofList (s.toList.flatMap quoteChar) ++ "\""

/-- The text of a scalar. -/
def scalarText : JsonScalar → String
  | .null => "null"
  | .bool true => "true"
  | .bool false => "false"
  | .nat n => n.repr
  | .number text => text
  | .text s => quote s

mutual

/-- A value on one line. -/
def compact : Json → String
  | .scalar s => scalarText s
  | .list items => "[" ++ compactItems items ++ "]"
  | .record fields => "\x7b" ++ compactFields fields ++ "\x7d"

/-- Items on one line, with commas between them. -/
def compactItems : List Json → String
  | [] => ""
  | [t] => compact t
  | t :: rest => compact t ++ "," ++ compactItems rest

/-- Fields on one line, with commas between them. -/
def compactFields : List (String × Json) → String
  | [] => ""
  | [(name, t)] => quote name ++ ":" ++ compact t
  | (name, t) :: rest => quote name ++ ":" ++ compact t ++ "," ++ compactFields rest

end

/-- The start of a line at a depth. -/
def newLine (depth : Nat) : String := "\n" ++ .ofList (List.replicate (2 * depth) ' ')

mutual

/-- Sorts the fields of all records by name. -/
def sorted : Json → Json
  | .scalar s => .scalar s
  | .list items => .list (sortedItems items)
  | .record fields => .record ((sortedFields fields).mergeSort fun a b => !(b.1 < a.1))

/-- Sorts the records among items. -/
def sortedItems : List Json → List Json
  | [] => []
  | t :: rest => sorted t :: sortedItems rest

/-- Sorts the records among the values of fields. -/
def sortedFields : List (String × Json) → List (String × Json)
  | [] => []
  | (name, t) :: rest => (name, sorted t) :: sortedFields rest

end

mutual

/-- A value over several lines, the fields of records in their order. -/
def indented (depth : Nat) : Json → String
  | .scalar s => scalarText s
  | .list [] => "[]"
  | .list items => "[" ++ indentedItems (depth + 1) items ++ newLine depth ++ "]"
  | .record [] => "\x7b\x7d"
  | .record fields => "\x7b" ++ indentedFields (depth + 1) fields ++ newLine depth ++ "\x7d"

/-- Items on lines of their own. -/
def indentedItems (depth : Nat) : List Json → String
  | [] => ""
  | [t] => newLine depth ++ indented depth t
  | t :: rest => newLine depth ++ indented depth t ++ "," ++ indentedItems depth rest

/-- Fields on lines of their own. -/
def indentedFields (depth : Nat) : List (String × Json) → String
  | [] => ""
  | [(name, t)] => newLine depth ++ quote name ++ ": " ++ indented depth t
  | (name, t) :: rest =>
    newLine depth ++ quote name ++ ": " ++ indented depth t ++ "," ++ indentedFields depth rest

end

/-- A value over several lines. -/
def pretty (t : Json) : String := indented 0 (sorted t)

end QueryGen.Json
