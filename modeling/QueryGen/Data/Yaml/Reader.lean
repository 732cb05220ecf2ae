import QueryGen.Data.Yaml.Lexer
import QueryGen.Data.Yaml.Node

/-!
# Reading YAML

A text holds a single document: a value, perhaps between marks and below directives.

- `document?`: the value of a document, as it is written.
- `resolve`: the value that is meant.
- `parse`: the value of a whole text.
-/

namespace QueryGen.Yaml

/-! ## Documents -/

/-- The handles of directives in front of a document, and what follows them. One version may be
given, and one text for each handle. -/
def directives? (hasVersion : Bool) (handles : Handles) :
    List Token → Option (Handles × List Token)
  | .version major minor :: rest =>
    if hasVersion ∨ major ≠ 1 ∨ (minor ≠ 1 ∧ minor ≠ 2) then none
    else directives? true handles rest
  | .handle name text :: rest =>
    if handles.any (·.1 == name) then none
    else directives? hasVersion (handles ++ [(name, text)]) rest
  | rest => some (handles ++ Handles.standard, rest)

/-- The value of a document that starts with a value at once, or behind its mark. -/
def content (handles : Handles) (tokens : List Token) : Option (Node × Source) :=
  node? handles (3 * tokens.length + 3) .block ⟨tokens, []⟩

/-- The value behind the mark of a document. There may be none. -/
def markedContent (handles : Handles) (tokens : List Token) : Option (Node × Source) :=
  match tokens with
  | [] | .documentStart :: _ | .documentEnd :: _ | .version .. :: _ | .handle .. :: _ =>
    some (.void, ⟨tokens, []⟩)
  | _ => content handles tokens

/-- The value of a text's only document. Directives have to be followed by a mark. -/
def document? (tokens : List Token) : Option Node := do
  let (node, s) ←
    match tokens with
    | [] => some (.void, ⟨[], []⟩)
    | .documentStart :: _ | .version .. :: _ | .handle .. :: _ => do
      let (handles, rest) ← directives? false [] tokens
      match rest with
      | .documentStart :: rest => markedContent handles rest
      | _ => none
    | _ => content Handles.standard tokens
  if s.tokens.all (· == .documentEnd) then return node else none

/-! ## Names -/

/-- Values nest no deeper than this. -/
def maxDepth : Nat := 128

/-- The values of names that are reached through up to `n` further names. -/
def valuesOfNames (targets : List (Nat × Node)) : Nat → List (Nat × Yaml)
  | 0 => []
  | n + 1 =>
    let inner := valuesOfNames targets n
    targets.map fun (id, node) => (id, node.tree fun id => (inner.lookup id).getD unreadable)

/-- The value of a document. A name stands for the last value that it is given to; a value that
contains itself does so only down to `maxDepth`. -/
def resolve (node : Node) : Yaml :=
  let values := valuesOfNames node.targets.reverse maxDepth
  node.tree fun id => (values.lookup id).getD unreadable

/-! ## Texts -/

/-- Characters that may stand in a text. -/
def isPrintable (c : Char) : Bool :=
  let n := c.toNat
  n == 0x9 || n == 0xA || (0x20 ≤ n && n ≤ 0x7E) || n == 0x85 || (0xA0 ≤ n && n ≤ 0xFFFD)
    || 0x10000 ≤ n

/-- Returns and next lines are line feeds. -/
def normalBreaks : List Char → List Char
  | [] => []
  | '\x0d' :: '\n' :: rest => '\n' :: normalBreaks rest
  | c :: rest => (if c = '\x0d' ∨ c = '\u0085' then '\n' else c) :: normalBreaks rest

/-- A mark of the byte order may open a text. -/
def dropOrderMark : List Char → List Char
  | '\ufeff' :: rest => rest
  | cs => cs

/-- The value of a text that holds a single document. -/
def parse (s : String) : Option Yaml := do
  let cs := normalBreaks (dropOrderMark s.toList)
  if !cs.all isPrintable then none
  else return resolve (← document? (← tokens? cs))

end QueryGen.Yaml
