import QueryGen.Template.Buffer
import QueryGen.Template.Directive
import QueryGen.Template.Scope

/-!
# From pieces to sections

The second reading of a template: literal text is collected, directives are read, and references
are looked up among the variables of open loops and the parameters of the method.

- `LoopVars`: the variables of an open loop.
- `Reading`: what has been read so far.
- `resolve`: the meaning of a dotted path.
- `tokenize`: the sections of a template.
-/

namespace QueryGen.Template

/-- The variables of an open loop. -/
structure LoopVars where
  index : String
  indexType : GoType
  value : String
  valueType : GoType
deriving DecidableEq, Repr, Inhabited

/-- The type of a name that the loop binds. The value comes before the index. -/
def LoopVars.type? (v : LoopVars) (name : String) : Option GoType :=
  if v.value = name then some v.valueType
  else if v.index = name then some v.indexType
  else none

/-- What has been read of a template. -/
structure Reading where
  buffer : SqlBuffer := .empty
  /-- The sections, the last one first. -/
  reversed : List Section := []
  /-- The open blocks, the innermost first; a loop with its variables. -/
  blocks : List (Option LoopVars) := []
  /-- The value variables of all loops so far. -/
  loopValues : List String := []
deriving DecidableEq, Repr, Inhabited

namespace Reading

def add (r : Reading) (s : Section) : Reading := { r with reversed := s :: r.reversed }

/-- Turns the collected text into a section, if there is any. Blank text counts only where
`keepBlank` says so. -/
def flush (keepBlank : Bool) (r : Reading) : Reading :=
  if r.buffer.isEmpty || (!keepBlank && r.buffer.isBlank) then { r with buffer := .empty }
  else { r with buffer := .empty }.add (.literal (.ofList r.buffer.text))

def open_ (r : Reading) (vars : Option LoopVars) : Reading := { r with blocks := vars :: r.blocks }

def close (r : Reading) : Reading := { r with blocks := r.blocks.tail }

/-- The type of a loop variable, by the innermost loop that has it. -/
def loopType? (r : Reading) (name : String) : Option GoType :=
  r.blocks.findSome? fun b => b.bind (·.type? name)

/-- The sections of a finished reading. -/
def sections (r : Reading) : List Section := (r.flush false).reversed.reverse

end Reading

/-! ## Names -/

/-- The type of a field. The fields of a struct that is not known have unknown types. -/
def fieldType (scope : Scope) (source : String) (owner : GoType) (field : String) :
    Except TemplateError GoType :=
  match scope.structs.lookup owner with
  | some shape =>
    match shape.field? field with
    | some f => .ok f.type
    | none => .error (.unknownField shape.name field source)
  | none =>
    let base := owner.deref
    if base.isScalar || base.isArray || base.isMap || base.isInterface then
      .error (.unknownField owner.text field source)
    else .ok .unknown

/-- The type at the end of a path of fields. -/
def fieldsType (scope : Scope) (source : String) (path : String) :
    GoType → List String → Except TemplateError GoType
  | type, [] => .ok type
  | type, field :: fields =>
    if field = "" then .error (.unknownVariable path source)
    else do
      let next ← fieldType scope source type field
      fieldsType scope source path next fields

/-- The variable that a name stands for: one of an open loop, or else a parameter. -/
def rootType? (scope : Scope) (r : Reading) (root : String) : Option (ParamSource × GoType) :=
  match r.loopType? root with
  | some type => some (.loop, type)
  | none => (scope.param? root).map fun p => (.method, p.type)

/-- The meaning of a dotted path. -/
def resolve (scope : Scope) (source : String) (r : Reading) (path : List Char) :
    Except TemplateError ParamRef :=
  let name := String.ofList path
  let unknown := .error (.unknownVariable name source)
  match (Text.splitOn '.' path).map String.ofList with
  | [] => unknown
  | root :: fields =>
    if root = "" ∨ root = "_" then unknown
    else match rootType? scope r root with
      | none => unknown
      | some (origin, type) => do
        let type ← fieldsType scope source name type fields
        return ⟨name, origin, type⟩

/-! ## Loops -/

/-- The dotted path that a range expression begins with. -/
def rangePath (range : String) : List Char :=
  range.toList.takeWhile fun c => Go.isIdentChar c || c == '.'

/-- Opens a loop. The range is looked up in the scope around it. -/
def openLoop (scope : Scope) (receiver : Option String) (source body : String) (r : Reading)
    (index value range : String) : Except TemplateError Reading :=
  if receiver = some index ∨ receiver = some value then
    .error (.reservedIdentifier (receiver.getD "") body)
  else if value ≠ "_" ∧ value ∈ r.loopValues then .error (.duplicateLoopValue value)
  else
    let path := rangePath range
    if path = [] then .error (.unknownVariable range body)
    else do
      let found ← resolve scope source r (Text.dropEndWhile (· == '.') path)
      let type := if path = range.toList then found.type else .unknown
      let (indexType, valueType) := type.rangeTypes?.getD (.unknown, .unknown)
      let opened := r.open_ (some ⟨index, indexType, value, valueType⟩)
      let seen := if value = "_" then r.loopValues else value :: r.loopValues
      return { opened with loopValues := seen }.add (.loop ⟨index, value, range, type⟩)

/-! ## Pieces -/

/-- Reads a directive. -/
def readBody (scope : Scope) (receiver : Option String) (source : String) (r : Reading)
    (body : List Char) : Except TemplateError Reading := do
  match ← classify body with
  | .branch cond => return (r.open_ none).add (.branch cond)
  | .otherwise cond => return r.add (.otherwise cond)
  | .join kind => return (r.open_ none).add (.join kind)
  | .close => return r.close.add .close
  | .loop index value range =>
    openLoop scope receiver source (.ofList (Text.trim body)) r index value range

/-- Reads a reference. `@@table` is literal text, and any other quoted name is a string. -/
def readRef (scope : Scope) (source : String) (r : Reading) (doubled : Bool) (name : List Char) :
    Except TemplateError Reading :=
  if doubled ∧ name = Reserved.table.toList then
    .ok { r with buffer := r.buffer.writeRaw scope.table.toList }
  else do
    let r := r.flush true
    let ref ← resolve scope source r name
    if doubled then
      if ref.type.isString then return r.add (.quoted ref)
      else throw (.quotedNotString (.ofList name) ref.type.text)
    else return r.add (.data ref)

/-- Reads one piece. -/
def readPiece (scope : Scope) (receiver : Option String) (source : String) (r : Reading) :
    Piece → Except TemplateError Reading
  | .plain c => .ok { r with buffer := r.buffer.writeSql c }
  | .quoted cs => .ok { r with buffer := r.buffer.writeRaw cs }
  | .escapedAt => .ok { r with buffer := r.buffer.writeRaw ['@'] }
  | .ref doubled name => readRef scope source r doubled name
  | .directive body => readBody scope receiver source (r.flush false) body
  | .broken rest => .error (.incomplete (.ofList rest))

/-- The sections of a template. With a receiver, no loop variable may have its name. -/
def tokenize (template : String) (scope : Scope) (receiver : Option String := none) :
    Except TemplateError (List Section) := do
  let source := trimmed template
  let r ← (pieces template.toList).foldlM (readPiece scope receiver source) {}
  return r.sections

end QueryGen.Template
