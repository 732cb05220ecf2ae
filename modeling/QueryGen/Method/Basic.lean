import QueryGen.Compile
import QueryGen.Go.Declaration
import QueryGen.Method.Error

/-!
# Query methods

A method of an interface whose comment holds a template becomes a query method: its parameters are
checked, the placeholders in its types are replaced, and its results get names and roles.

- `MethodContext`: the model, and what else a method is read against.
- `ResultRole`, `ResultSlot`: what a result is for, and its name in the generated code.
- `QueryMethod.build`: the query method of an interface method.
- `QueryMethod.compile`: its compiled template.
- `freshName`: a name that no parameter has.
-/

namespace QueryGen

open Template (Options Scope)

/-- What a method is read against. -/
structure MethodContext where
  /-- The qualifier of the package of placeholders. -/
  placeholders : String := "gen"
  /-- The type that the placeholder `T` stands for. -/
  model : GoType
  /-- The receiver of the generated method. -/
  receiver : String := "u"
  structs : StructRegistry

/-- How rows are read into a result. -/
inductive ScanKind where
  | find | take | scan
deriving DecidableEq, Repr, Inhabited

/-- The method that reads rows. -/
def ScanKind.method : ScanKind → String
  | find => "Find"
  | take => "Take"
  | scan => "Scan"

/-- How the statement is run. -/
inductive ExecKind where
  /-- As a query. -/
  | raw
  /-- For its effect. -/
  | exec
  /-- As the condition of a query. -/
  | filter
deriving DecidableEq, Repr, Inhabited

def ExecKind.name : ExecKind → String
  | raw => "raw"
  | exec => "exec"
  | filter => "where"

/-- What a result is for. -/
inductive ResultRole where
  | data (kind : ScanKind)
  | rowsAffected
  | error
deriving DecidableEq, Repr, Inhabited

namespace ResultRole

def scan? : ResultRole → Option ScanKind
  | data kind => some kind
  | _ => none

def isData (r : ResultRole) : Bool := r.scan?.isSome

/-- The name of a result that no parameter takes. -/
def baseName : ResultRole → String
  | data _ => "result"
  | rowsAffected => "rowsAffected"
  | error => "err"

end ResultRole

/-- A named result of a generated method. -/
structure ResultSlot where
  name : String
  type : GoType
  role : ResultRole
deriving DecidableEq, Repr, Inhabited

/-- A checked method. -/
structure QueryMethod where
  interface : String
  name : String
  doc : SqlDoc
  exec : ExecKind
  params : List Param
  /-- In the order of the declaration. -/
  results : List ResultSlot
deriving DecidableEq, Repr, Inhabited

/-! ## Types -/

namespace MethodContext

/-- What a placeholder stands for. -/
def placeholder? (ctx : MethodContext) (type : GoType) : Option GoType :=
  if type.isQualified ctx.placeholders "T" then some ctx.model
  else if type.isQualified ctx.placeholders "M" then some GoType.stringMap
  else none

/-- A type without placeholders. No other type of their package may be left. -/
def resolve (ctx : MethodContext) (type : GoType) : Except MethodError GoType :=
  let resolved := type.substitute ctx.placeholder?
  if resolved.packages.contains ctx.placeholders then
    .error (.placeholderType ctx.placeholders resolved.text)
  else .ok resolved

def isRowsAffected (ctx : MethodContext) (type : GoType) : Bool :=
  type.isQualified ctx.placeholders "RowsAffected"

/-- The model or another known struct, or a pointer to one. -/
def isStruct (ctx : MethodContext) (type : GoType) : Bool :=
  type.deref == ctx.model || (ctx.structs.lookup type).isSome

/-- How rows are read into a value of a type. -/
def scanKind (ctx : MethodContext) (type : GoType) : ScanKind :=
  if type.isArray && !type.isByteSlice then .find
  else if ctx.isStruct type then .take
  else .scan

/-! ## Parameters -/

/-- Whether no parameter may have a name. -/
def isReserved (ctx : MethodContext) (name : String) : Bool :=
  name == Reserved.table || name == ctx.receiver || Reserved.isReserved name

/-- Checks parameters from the `index`-th on. `seen` holds the names before. -/
def checkParams (ctx : MethodContext) (index : Nat) (seen : List String) :
    List Param → Except MethodError (List Param)
  | [] => .ok []
  | p :: rest =>
    if p.name = "" ∨ p.name = "_" then .error (.unnamedParam index)
    else if ctx.isReserved p.name then .error (.reservedParam p.name)
    else if p.name ∈ seen then .error (.duplicateParam p.name)
    else do
      let type ← ctx.resolve p.type
      let checked ← ctx.checkParams (index + 1) (p.name :: seen) rest
      return { p with type } :: checked

end MethodContext

/-! ## Results -/

/-- A name with underscores behind it. -/
def underscored (base : String) (n : Nat) : String := base ++ .ofList (List.replicate n '_')

/-- The name with the fewest underscores that is not taken. -/
def freshName (base : String) (taken : List String) : String :=
  (((List.range (taken.length + 1)).map (underscored base)).find? (· ∉ taken)).getD base

namespace MethodContext

/-- The type and the role of a result that is no error. -/
def dataResult (ctx : MethodContext) (type : GoType) :
    Except MethodError (GoType × ResultRole) := do
  if ctx.isRowsAffected type then return (type, .rowsAffected)
  let resolved ← ctx.resolve type
  if resolved.deref.isInterface then throw (.interfaceResult resolved.text)
  return (resolved, .data (ctx.scanKind resolved))

/-- Gives results their roles. `data` is the type of the result that is read before, and `hasError`
says whether there was an error. -/
def classify (ctx : MethodContext) (data : Option String) (hasError : Bool) :
    List Param → Except MethodError (List (GoType × ResultRole))
  | [] => .ok []
  | r :: rest =>
    if r.type.isError then
      if hasError then .error .multipleErrorResults
      else do
        return (r.type, .error) :: (← ctx.classify data true rest)
    else do
      let (type, role) ← ctx.dataResult r.type
      match data with
      | some first => throw (.multipleDataResults first type.text)
      | none => return (type, role) :: (← ctx.classify (some type.text) hasError rest)

/-- The results with names that no parameter has. -/
def results (ctx : MethodContext) (params : List Param) (declared : List Param) :
    Except MethodError (List ResultSlot) := do
  let classified ← ctx.classify none false declared
  return classified.map fun (type, role) =>
    ⟨freshName role.baseName (params.map (·.name)), type, role⟩

end MethodContext

/-! ## Methods -/

namespace QueryMethod

/-- How a statement is run. A condition needs a result to read rows into. -/
def execKind (kind : DocKind) (hasData : Bool) : Except MethodError ExecKind :=
  match kind, hasData with
  | .filter, false => .error .filterWithoutResult
  | .filter, true => .ok .filter
  | _, true => .ok .raw
  | _, false => .ok .exec

/-- The query method of a method of an interface. -/
def build (interface : String) (m : Method) (ctx : MethodContext) :
    Except MethodError QueryMethod := do
  let doc ← (SqlDoc.parse m.name m.doc).mapError .doc
  let params ← ctx.checkParams 0 [] m.params
  let results ← ctx.results params m.results
  let kind ← execKind doc.kind (results.any (·.role.isData))
  return { interface, name := m.name, doc, exec := kind, params, results }

/-- The result that rows are read into. -/
def data? (m : QueryMethod) : Option ResultSlot := m.results.find? (·.role.isData)

def rowsAffected? (m : QueryMethod) : Option ResultSlot :=
  m.results.find? (·.role == .rowsAffected)

def error? (m : QueryMethod) : Option ResultSlot := m.results.find? (·.role == .error)

/-- How rows are read. -/
def scan? (m : QueryMethod) : Option ScanKind := m.data?.bind (·.role.scan?)

/-- The types of the parameters and the results. -/
def types (m : QueryMethod) : List GoType :=
  m.params.map (·.type) ++ m.results.map (·.type)

/-- The packages that the signature names, each once. -/
def packages (m : QueryMethod) : List String := distinct (m.types.flatMap GoType.qualifiers)

/-- The name, the parameters and the results as Go spells them. -/
def signature (m : QueryMethod) : String :=
  let params := ", ".intercalate (m.params.map fun p => p.name ++ " " ++ p.signatureType)
  let results := ", ".intercalate (m.results.map fun r => r.name ++ " " ++ r.type.text)
  m.name ++ "(" ++ params ++ ")" ++ if m.results.isEmpty then "" else " (" ++ results ++ ")"

/-- The compiled template of a method of a table. -/
def compile (m : QueryMethod) (table : String) (structs : StructRegistry) (opts : Options) :
    Except MethodError Compiled :=
  (QueryGen.compile m.doc.text { params := m.params, table, structs } opts).mapError .template

end QueryMethod

end QueryGen
