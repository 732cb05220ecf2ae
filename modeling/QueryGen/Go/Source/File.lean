import QueryGen.Go.Source.Statement
import QueryGen.WorkDir

/-!
# Reading Go files

A file is a list of declarations, and statements may stand among them. Imports, interfaces and
structs are kept. Functions, variables, constants and statements are passed over.

- `Declaration`: a declaration, as far as it is kept.
- `declarationAt`: the declarations at the front of a list of tokens.
- `declarations?`: all declarations of a list of tokens.
- `GoFile.parse`, `GoFile.load`: the declarations of a text and of a file.
-/

namespace QueryGen.Go

/-- A declaration, as far as it is kept. -/
inductive Declaration where
  | package (name : String)
  | imports (imports : List Import)
  | function
  | types (specs : List TypeSpec)
  /-- Constants, variables, or a statement. -/
  | other
deriving Repr, Inhabited

/-- Whether a declaration may end with the text. The others need an end of their own. -/
def Declaration.mayEndText : Declaration → Bool
  | .package _ | .imports _ | .function => true
  | .types _ | .other => false

/-! ## Imports -/

/-- The path of an import, without its quotes. -/
def pathAt : List Token → Option (Read String)
  | t :: rest =>
    if t.kind = .string then
      some (.ofList (Text.trimMatches (fun c => c == '"' || c == '\x60') t.text.toList), rest)
    else none
  | [] => none

def importSpecAt (ts : List Token) : Option (Read Import) :=
  match pathAt ts with
  | some (path, rest) => some ({ path }, rest)
  | none => do
    let (name, rest) ← match mark? "." ts with
      | some rest => some (".", rest)
      | none => name? ts
    let (path, rest) ← pathAt rest
    return ({ name := some name, path }, rest)

/-- Imports up to the closing bracket, with ends between them. -/
def importListAt : Nat → List Token → Option (Read (List Import))
  | 0, _ => none
  | n + 1, ts =>
    match mark? ")" ts with
    | some rest => some ([], rest)
    | none => do
      let (first, rest) ← importSpecAt ts
      match mark? ")" rest with
      | some rest => return ([first], rest)
      | none => do
        let (more, rest) ← importListAt n (← endAt rest)
        return (first :: more, rest)

def importsAt (n : Nat) (ts : List Token) : Option (Read (List Import)) :=
  match mark? "(" ts with
  | some rest => importListAt n rest
  | none => (importSpecAt ts).map fun (one, rest) => ([one], rest)

/-! ## Functions -/

/-- Passes over an expression in brackets. -/
def valueAt (n : Nat) : Pass := exprAt (blockAt n) n .brackets

/-- What stands behind the name of a function: its parameters, its results, and perhaps its
body. -/
def signatureAt (n : Nat) : Pass := fun ts =>
  match (paramsAt (valueAt n) n ts).bind fun (_, rest) => resultAt (valueAt n) n true rest with
  | none => []
  | some (_, rest) => if startsIn true "\x7b" rest then blockAt n rest else [rest]

/-- A function, perhaps with type parameters, or a method. -/
def functionAt (n : Nat) : Pass := fun ts =>
  if startsWith "(" ts then
    match (paramsAt (valueAt n) n ts).bind fun (_, rest) => name? rest with
    | some (_, rest) => signatureAt n rest
    | none => []
  else
    match name? ts with
    | some (_, rest) => signatureAt n (skipTypeParams (valueAt n) n rest)
    | none => []

/-! ## Files -/

/-- The declaration or statement at the front of a list of tokens. -/
def declarationAt (n : Nat) : List Token → List (Read Declaration)
  | [] => []
  | t :: rest =>
    match t.kind, t.text with
    | .word, "package" => ((name? rest).map fun (name, rest) => (.package name, rest)).toList
    | .word, "import" =>
      ((importsAt n rest).map fun (imports, rest) => (.imports imports, rest)).toList
    | .word, "type" =>
      (specsAt (typeSpecAt (valueAt n) n) true n rest).map fun (specs, rest) => (.types specs, rest)
    | .word, "func" =>
      (functionAt n rest).map (.function, ·) ++ (statementAt n (t :: rest)).map (.other, ·)
    | _, _ => (statementAt n (t :: rest)).map (.other, ·)

/-- Behind a declaration, the place of the next one. -/
def Declaration.next? (d : Declaration) (rest : List Token) : Option (List Token) :=
  match endAt rest with
  | some rest => some rest
  | none => if atTextEnd rest && d.mayEndText then some rest else none

/-- The declaration or statement at the front, up to the next one. -/
def nextDeclarationAt (bound : Nat) (ts : List Token) : List (Read (List Declaration)) :=
  (declarationAt bound ts).filterMap fun (d, rest) => (d.next? rest).map ([d], ·)

/-- All declarations up to the end of the text. -/
def declarations? (ts : List Token) : Option (List Declaration) :=
  let done (ts : List Token) : Option (List Token) := if atTextEnd ts then some ts else none
  let bound := 8 * ts.length + 8
  (partsFrom done (nextDeclarationAt bound) (ts.length + 1) [([], ts)]).map Prod.fst

/-- Adds a type to a file. -/
def TypeSpec.addTo (file : GoFile) : TypeSpec → GoFile
  | .interface d => { file with interfaces := file.interfaces ++ [d] }
  | .struct d => { file with structs := file.structs ++ [d] }
  | .other => file

/-- Adds a declaration to a file. -/
def Declaration.addTo (file : GoFile) : Declaration → GoFile
  | .package name => { file with package := name }
  | .imports more => { file with imports := file.imports ++ more }
  | .types specs => specs.foldl TypeSpec.addTo file
  | .function | .other => file

/-- A text without the mark of its byte order. -/
def dropByteOrderMark : List Char → List Char
  | c :: rest => if c.toNat = 0xFEFF then rest else c :: rest
  | [] => []

end QueryGen.Go

namespace QueryGen.GoFile

/-- The declarations of a text. -/
def parse? (source : String) : Option GoFile := do
  let ts ← Go.tokens? (Go.dropByteOrderMark source.toList)
  let declarations ← Go.declarations? ts
  return declarations.foldl Go.Declaration.addTo {}

/-- The declarations of a text, or the error that it is no Go. -/
def parse (source : String) : Except SourceError GoFile :=
  match parse? source with
  | some file => .ok file
  | none => .error .malformed

/-- The declarations of a file. -/
def load (read : FileReader) (path : String) : Except SourceError GoFile :=
  match read path with
  | .ok source => parse source
  | .error reason => .error (.unreadable path reason)

end QueryGen.GoFile
