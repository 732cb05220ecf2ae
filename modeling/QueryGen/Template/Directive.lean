import QueryGen.Go.Identifier
import QueryGen.Go.Reserved
import QueryGen.Template.Error
import QueryGen.Template.Piece

/-!
# Directives

- `Directive`: what the text between `{{` and `}}` says.
- `codeWords`: the words of a piece of Go code that stand outside string literals.
- `classify`: the directive of a text, or why there is none.
-/

namespace QueryGen.Template

/-- A directive of a template. -/
inductive Directive where
  | branch (cond : String)
  | otherwise (cond : Option String)
  | loop (index value range : String)
  | join (kind : JoinKind)
  | close
deriving DecidableEq, Repr

/-! ## Words of Go code -/

/-- Where a reader of Go code stands. -/
inductive CodeState where
  | code
  | literal (quote : Char)
  /-- Behind a backslash in a literal. -/
  | escaped (quote : Char)
deriving DecidableEq, Repr

/-- Go code with a space for every character of a string literal. A backslash has no meaning in a
raw literal. -/
def blankLiterals : CodeState → List Char → List Char
  | _, [] => []
  | .code, c :: rest =>
    if isQuote c then ' ' :: blankLiterals (.literal c) rest else c :: blankLiterals .code rest
  | .escaped q, _ :: rest => ' ' :: blankLiterals (.literal q) rest
  | .literal q, c :: rest =>
    if c = '\\' ∧ q ≠ '\x60' then ' ' :: blankLiterals (.escaped q) rest
    else if c = q then ' ' :: blankLiterals .code rest
    else ' ' :: blankLiterals (.literal q) rest

theorem length_blankLiterals (state : CodeState) (cs : List Char) :
    (blankLiterals state cs).length = cs.length := by
  fun_induction blankLiterals state cs <;> simp_all

/-- The words outside string literals. -/
def codeWords (cs : List Char) : List (List Char) :=
  (Text.splitWith (!Go.isIdentChar ·) (blankLiterals .code cs)).filter (· ≠ [])

/-- Refuses code that uses a name which generated code declares. -/
def checkReserved (cs : List Char) : Except TemplateError Unit :=
  match (codeWords cs).find? fun w => Reserved.isReserved (.ofList w) with
  | some w => .error (.reservedIdentifier (.ofList w) (.ofList cs))
  | none => .ok ()

/-! ## Reading a directive -/

/-- A character that separates the words of a directive. -/
def isSeparator (c : Char) : Bool := c == ':' || c == '=' || c == ',' || Text.isBlank c

/-- The words of a directive. -/
def directiveWords (cs : List Char) : List (List Char) :=
  (Text.splitWith isSeparator cs).filter (· ≠ [])

/-- The condition behind the keyword `if`. -/
def condition (cs : List Char) : Except TemplateError String :=
  match ['i', 'f'].isPrefixOf? cs with
  | none => .error (.unknownSyntax (.ofList cs))
  | some rest =>
    let cond := Text.trim rest
    if cond = [] then .error (.emptyCondition (.ofList cs)) else .ok (.ofList cond)

/-- A loop variable: an identifier, or `_`. -/
def isLoopVariable (name : List Char) : Bool := Go.isIdentifierText name

/-- The condition of `else if`. What stands before the first word counts as part of `else`. -/
def elseCondition (cs : List Char) : Except TemplateError String :=
  match Text.splitBytes? 4 cs with
  | some (_, rest) => condition (Text.trimStart rest)
  | none => .error (.splitCharacter (.ofList cs))

/-- The directive that a trimmed text spells, reserved names aside. -/
def readDirective (cs : List Char) : Except TemplateError Directive :=
  let unknown := .error (.unknownSyntax (.ofList cs))
  match (directiveWords cs).map String.ofList with
  | [] => unknown
  | "if" :: _ => do return .branch (← condition cs)
  | ["else"] => .ok (.otherwise none)
  | "else" :: "if" :: _ => do return .otherwise (some (← elseCondition cs))
  | "for" :: words =>
    match words with
    | [index, value, "range", range] =>
      if isLoopVariable index.toList && isLoopVariable value.toList then
        .ok (.loop index value range)
      else .error (.forRangeSyntax (.ofList cs))
    | _ => .error (.forRangeSyntax (.ofList cs))
  | ["where"] => .ok (.join .filter)
  | ["set"] => .ok (.join .assign)
  | ["end"] => .ok .close
  | _ => unknown

/-- Whether a directive carries Go code. -/
def Directive.hasCode : Directive → Bool
  | .branch _ => true
  | .otherwise (some _) => true
  | .loop _ _ _ => true
  | _ => false

/-- The directive between `{{` and `}}`. -/
def classify (body : List Char) : Except TemplateError Directive := do
  let cs := Text.trim body
  let directive ← readDirective cs
  if directive.hasCode then checkReserved cs
  return directive

end QueryGen.Template
