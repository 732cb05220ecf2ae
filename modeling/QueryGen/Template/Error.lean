import QueryGen.Template.Section

/-!
# Template errors

- `BlockKind`: the blocks of a template by the names that error messages give them.
- `TemplateError`: why a template is refused.
- `TemplateError.message`: the wording.
- `TemplateError.stage`: which of the three readings of a template found the error.
-/

namespace QueryGen

/-- The block that a section stands in. -/
inductive BlockKind where
  | root | branch | otherwise
  | join (kind : JoinKind)
  | loop
deriving DecidableEq, Repr, Inhabited

/-- The name of a block. A branch goes by the name of the `if` that it belongs to. -/
def BlockKind.name : BlockKind → String
  | root => "sql"
  | branch => "if"
  | otherwise => "if"
  | join kind => kind.keyword
  | loop => "for"

/-- Why a template is refused. `sql` is the text that the message shows. -/
inductive TemplateError where
  | empty
  /-- A quote, a directive or a reference that does not end. -/
  | incomplete (sql : String)
  | unknownSyntax (sql : String)
  /-- A `for` that is not of the form `for i, v := range expr`. -/
  | forRangeSyntax (sql : String)
  /-- A block that is not closed. -/
  | notEnd (block : BlockKind) (sql : String)
  | invalidChild (parent : BlockKind) (child : SectionKind) (sql : String)
  /-- An `else` or an `end` outside every block that could take it. -/
  | unmatched (child : SectionKind) (sql : String)
  | unknownVariable (name sql : String)
  | unknownField (owner field sql : String)
  /-- `@@name` where the name is not a string. -/
  | quotedNotString (name type : String)
  | duplicateLoopValue (name : String)
  /-- A name that generated code declares. -/
  | reservedIdentifier (ident sql : String)
  | emptyCondition (sql : String)
  /-- The text behind the first four bytes of an `else if` directive begins inside a character. -/
  | splitCharacter (sql : String)
deriving DecidableEq, Repr, Inhabited

/-- The reading of a template that found an error. -/
inductive ErrorStage where
  | lexical | grammatical | semantic
deriving DecidableEq, Repr, Inhabited

def ErrorStage.name : ErrorStage → String
  | lexical => "lexical"
  | grammatical => "syntax"
  | semantic => "semantic"

namespace TemplateError

def message : TemplateError → String
  | empty => "empty SQL template"
  | incomplete sql => "incomplete SQL: " ++ sql
  | unknownSyntax sql => "unknown syntax: " ++ sql
  | forRangeSyntax sql => "for range syntax error: " ++ sql
  | notEnd block sql => "incomplete SQL, " ++ block.name ++ " not end: " ++ sql
  | invalidChild parent child sql =>
    child.keyword ++ " is not allowed inside " ++ parent.name ++ ": " ++ sql
  | unmatched child sql => "unmatched " ++ child.keyword ++ ": " ++ sql
  | unknownVariable name sql => "unknown variable " ++ name ++ " in: " ++ sql
  | unknownField owner field sql => "unknown field " ++ field ++ " of " ++ owner ++ " in: " ++ sql
  | quotedNotString name type =>
    "variable name must be string: @@" ++ name ++ " has type " ++ type
  | duplicateLoopValue name => "cannot use the same value name in different for loops: " ++ name
  | reservedIdentifier ident sql => ident ++ " is a reserved identifier: " ++ sql
  | emptyCondition sql => "empty condition: " ++ sql
  | splitCharacter sql => "directive cut inside a character: " ++ sql

def stage : TemplateError → ErrorStage
  | empty => .lexical
  | incomplete _ => .lexical
  | unknownSyntax _ => .grammatical
  | forRangeSyntax _ => .grammatical
  | notEnd _ _ => .grammatical
  | invalidChild _ _ _ => .grammatical
  | unmatched _ _ => .grammatical
  | emptyCondition _ => .grammatical
  | splitCharacter _ => .grammatical
  | unknownVariable _ _ => .semantic
  | unknownField _ _ _ => .semantic
  | quotedNotString _ _ => .semantic
  | duplicateLoopValue _ => .semantic
  | reservedIdentifier _ _ => .semantic

end TemplateError

end QueryGen
