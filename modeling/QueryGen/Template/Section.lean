import QueryGen.Go.Type
import QueryGen.Text.Basic

/-!
# Template sections

A template is SQL text with references and directives. Read from left to right it is a flat list of
sections; nesting is found later.

- `Section`: a piece of literal text, a reference, or a directive.
- `Section.text`: how a section is written.
- `SectionKind`: the nine kinds and their keywords.
-/

namespace QueryGen

/-- A block whose text is joined behind a SQL keyword. -/
inductive JoinKind where
  /-- `{{where}}` -/
  | filter
  /-- `{{set}}` -/
  | assign
deriving DecidableEq, Repr, Inhabited

def JoinKind.keyword : JoinKind → String
  | filter => "where"
  | assign => "set"

/-- Where the first name of a reference was found. -/
inductive ParamSource where
  /-- A parameter of the method. -/
  | method
  /-- A variable of an open loop. -/
  | loop
deriving DecidableEq, Repr, Inhabited

/-- A resolved reference. -/
structure ParamRef where
  /-- The dotted expression as written. -/
  path : String
  source : ParamSource
  /-- The type of the expression; unknown behind a field of a struct that is not known. -/
  type : GoType
deriving DecidableEq, Repr, Inhabited

/-- The first name of the path. -/
def ParamRef.root (p : ParamRef) : String :=
  .ofList (p.path.toList.takeWhile (· ≠ '.'))

/-- The variables and the range of a loop. -/
structure ForRange where
  /-- `_` when discarded. -/
  index : String
  /-- `_` when discarded. -/
  value : String
  range : String
  type : GoType := .unknown
deriving DecidableEq, Repr, Inhabited

namespace ForRange

def discardsIndex (r : ForRange) : Bool := r.index == "_"

def discardsValue (r : ForRange) : Bool := r.value == "_"

/-- Whether the index is the position in a slice, an array or a string. -/
def isPositional (r : ForRange) : Bool := r.type.deref.isArray || r.type.deref.isString

end ForRange

/-- One unit of a template. -/
inductive Section where
  | literal (text : String)
  /-- `@path` -/
  | data (ref : ParamRef)
  /-- `@@path` -/
  | quoted (ref : ParamRef)
  /-- `{{if cond}}` -/
  | branch (cond : String)
  /-- `{{else}}` or `{{else if cond}}` -/
  | otherwise (cond : Option String)
  /-- `{{for index, value := range expr}}` -/
  | loop (range : ForRange)
  /-- `{{where}}` or `{{set}}` -/
  | join (kind : JoinKind)
  /-- `{{end}}` -/
  | close
deriving DecidableEq, Repr, Inhabited

/-- The kinds of sections. -/
inductive SectionKind where
  | literal | data | quoted | branch | otherwise | loop
  | join (kind : JoinKind)
  | close
deriving DecidableEq, Repr, Inhabited

namespace SectionKind

/-- The word by which directives and error messages call the kind. -/
def keyword : SectionKind → String
  | literal => "sql"
  | data => "param"
  | quoted => "quoted param"
  | branch => "if"
  | otherwise => "else"
  | loop => "for"
  | join kind => kind.keyword
  | close => "end"

/-- Whether the kind opens a block that `end` closes. -/
def isOpener : SectionKind → Bool
  | branch => true
  | loop => true
  | join _ => true
  | _ => false

end SectionKind

namespace Section

def kind : Section → SectionKind
  | literal _ => .literal
  | data _ => .data
  | quoted _ => .quoted
  | branch _ => .branch
  | otherwise _ => .otherwise
  | loop _ => .loop
  | join k => .join k
  | close => .close

/-- How a section is written, without the braces of a directive. -/
def text : Section → String
  | literal text => text
  | data ref => "@" ++ ref.path
  | quoted ref => "@@" ++ ref.path
  | branch cond => "if " ++ cond
  | otherwise none => "else"
  | otherwise (some cond) => "else if " ++ cond
  | loop r => "for " ++ r.index ++ ", " ++ r.value ++ " := range " ++ r.range
  | join k => k.keyword
  | close => "end"

/-- Literal text and references, which together make up SQL. -/
def isSql : Section → Bool
  | literal _ => true
  | data _ => true
  | quoted _ => true
  | _ => false

theorem isSql_eq_false_of_isOpener {s : Section} (h : s.kind.isOpener = true) :
    s.isSql = false := by
  cases s <;> simp_all [kind, SectionKind.isOpener, isSql]

end Section

end QueryGen
