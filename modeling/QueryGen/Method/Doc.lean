import QueryGen.Text.Basic
import QueryGen.Text.Case

/-!
# The template in a doc comment

The doc comment of a method holds its template, perhaps behind a paragraph that describes the
method, and perhaps wrapped in `sql(…)` or `where(…)`.

- `SqlDoc`: the template and how it was wrapped.
- `docBody`: the text without the description.
- `unwrapCall`: the text inside a wrapper.
- `SqlDoc.parse`: the template of a comment.
-/

namespace QueryGen

/-- How the template is wrapped. -/
inductive DocKind where
  | template
  | sql
  /-- The text is a condition, and not a whole statement. -/
  | filter
deriving DecidableEq, Repr, Inhabited

def DocKind.name : DocKind → String
  | template => "template"
  | sql => "sql"
  | filter => "where"

/-- A template from a doc comment. -/
structure SqlDoc where
  kind : DocKind
  text : String
deriving DecidableEq, Repr, Inhabited

/-- Why a comment has no template. -/
inductive DocError where
  | missingSql
  | unclosedWrapper (keyword doc : String)
deriving DecidableEq, Repr, Inhabited

/-- The runs of lines between blank lines. -/
def paragraphs (lines : List (List Char)) : List (List (List Char)) :=
  (Text.splitWith Text.isBlankText lines).filter (· ≠ [])

/-- Whether a paragraph begins with the name of the method. -/
def describes (method : List Char) (paragraph : List (List Char)) : Bool :=
  paragraph.head?.any fun line => method.isPrefixOf (Text.trimStart line)

/-- Leaves out the first of several paragraphs if it describes the method. -/
def dropDescription (method : List Char) :
    List (List (List Char)) → List (List (List Char))
  | first :: second :: rest =>
    if describes method first then second :: rest else first :: second :: rest
  | paragraphs => paragraphs

/-- The text of a comment without the description of the method. -/
def docBody (method doc : List Char) : List Char :=
  let kept := dropDescription method (paragraphs (Text.lines doc))
  Text.trim (Text.join ['\n', '\n'] (kept.map (Text.join ['\n'])))

/-- What stands between the bracket behind a keyword and the last closing one, if the text begins
with the keyword and a bracket. Case does not count, and blanks may stand before the bracket. -/
def unwrapCall (keyword : String) (body : List Char) : Except DocError (Option (List Char)) :=
  let n := keyword.toList.length
  if Text.sameAsciiCase (body.take n) keyword.toList then
    match Text.trimStart (body.drop n) with
    | '(' :: rest =>
      match Text.cutLast? (· == ')') rest with
      | some (inner, _) => .ok (some inner)
      | none => .error (.unclosedWrapper keyword (.ofList body))
    | _ => .ok none
  else .ok none

/-- The wrapper of a text and what it wraps. -/
def unwrap (body : List Char) : Except DocError (DocKind × List Char) := do
  match ← unwrapCall "sql" body with
  | some inner => return (.sql, inner)
  | none =>
    match ← unwrapCall "where" body with
    | some inner => return (.filter, inner)
    | none => return (.template, body)

/-- The template of a doc comment. -/
def SqlDoc.parse (method doc : String) : Except DocError SqlDoc := do
  let (kind, inner) ← unwrap (docBody method.toList doc.toList)
  let text := Text.trim inner
  if text = [] then throw .missingSql else return ⟨kind, .ofList text⟩

end QueryGen
