import QueryGen.Form.Type
import QueryGen.Template.Section

/-!
# Sections as JSON

- `Section.toJson`, `Section.ofJson?`: a section as its `kind`, with its contents in `value`.
-/

namespace QueryGen

open Json (str)

/-- The names of the kinds of sections. -/
def SectionKind.name : SectionKind → String
  | literal => "Literal"
  | data => "DataParam"
  | quoted => "QuotedParam"
  | branch => "If"
  | otherwise => "Else"
  | loop => "For"
  | join .filter => "Where"
  | join .assign => "Set"
  | close => "End"

/-- The names of all kinds of sections, in the order of their numbers. -/
def Section.forms : List String :=
  ["Literal", "DataParam", "QuotedParam", "If", "Else", "For", "Where", "Set", "End"]

def ParamSource.name : ParamSource → String
  | method => "Method"
  | loop => "Loop"

def ParamSource.ofName? : String → Option ParamSource
  | "Method" => some .method
  | "Loop" => some .loop
  | _ => none

def ParamRef.toJson (p : ParamRef) : Json :=
  .record [("path", str p.path), ("source", str p.source.name), ("ty", p.type.toJson)]

def ParamRef.ofJson? (t : Json) : Option ParamRef := do
  let f ← t.fields? ["path", "source", "ty"]
  return {
    path := ← f.required "path" Tree.text?
    source := ← f.required "source" (Json.choice? ParamSource.ofName?)
    type := ← f.required "ty" GoType.ofJson? }

def ForRange.toJson (r : ForRange) : Json :=
  .record [("index", str r.index), ("value", str r.value), ("range", str r.range),
    ("range_ty", r.type.toJson)]

/-- A loop, which may be nested in a value that names its own form. -/
def ForRange.ofNested? (nested : Bool) (t : Json) : Option ForRange := do
  let f ← t.fields? ["index", "value", "range", "range_ty"]
  return {
    index := ← f.required "index" Tree.text?
    value := ← f.required "value" Tree.text?
    range := ← f.required "range" Tree.text?
    type := ← f.withDefault "range_ty" .unknown (GoType.ofNested? nested) }

def ForRange.ofJson? : Json → Option ForRange := ForRange.ofNested? false

/-- The contents of a section. -/
def Section.content? : Section → Option Json
  | literal s => some (str s)
  | data ref => some ref.toJson
  | quoted ref => some ref.toJson
  | branch cond => some (str cond)
  | otherwise cond => some (Json.ofOption str cond)
  | loop range => some range.toJson
  | join _ => none
  | close => none

/-- A section as JSON. -/
def Section.toJson (s : Section) : Json :=
  .record (("kind", str s.kind.name) :: (s.content?.map (("value", ·))).toList)

/-- A section without contents. -/
def Section.unit (content : Option Json) (s : Section) : Option Section :=
  if Json.isUnit content then some s else none

def Section.ofJson? (t : Json) : Option Section := do
  let (kind, content) ← t.adjacent? false Section.forms "kind" "value"
  match kind with
  | "Literal" => return .literal (← content.bind Tree.text?)
  | "DataParam" => return .data (← content.bind ParamRef.ofJson?)
  | "QuotedParam" => return .quoted (← content.bind ParamRef.ofJson?)
  | "If" => return .branch (← content.bind Tree.text?)
  | "Else" =>
    match content with
    | none => return .otherwise none
    | some cond => return .otherwise (← Tree.orNull Tree.text? cond)
  | "For" => return .loop (← content.bind ForRange.ofJson?)
  | "Where" => unit content (.join .filter)
  | "Set" => unit content (.join .assign)
  | "End" => unit content .close
  | _ => none

end QueryGen
