import QueryGen.Method.Doc
import QueryGen.Template.Error

/-!
# Method errors

- `MethodError`: why no code is generated for a method.
- `MethodError.message`: the wording.
-/

namespace QueryGen

/-- Why no code is generated for a method. -/
inductive MethodError where
  | doc (error : DocError)
  | unnamedParam (index : Nat)
  | duplicateParam (name : String)
  | reservedParam (name : String)
  | multipleDataResults (first second : String)
  | multipleErrorResults
  | interfaceResult (type : String)
  /-- A type of the placeholder package that stands for nothing. -/
  | placeholderType (package type : String)
  /-- A condition without a result to read rows into. -/
  | filterWithoutResult
  | template (error : TemplateError)
deriving DecidableEq, Repr, Inhabited

def DocError.message : DocError → String
  | missingSql => "no SQL found in doc comment"
  | unclosedWrapper keyword doc => "unclosed " ++ keyword ++ "(...) in doc comment: " ++ doc

def MethodError.message : MethodError → String
  | doc e => e.message
  | unnamedParam index => "parameter #" ++ index.repr ++ " must be named"
  | duplicateParam name => "duplicate parameter name: " ++ name
  | reservedParam name => "parameter name " ++ name ++ " is reserved"
  | multipleDataResults first second =>
    "more than one data result: " ++ first ++ " and " ++ second
  | multipleErrorResults => "more than one error result"
  | interfaceResult type => "interface result type is not supported: " ++ type
  | placeholderType package type =>
    "type " ++ type ++ " from package " ++ package ++ " cannot be used here"
  | filterWithoutResult => "where(...) needs a data result to scan into"
  | template e => e.message

end QueryGen
