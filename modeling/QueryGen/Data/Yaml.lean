import QueryGen.Data.Tree

/-!
# YAML values

- `YamlScalar`: a scalar is a text. How it is written, and the tag in front of it, say whether it
  may stand for something else.
- `Yaml`: trees over such scalars. Records whose keys are no texts can only be passed over.
-/

namespace QueryGen

/-- How the text of a scalar is written. -/
inductive ScalarStyle where
  /-- Without quotes. -/
  | plain
  /-- In quotes, or in lines that are joined. -/
  | quoted
  /-- In lines that stay as they are. -/
  | lines
deriving DecidableEq, Repr, Inhabited

/-- The scalars of YAML. -/
structure YamlScalar where
  style : ScalarStyle
  text : String
  tag : Option String := none
deriving DecidableEq, Repr, Inhabited

namespace YamlScalar

def plain (text : String) : YamlScalar := { style := .plain, text }

def quoted (text : String) : YamlScalar := { style := .quoted, text }

/-- Nothing is written at all. -/
def void : YamlScalar := plain ""

/-- The words for a value that is left out. -/
def nullWords : List String := ["~", "null", "Null", "NULL"]

def trueWords : List String := ["true", "True", "TRUE"]

def falseWords : List String := ["false", "False", "FALSE"]

/-- The tag of values that are left out. -/
def nullTag : String := "tag:yaml.org,2002:null"

/-- The tag of flags. -/
def flagTag : String := "tag:yaml.org,2002:bool"

/-- A scalar without quotes may be a flag, and one in lines with the tag of flags. -/
def mayBeFlag (s : YamlScalar) : Bool :=
  s.style == .plain || (s.style == .lines && s.tag == some flagTag)

def flag? (s : YamlScalar) : Option Bool :=
  if !s.mayBeFlag then none
  else if s.text ∈ trueWords then some true
  else if s.text ∈ falseWords then some false
  else none

/-- Nothing or a word for nothing, without quotes. -/
def isBlankOrNull (s : YamlScalar) : Bool :=
  s.style == .plain && (s.text == "" || nullWords.contains s.text)

/-- Whether a scalar stands for a value that is left out. The tag of such values asks for a word,
and any other tag makes the scalar a value. -/
def isNull? (s : YamlScalar) : Option Bool :=
  if s.style ≠ .plain then some false
  else
    match s.tag with
    | none => some s.isBlankOrNull
    | some tag =>
      if tag ≠ nullTag then some false
      else if nullWords.contains s.text then some true
      else none

/-- The name that a tag gives, which opens with an exclamation mark. -/
def nameOfTag? (tag : String) : Option String :=
  match tag.toList with
  | ['!'] => some "!"
  | '!' :: name => some (.ofList name)
  | _ => none

/-- The name of one of several values: a tag with no value behind it, or the text. -/
def word? (s : YamlScalar) : Option String :=
  match s.tag.bind nameOfTag? with
  | some name => if s.isBlankOrNull then some name else none
  | none => some s.text

end YamlScalar

instance : Scalar YamlScalar where
  text? s := some s.text
  word? := YamlScalar.word?
  flag? := YamlScalar.flag?
  isNull? := YamlScalar.isNull?
  isVoid s := s.style == .plain && s.text == ""
  positional := false

abbrev Yaml := Tree (Option YamlScalar)

namespace Yaml

def scalar (s : YamlScalar) : Yaml := Tree.scalar (some s)

def void : Yaml := scalar .void

/-- A part that can only be passed over. -/
def unreadable : Yaml := Tree.scalar none

@[simp] theorem text?_scalar (s : YamlScalar) : (scalar s).text? = some s.text := rfl

@[simp] theorem text?_unreadable : unreadable.text? = none := rfl

@[simp] theorem isNull_void : void.isNull = true := by decide

@[simp] theorem items?_void : void.items? = some [] := rfl

theorem not_isNull_quoted (s : String) : (scalar (.quoted s)).isNull = false := rfl

end Yaml

end QueryGen
