import QueryGen.Data.Yaml
import QueryGen.Data.Yaml.Place
import QueryGen.Data.Json.Reader

/-!
# Tokens of YAML

- `Token`: the words and marks that a text is made of. Where a block opens or closes a token says
  so, although only blanks are written.
- `name?`: the name of a value.
- `TagMark.read?`: a tag, which is a handle and what follows it.
- `directive?`: a line that tells how to read the document below it.
-/

namespace QueryGen.Yaml

inductive Token where
  /-- The version of the notation. -/
  | version (major minor : Nat)
  /-- What a handle stands for. -/
  | handle (name text : String)
  | documentStart
  | documentEnd
  | blockList
  | blockRecord
  | blockEnd
  | openList
  | closeList
  | openRecord
  | closeRecord
  /-- A dash in front of an item of a block. -/
  | dash
  | comma
  /-- In front of a key. -/
  | key
  /-- In front of the value of a key. -/
  | value
  /-- The name that the next value is given. -/
  | anchor (name : String)
  /-- The value of a name. -/
  | link (name : String)
  | tag (handle suffix : String)
  | scalar (s : YamlScalar)
deriving DecidableEq, Repr, Inhabited

/-! ## Names -/

/-- What may stand right behind a name. -/
def endsName : List Char → Bool
  | [] => true
  | c :: rest => isGap (c :: rest) || "?:,]\x7d%@\x60".toList.contains c

/-- A name behind a sign, and the place behind it. -/
def name? (p : Place) : Option (String × Place) :=
  let q := p.next.skipWhile isNameChar
  let name := p.next.rest.takeWhile isNameChar
  if name ≠ [] ∧ endsName q.rest then some (.ofList name, q) else none

/-! ## Tags -/

/-- The characters of tags. Inside angles commas and square brackets are among them. -/
def isTagChar (inAngles : Bool) (c : Char) : Bool :=
  isNameChar c || ";/?:@&=+$.!~*'()".toList.contains c ||
    (inAngles && (c == ',' || c == '[' || c == ']'))

/-- The octet of a percent sign and two hexadecimal digits. -/
def escapedOctet? : List Char → Option Nat
  | '%' :: a :: b :: _ => do return 16 * (← Json.hexDigit? a) + (← Json.hexDigit? b)
  | _ => none

/-- The number of octets behind the first one of a character. -/
def octetsBehind? (octet : Nat) : Option Nat :=
  if octet < 0x80 then some 0
  else if 0xC0 ≤ octet ∧ octet < 0xE0 then some 1
  else if 0xE0 ≤ octet ∧ octet < 0xF0 then some 2
  else if 0xF0 ≤ octet ∧ octet < 0xF8 then some 3
  else none

/-- The text of a tag up to the first character that is no part of it. Each escaped octet stands as
the character of its code; `more` of them belong to the character before. -/
def tagText? (inAngles : Bool) : Nat → Nat → Place → Option (List Char × Place)
  | 0, _, _ => none
  | n + 1, more, p => do
    match p.rest with
    | [] => if more = 0 then return ([], p) else none
    | c :: _ =>
      if c = '%' then
        let octet ← escapedOctet? p.rest
        let more ← if more = 0 then octetsBehind? octet
          else if 0x80 ≤ octet ∧ octet < 0xC0 then some (more - 1) else none
        let (text, q) ← tagText? inAngles n more (p.skip 3)
        return (.ofNat octet :: text, q)
      else if more ≠ 0 then none
      else if isTagChar inAngles c then
        let (text, q) ← tagText? inAngles n 0 p.next
        return (c :: text, q)
      else return ([], p)

/-- The text of a tag, which may not hold a zero octet but as its end. -/
def tagSuffix? (inAngles : Bool) (p : Place) : Option (List Char × Place) := do
  let (text, q) ← tagText? inAngles (p.rest.length + 1) 0 p
  return (text.takeWhile (· ≠ '\x00'), q)

/-- An exclamation mark with a name behind it, and whether a second mark closes it. -/
def tagHandle? (p : Place) : Option (List Char × Bool × Place) :=
  match p.rest with
  | '!' :: rest =>
    let name := rest.takeWhile isNameChar
    let q := p.skip (name.length + 1)
    if q.rest.head? = some '!' then some ('!' :: name ++ ['!'], true, q.next)
    else some ('!' :: name, false, q)
  | _ => none

/-- A handle and what follows it. Without a second exclamation mark the handle is the first one
alone, and a mark that stands alone is a tag of its own. In angles a tag has no handle. -/
def tagParts? (p : Place) : Option (List Char × List Char × Place) := do
  if p.next.rest.head? = some '<' then
    let (text, q) ← tagSuffix? true (p.skip 2)
    if p.rest.length - 2 = q.rest.length ∨ q.rest.head? ≠ some '>' then none
    else return ([], text, q.next)
  else
    let (handle, closed, q) ← tagHandle? p
    let (text, r) ← tagSuffix? false q
    if closed then
      if q.rest.length = r.rest.length then none else return (handle, text, r)
    else if handle.tail ++ text = [] then return ([], ['!'], r)
    else return (['!'], handle.tail ++ text, r)

/-- A tag and the place behind it, where a gap follows. Between brackets a comma may follow too. -/
def tag? (flow : Bool) (p : Place) : Option (Token × Place) := do
  let (handle, suffix, q) ← tagParts? p
  if isGap q.rest ∨ (flow ∧ q.rest.head? = some ',') then
    return (.tag (.ofList handle) (.ofList suffix), q)
  else none

/-! ## Directives -/

/-- A number of up to nine digits. -/
def versionNumber? (p : Place) : Option (Nat × Place) :=
  let digits := p.rest.takeWhile Char.isDigit
  if digits = [] ∨ 9 < digits.length then none
  else some (Json.ofDigits digits, p.skip digits.length)

/-- What follows the name of a directive. -/
def directiveBody? (name : String) (p : Place) : Option (Token × Place) := do
  let p := p.skipWhile isBlank
  if name = "YAML" then
    let (major, q) ← versionNumber? p
    if q.rest.head? ≠ some '.' then none
    let (minor, r) ← versionNumber? q.next
    return (.version major minor, r)
  else if name = "TAG" then
    let (handle, closed, q) ← tagHandle? p
    if !closed ∧ handle ≠ ['!'] then none
    if !q.rest.head?.any isBlank then none
    let q := q.skipWhile isBlank
    let (text, r) ← tagSuffix? true q
    if q.rest.length = r.rest.length ∨ !isGap r.rest then none
    return (.handle (.ofList handle) (.ofList text), r)
  else none

/-- A directive, which takes up a line. -/
def directive? (p : Place) : Option (Token × Place) := do
  let name := p.next.rest.takeWhile isNameChar
  let q := p.next.skip name.length
  if name = [] ∨ !isGap q.rest then none
  let (token, r) ← directiveBody? (.ofList name) q
  let r := r.skipWhile isBlank
  if isLineEnd r.rest then return (token, r.next)
  else if r.rest.head? = some '#' then return (token, r.toLineEnd.next)
  else none

end QueryGen.Yaml
