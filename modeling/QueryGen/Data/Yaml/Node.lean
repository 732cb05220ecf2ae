import QueryGen.Data.Yaml.Token

/-!
# Values behind tokens

- `Node`: a value as it is written. It may have a name, or be a name of another value.
- `Names`: the names before a place.
- `node?`, `blockItems?`, `blockFields?`, `flowItems?`, `flowFields?`: the value, and the parts of a
  value, at the front of some tokens.
- `Node.tree`: the value that is meant, once it is known what the names stand for.
-/

namespace QueryGen.Yaml

inductive Node where
  | scalar (s : YamlScalar)
  | list (items : List Node)
  | record (fields : List (Node × Node))
  /-- A value with a name. -/
  | named (id : Nat) (node : Node)
  /-- The value of a name. -/
  | link (id : Nat)
deriving Inhabited

/-- Nothing is written. -/
def Node.void : Node := .scalar .void

/-! ## Names and tags -/

/-- The names so far, and a number for each. -/
abbrev Names := List (String × Nat)

/-- A name for a value. It has the number of names as its own, counted before it is added. -/
def Names.add (name : String) (names : Names) : Nat × Names :=
  (names.length, (name, names.length) :: names.filter (·.1 != name))

/-- What the handles of tags stand for. -/
abbrev Handles := List (String × String)

/-- The handles that need no directive. -/
def Handles.standard : Handles := [("!", "!"), ("!!", "tag:yaml.org,2002:")]

/-- What stands in front of a value. -/
structure Properties where
  anchor : Option String := none
  tag : Option String := none

def Properties.isEmpty (props : Properties) : Bool := props.anchor.isNone && props.tag.isNone

/-- The tag that a handle and what follows it make up. -/
def tagText (handles : Handles) (handle suffix : String) : Option String :=
  if handle = "" then some suffix else (handles.lookup handle).map (· ++ suffix)

/-- A name and a tag, in either order. -/
def properties? (handles : Handles) : List Token → Option (Properties × List Token)
  | .anchor name :: .tag handle suffix :: rest => do
    return (⟨name, ← tagText handles handle suffix⟩, rest)
  | .tag handle suffix :: .anchor name :: rest => do
    return (⟨name, ← tagText handles handle suffix⟩, rest)
  | .anchor name :: rest => some (⟨name, none⟩, rest)
  | .tag handle suffix :: rest => do return (⟨none, ← tagText handles handle suffix⟩, rest)
  | rest => some (⟨none, none⟩, rest)

/-! ## Values -/

/-- Where a value stands. -/
inductive Spot where
  /-- Between brackets. -/
  | flow
  /-- In a block, where another one may open. -/
  | block
  /-- Beside a key. The dashes of a list may stand in the column of the key. -/
  | field
deriving DecidableEq, Repr

/-- Some tokens with the names before them. -/
structure Source where
  tokens : List Token
  names : Names

variable (handles : Handles)

mutual

/-- A value. -/
def node? : Nat → Spot → Source → Option (Node × Source)
  | 0, _, _ => none
  | n + 1, spot, s =>
    match s.tokens with
    | .link name :: rest => do return (.link (← s.names.lookup name), { s with tokens := rest })
    | _ => do
      let (props, rest) ← properties? handles s.tokens
      match props.anchor with
      | none => content? n spot props { s with tokens := rest }
      | some name =>
        let (id, names) := s.names.add name
        let (node, s) ← content? n spot props ⟨rest, names⟩
        return (.named id node, s)

/-- A value behind its name and tag, which may stand alone. -/
def content? : Nat → Spot → Properties → Source → Option (Node × Source)
  | 0, _, _, _ => none
  | n + 1, spot, props, s =>
    match spot, s.tokens with
    | .field, .dash :: _ => do
      let (items, s) ← dashItems? n s
      return (.list items, s)
    | _, .scalar t :: rest =>
      some (.scalar { t with tag := props.tag.filter (· != "!") }, { s with tokens := rest })
    | _, .openList :: rest => do
      let (items, s) ← flowItems? n { s with tokens := rest }
      return (.list items, s)
    | _, .openRecord :: rest => do
      let (fields, s) ← flowFields? n { s with tokens := rest }
      return (.record fields, s)
    | spot, .blockList :: rest =>
      if spot = .flow then none
      else do
        let (items, s) ← blockItems? n { s with tokens := rest }
        return (.list items, s)
    | spot, .blockRecord :: rest =>
      if spot = .flow then none
      else do
        let (fields, s) ← blockFields? n { s with tokens := rest }
        return (.record fields, s)
    | _, _ =>
      if props.isEmpty then none else some (.scalar { YamlScalar.void with tag := props.tag }, s)

/-- A value, or nothing if one of `ends` follows at once. -/
def nodeOrVoid? : Nat → Spot → List Token → Source → Option (Node × Source)
  | 0, _, _, _ => none
  | n + 1, spot, ends, s =>
    if s.tokens.head?.any ends.contains then some (.void, s) else node? n spot s

/-- The value of a key. Without a colon there is none. -/
def valueOrVoid? : Nat → Spot → List Token → Source → Option (Node × Source)
  | 0, _, _, _ => none
  | n + 1, spot, ends, s =>
    match s.tokens with
    | .value :: rest => nodeOrVoid? n spot ends { s with tokens := rest }
    | _ => some (.void, s)

/-- The items of a block, up to its end. -/
def blockItems? : Nat → Source → Option (List Node × Source)
  | 0, _ => none
  | n + 1, s =>
    match s.tokens with
    | .dash :: rest => do
      let (item, s) ← nodeOrVoid? n .block [.dash, .blockEnd] { s with tokens := rest }
      let (items, s) ← blockItems? n s
      return (item :: items, s)
    | .blockEnd :: rest => some ([], { s with tokens := rest })
    | _ => none

/-- The items of a list whose dashes stand in the column of a key. -/
def dashItems? : Nat → Source → Option (List Node × Source)
  | 0, _ => none
  | n + 1, s =>
    match s.tokens with
    | .dash :: rest => do
      let (item, s) ← nodeOrVoid? n .block [.dash, .key, .value, .blockEnd]
        { s with tokens := rest }
      let (items, s) ← dashItems? n s
      return (item :: items, s)
    | _ => some ([], s)

/-- The fields of a block, up to its end. -/
def blockFields? : Nat → Source → Option (List (Node × Node) × Source)
  | 0, _ => none
  | n + 1, s =>
    match s.tokens with
    | .key :: rest => do
      let (key, s) ← nodeOrVoid? n .field [.key, .value, .blockEnd] { s with tokens := rest }
      let (value, s) ← valueOrVoid? n .field [.key, .value, .blockEnd] s
      let (fields, s) ← blockFields? n s
      return ((key, value) :: fields, s)
    | .blockEnd :: rest => some ([], { s with tokens := rest })
    | _ => none

/-- The items between brackets, up to the closing one. An item with a key is a record of one
field; the token behind the mark of an empty key is passed over. -/
def flowItems? : Nat → Source → Option (List Node × Source)
  | 0, _ => none
  | n + 1, s =>
    match s.tokens with
    | .closeList :: rest => some ([], { s with tokens := rest })
    | .key :: rest => do
      let ends := [Token.value, .comma, .closeList]
      let (key, s) ←
        if rest.head?.any ends.contains then some (Node.void, { s with tokens := rest.tail })
        else node? n .flow { s with tokens := rest }
      let (value, s) ← valueOrVoid? n .flow [.comma, .closeList] s
      let (items, s) ← moreItems? n s
      return (.record [(key, value)] :: items, s)
    | _ => do
      let (item, s) ← node? n .flow s
      let (items, s) ← moreItems? n s
      return (item :: items, s)

/-- The items behind an item. -/
def moreItems? : Nat → Source → Option (List Node × Source)
  | 0, _ => none
  | n + 1, s =>
    match s.tokens with
    | .closeList :: rest => some ([], { s with tokens := rest })
    | .comma :: rest => flowItems? n { s with tokens := rest }
    | _ => none

/-- The fields between brackets, up to the closing one. A key may stand without its mark, and has
no value then. -/
def flowFields? : Nat → Source → Option (List (Node × Node) × Source)
  | 0, _ => none
  | n + 1, s =>
    match s.tokens with
    | .closeRecord :: rest => some ([], { s with tokens := rest })
    | .key :: rest => do
      let (key, s) ← nodeOrVoid? n .flow [.value, .comma, .closeRecord] { s with tokens := rest }
      let (value, s) ← valueOrVoid? n .flow [.comma, .closeRecord] s
      let (fields, s) ← moreFields? n s
      return ((key, value) :: fields, s)
    | _ => do
      let (key, s) ← node? n .flow s
      let (fields, s) ← moreFields? n s
      return ((key, .void) :: fields, s)

/-- The fields behind a field. -/
def moreFields? : Nat → Source → Option (List (Node × Node) × Source)
  | 0, _ => none
  | n + 1, s =>
    match s.tokens with
    | .closeRecord :: rest => some ([], { s with tokens := rest })
    | .comma :: rest => flowFields? n { s with tokens := rest }
    | _ => none

end

/-! ## What is meant -/

namespace Node

mutual

/-- The values with names, in the order in which they start. -/
def targets : Node → List (Nat × Node)
  | scalar _ => []
  | list items => targetsOfItems items
  | record fields => targetsOfFields fields
  | named id node => (id, node) :: node.targets
  | link _ => []

/-- The values with names among items. -/
def targetsOfItems : List Node → List (Nat × Node)
  | [] => []
  | node :: rest => node.targets ++ targetsOfItems rest

/-- The values with names among fields. -/
def targetsOfFields : List (Node × Node) → List (Nat × Node)
  | [] => []
  | (key, value) :: rest => key.targets ++ value.targets ++ targetsOfFields rest

end

/-- A record, which can only be passed over if a key is no text. -/
def recordOf (fields : List (Yaml × Yaml)) : Yaml :=
  match fields.mapM fun (key, value) => key.text?.map (·, value) with
  | some fields => .record fields
  | none => unreadable

mutual

/-- The value of a node. `of` gives the values of names. -/
def tree (of : Nat → Yaml) : Node → Yaml
  | scalar s => Yaml.scalar s
  | list items => .list (treesOfItems of items)
  | record fields => recordOf (treesOfFields of fields)
  | named _ node => node.tree of
  | link id => of id

/-- The values of items. -/
def treesOfItems (of : Nat → Yaml) : List Node → List Yaml
  | [] => []
  | node :: rest => node.tree of :: treesOfItems of rest

/-- The keys and values of fields. -/
def treesOfFields (of : Nat → Yaml) : List (Node × Node) → List (Yaml × Yaml)
  | [] => []
  | (key, value) :: rest => (key.tree of, value.tree of) :: treesOfFields of rest

end

end Node

end QueryGen.Yaml
