import QueryGen.Data.Yaml.Token

/-!
# Where keys and blocks open

Only the colon behind a key tells that it is one. So a place where a key may stand is remembered
until the colon is found, and then the tokens that open the key are put in front of it. Blocks open
and close by the columns of what is in them.

- `PendingKey`: a place where a key may stand.
- `Layout`: the tokens so far, the open blocks and brackets, and the keys that are remembered.
- `Layout.mayOpenKey?`, `Layout.forgetKey?`, `Layout.forgetOldKeys?`: what is remembered.
- `Layout.openBlock`, `Layout.closeBlocks`: blocks.
-/

namespace QueryGen.Yaml

/-- A place where a key may stand. -/
structure PendingKey where
  /-- The number of tokens before it. -/
  count : Nat
  index : Nat
  line : Nat
  column : Nat
  /-- It stands where its block has a key, so it has to be one. -/
  required : Bool

/-- A key is no longer than this, with the blanks in front of its colon. -/
def PendingKey.maxLength : Nat := 1024

/-- A key stands on one line and is not too long, so none is to be found here any more. -/
def PendingKey.isOld (k : PendingKey) (p : Place) : Bool :=
  k.line < p.line || k.index + maxLength < p.index

structure Layout where
  /-- The last one first. -/
  tokens : List Token := []
  count : Nat := 0
  /-- The columns of the open blocks, the innermost first. -/
  columns : List Nat := []
  /-- The place of a key inside the innermost brackets. -/
  pending : Option PendingKey := none
  /-- Such places outside of each pair of open brackets, the innermost first. -/
  outer : List (Option PendingKey) := []
  /-- A key may stand here. -/
  keyAllowed : Bool := true

namespace Layout

/-- Between brackets columns have no meaning. -/
def flow (l : Layout) : Bool := !l.outer.isEmpty

/-- The number of blanks that further lines of a scalar have in front at least. -/
def margin (l : Layout) : Nat := l.columns.head?.elim 0 (· + 1)

def push (token : Token) (l : Layout) : Layout :=
  { l with tokens := token :: l.tokens, count := l.count + 1 }

/-- Puts a token behind the first `count` ones. -/
def insert (count : Nat) (token : Token) (l : Layout) : Layout :=
  { l with
    tokens := l.tokens.take (l.count - count) ++ token :: l.tokens.drop (l.count - count)
    count := l.count + 1 }

def allowKey (allowed : Bool) (l : Layout) : Layout := { l with keyAllowed := allowed }

/-! ## Keys -/

/-- Nothing is remembered inside the innermost brackets. A required key has to be found. -/
def forgetKey? (l : Layout) : Option Layout :=
  if l.pending.any (·.required) then none else some { l with pending := none }

/-- No key is remembered that can no longer be found. -/
def forgetOldKeys? (p : Place) (l : Layout) : Option Layout :=
  let isOld (k : PendingKey) : Bool := k.isOld p
  if (l.pending :: l.outer).any (·.any fun k => isOld k && k.required) then none
  else some { l with
    pending := l.pending.filter (!isOld ·)
    outer := l.outer.map (·.filter (!isOld ·)) }

/-- A key may stand here, if one is allowed. -/
def mayOpenKey? (p : Place) (l : Layout) : Option Layout := do
  if !l.keyAllowed then return l
  let l ← l.forgetKey?
  let required := !l.flow && l.columns.head? == some p.column
  return { l with pending := some ⟨l.count, p.index, p.line, p.column, required⟩ }

/-! ## Blocks and brackets -/

/-- A block in a column is open. If it has to be opened, the token stands behind the first `count`
ones. -/
def openBlockBehind (count column : Nat) (token : Token) (l : Layout) : Layout :=
  if l.flow ∨ l.columns.head?.any (column ≤ ·) then l
  else { l.insert count token with columns := column :: l.columns }

/-- A block in the column of a place is open. -/
def openBlock (p : Place) (token : Token) (l : Layout) : Layout :=
  l.openBlockBehind l.count p.column token

/-- Closes the blocks that `isInner` says are over. -/
def closeBlocks (isInner : Nat → Bool) (l : Layout) : Layout :=
  if l.flow then l
  else
    let closed := l.columns.takeWhile isInner
    { closed.foldl (fun l _ => l.push .blockEnd) l with columns := l.columns.drop closed.length }

/-- All blocks are over, and no key is remembered. -/
def endDocument? (l : Layout) : Option Layout := do
  return (← (l.closeBlocks fun _ => true).forgetKey?).allowKey false

/-- A bracket may open a key, and inside of it keys may stand. -/
def openBracket? (p : Place) (token : Token) (l : Layout) : Option Layout := do
  let l ← l.mayOpenKey? p
  return ({ l with pending := none, outer := l.pending :: l.outer }.allowKey true).push token

def closeBracket? (token : Token) (l : Layout) : Option Layout := do
  let l ← l.forgetKey?
  let l := match l.outer with
    | [] => l
    | pending :: outer => { l with pending, outer }
  return (l.allowKey false).push token

@[simp] theorem tokens_push (token : Token) (l : Layout) :
    (l.push token).tokens = token :: l.tokens := rfl

theorem insert_count (token : Token) (l : Layout) : l.insert l.count token = l.push token := by
  simp [insert, push]

theorem columns_closeBlocks {l : Layout} (isInner : Nat → Bool) (h : l.flow = false) :
    (l.closeBlocks isInner).columns = l.columns.dropWhile isInner := by
  simp only [closeBlocks, h, Bool.false_eq_true, if_false]
  induction l.columns with
  | nil => rfl
  | cons c rest ih =>
    by_cases hc : isInner c
    · simpa [List.takeWhile_cons, hc] using ih
    · simp [hc]

end Layout

end QueryGen.Yaml
