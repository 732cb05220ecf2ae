import QueryGen.Data.Yaml.BlockScalar
import QueryGen.Data.Yaml.Layout
import QueryGen.Data.Yaml.Scalar

/-!
# Reading tokens of YAML

- `dash?`, `question?`, `colon?`: the marks of items, keys and values.
- `nameToken?`, `quotedToken?`, `plainToken?`, `linesToken?`: names and scalars.
- `token?`: any token.
- `tokens?`: the tokens of a text.

A number in front of the arguments of a reader bounds the length of what follows.
-/

namespace QueryGen.Yaml

/-- What a token leaves behind. -/
abbrev Step := Layout × Place

/-- A mark of one character. -/
def mark (token : Token) (p : Place) (l : Layout) : Step := (l.push token, p.next)

/-! ## Marks of blocks -/

/-- A dash in front of an item. -/
def dash? (p : Place) (l : Layout) : Option Step := do
  if !l.flow && !l.keyAllowed then none
  let l ← (l.openBlock p .blockList).forgetKey?
  return mark .dash p (l.allowKey true)

/-- A question mark in front of a key. -/
def question? (p : Place) (l : Layout) : Option Step := do
  if !l.flow && !l.keyAllowed then none
  let l ← (l.openBlock p .blockRecord).forgetKey?
  return mark .key p (l.allowKey !l.flow)

/-- A colon, which makes a key of what is remembered as one. Without that the key is empty or
stands behind a question mark. -/
def colon? (p : Place) (l : Layout) : Option Step :=
  match l.pending with
  | some k =>
    let l := (l.insert k.count .key).openBlockBehind k.count k.column .blockRecord
    some (mark .value p { l with pending := none, keyAllowed := false })
  | none =>
    if !l.flow && !l.keyAllowed then none
    else some (mark .value p ((l.openBlock p .blockRecord).allowKey !l.flow))

/-! ## Names and scalars -/

/-- A name of the next value, or in place of a value. -/
def nameToken? (token : String → Token) (p : Place) (l : Layout) : Option Step := do
  let l ← l.mayOpenKey? p
  let (name, q) ← name? p
  return ((l.allowKey false).push (token name), q)

def tagToken? (p : Place) (l : Layout) : Option Step := do
  let l ← l.mayOpenKey? p
  let (token, q) ← tag? l.flow p
  return ((l.allowKey false).push token, q)

/-- A scalar between quotes. -/
def quotedToken? (read : Nat → Place → Option (List Glyph × Place)) (bound : Nat) (p : Place)
    (l : Layout) : Option Step := do
  let l ← l.mayOpenKey? p
  let (glyphs, q) ← read bound p.next
  return ((l.allowKey false).push (.scalar (.quoted (.ofList (fold glyphs)))), q)

/-- A scalar without quotes. If a line ends behind it a key may stand on the next one. -/
def plainToken? (bound : Nat) (p : Place) (l : Layout) : Option Step := do
  if !opensPlain l.flow p.rest then none
  let l ← l.mayOpenKey? p
  let r ← plainGlyphs? l.flow l.margin bound p
  return ((l.allowKey r.endsLine).push (.scalar (.plain (.ofList (fold r.glyphs)))), r.behind)

/-- A scalar that takes up the lines below its sign. -/
def linesToken? (bound : Nat) (p : Place) (l : Layout) : Option Step := do
  let l ← l.forgetKey?
  let (s, q) ← blockScalar? l.margin bound p
  return ((l.allowKey true).push (.scalar s), q)

/-! ## Texts -/

/-- The token that starts at a place. -/
def token? (bound : Nat) (p : Place) (l : Layout) : Option Step :=
  match p.rest with
  | [] => none
  | c :: rest =>
    let bare := l.flow || isGap rest
    if c = '%' ∧ p.column = 0 then do
      let l ← l.endDocument?
      let (token, q) ← directive? p
      return (l.push token, q)
    else if p.atStart then do return ((← l.endDocument?).push .documentStart, p.skip 3)
    else if p.atStop then do return ((← l.endDocument?).push .documentEnd, p.skip 3)
    else if c = '[' then do return (← l.openBracket? p .openList, p.next)
    else if c = '\x7b' then do return (← l.openBracket? p .openRecord, p.next)
    else if c = ']' then do return (← l.closeBracket? .closeList, p.next)
    else if c = '\x7d' then do return (← l.closeBracket? .closeRecord, p.next)
    else if c = ',' then do return mark .comma p ((← l.forgetKey?).allowKey true)
    else if c = '-' ∧ isGap rest then dash? p l
    else if c = '?' ∧ bare then question? p l
    else if c = ':' ∧ bare then colon? p l
    else if c = '*' then nameToken? .link p l
    else if c = '&' then nameToken? .anchor p l
    else if c = '!' then tagToken? p l
    else if (c = '|' ∨ c = '>') ∧ !l.flow then linesToken? bound p l
    else if c = '\'' then quotedToken? singleQuoted? bound p l
    else if c = '"' then quotedToken? doubleQuoted? bound p l
    else plainToken? bound p l

/-- The tokens from a place on. In front of one a tab may stand only where no block can open. -/
def tokensFrom? : Nat → Place → Layout → Option (List Token)
  | 0, _, _ => none
  | n + 1, p, l => do
    let q := p.toContent (l.flow || !l.keyAllowed) l.flow
    let l := if !l.flow ∧ p.line < q.line then l.allowKey true else l
    let l ← l.forgetOldKeys? q
    let l := l.closeBlocks (q.column < ·)
    if q.rest = [] then
      let l ← l.endDocument?
      return l.tokens.reverse
    else
      let (l, r) ← token? (n + 1) q l
      tokensFrom? n r l

/-- The tokens of a text. -/
def tokens? (cs : List Char) : Option (List Token) := tokensFrom? (cs.length + 1) ⟨cs, 0, 0, 0⟩ {}

end QueryGen.Yaml
