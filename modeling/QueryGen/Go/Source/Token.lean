import QueryGen.Go.Source.Lexeme

/-!
# Tokens of Go

A token keeps the blanks and comments in front of it, so the tokens of a text give the text back.
Every character of an operator is a token of its own, because it depends on the place which
operators there are: `a ++ b` is a sum where no counter may be stepped. The last token has no text
and keeps what stands at the end.

- `Comment`, `Gap`, `Token`: the parts of a text.
- `tokens?`: the tokens of a text.
- `sourceOf`: the text of tokens without what stands before the first.
-/

namespace QueryGen.Go

/-- A comment and the rows where it begins and ends. -/
structure Comment where
  text : List Char
  row : Nat
  endRow : Nat
deriving DecidableEq, Repr, Inhabited

/-- What stands between tokens. -/
inductive Gap where
  | blank (c : Char)
  | comment (c : Comment)
deriving DecidableEq, Repr, Inhabited

def Gap.text : Gap → List Char
  | blank c => [c]
  | comment c => c.text

def Gap.comment? : Gap → Option Comment
  | blank _ => none
  | comment c => some c

inductive TokenKind where
  /-- An identifier or a keyword. -/
  | word
  | number | rune
  /-- A string literal, with its quotes. -/
  | string
  /-- A character of an operator, a bracket or a separator. -/
  | mark
  /-- The end of the text. -/
  | ending
deriving DecidableEq, Repr, Inhabited

structure Token where
  kind : TokenKind
  text : String
  /-- What stands before the token, in order. -/
  before : List Gap
  row : Nat
  endRow : Nat
deriving DecidableEq, Repr, Inhabited

namespace Token

def isMark (mark : String) (t : Token) : Bool := t.kind == .mark && t.text == mark

def isWord (word : String) (t : Token) : Bool := t.kind == .word && t.text == word

/-- Whether a line end stands before the token, not counting those in comments. -/
def onNewLine (t : Token) : Bool := t.before.contains (.blank '\n')

/-- The comments in front of the token. -/
def comments (t : Token) : List Comment := t.before.filterMap Gap.comment?

/-- The token with what stands before it. -/
def source (t : Token) : List Char := t.before.flatMap Gap.text ++ t.text.toList

end Token

/-- The text of tokens without what stands before the first. -/
def sourceOf : List Token → List Char
  | [] => []
  | t :: rest => t.text.toList ++ rest.flatMap Token.source

/-! ## Reading tokens -/

/-- The characters between tokens: a space, and those from the tab to the carriage return. -/
def isSpace (c : Char) : Bool := c == ' ' || ('\t' ≤ c && c ≤ '\r')

/-- The characters of marks. A NUL ends what a line end may end. -/
def isMarkChar (c : Char) : Bool := "+-*/%&|^<>=!()[]\x7b\x7d,;.:~\x00".toList.contains c

/-- The token at the front of a text: its kind, its text and the text behind it. -/
def scanToken? (cs : List Char) : Option (TokenKind × List Char × List Char) :=
  match cs with
  | [] => none
  | c :: rest =>
    if Text.isNameStart c || c == '_' then
      let (word, rest) := (c :: rest).span Text.isNamePart
      some (.word, word, rest)
    else
      match [(TokenKind.number, Lexeme.number?), (.rune, Lexeme.rune?), (.string, Lexeme.string?),
          (.string, Lexeme.rawString?)].findSome? fun (kind, lexeme) =>
            (Lexeme.cut? lexeme cs).map (kind, ·) with
      | some token => some token
      | none => if isMarkChar c then some (.mark, [c], rest) else none

/-- How many line ends stand in a text. -/
def newLines (cs : List Char) : Nat := cs.count '\n'

/-- The tokens of a text, in at most `n` steps. `gaps` holds what was read since the last token,
the last part first. -/
def readTokens? : Nat → Nat → List Gap → List Char → Option (List Token)
  | _, row, gaps, [] => some [⟨.ending, "", gaps.reverse, row, row⟩]
  | 0, _, _, _ => none
  | n + 1, row, gaps, c :: rest =>
    if isSpace c then readTokens? n (row + newLines [c]) (.blank c :: gaps) rest
    else match Lexeme.cut? Lexeme.comment? (c :: rest) with
      | some (text, rest) =>
        let endRow := row + newLines text
        readTokens? n endRow (.comment ⟨text, row, endRow⟩ :: gaps) rest
      | none =>
        match scanToken? (c :: rest) with
        | none => none
        | some (kind, text, rest) =>
          let endRow := row + newLines text
          (readTokens? n endRow [] rest).map
            (⟨kind, .ofList text, gaps.reverse, row, endRow⟩ :: ·)

/-- The tokens of a text. -/
def tokens? (cs : List Char) : Option (List Token) := readTokens? cs.length 0 [] cs

end QueryGen.Go
