import QueryGen.Text.Basic
import QueryGen.Text.Case

/-!
# The words of a name

A name is made of words that are set apart by other characters or by a change of case.

- `splitCase`: the words of letters and digits, cut where the case changes.
- `nameWords`: the words of a name.
- `camelCase`, `snakeCase`: the words put together again.
-/

namespace QueryGen.Naming

open Text (isUpper isLower)

/-- The case of the letters read last in a word. -/
inductive CaseRun where
  | none | lower | upper
deriving DecidableEq, Repr

/-- The case after one more character. Characters without case change nothing. -/
def CaseRun.after (run : CaseRun) (c : Char) : CaseRun :=
  if isLower c then lower else if isUpper c then upper else run

/-- Cuts between lower case and a capital, and before the last of several capitals when lower case
follows. `word` holds what was read of a word, the last character first. -/
def splitCase (run : CaseRun) (word : List Char) : List Char → List (List Char)
  | [] => []
  | [c] => [(c :: word).reverse]
  | c :: next :: rest =>
    if run.after c = .lower ∧ isUpper next then
      (c :: word).reverse :: splitCase .none [] (next :: rest)
    else if run = .upper ∧ isUpper c ∧ isLower next then
      word.reverse :: splitCase .none [c] (next :: rest)
    else splitCase (run.after c) (c :: word) (next :: rest)

theorem flatten_splitCase (run : CaseRun) (word cs : List Char) (h : cs ≠ []) :
    (splitCase run word cs).flatten = word.reverse ++ cs := by
  fun_induction splitCase run word cs <;> simp_all

/-- The parts of a name between characters that are neither letters nor digits. -/
def segments (cs : List Char) : List (List Char) :=
  (Text.splitWith (!Text.isWord ·) cs).filter (· ≠ [])

/-- The words of a name. -/
def nameWords (cs : List Char) : List (List Char) :=
  (segments cs).flatMap (splitCase .none [])

/-- Lower case of a word. A capital sigma at its end becomes a final sigma. -/
def lowerWord : List Char → List Char
  | [] => []
  | [c] => if c = 'Σ' then ['ς'] else Text.lowerChar c
  | c :: rest => Text.lowerChar c ++ lowerWord rest

/-- A word with a capital in front and lower case behind it. -/
def capitalize : List Char → List Char
  | [] => []
  | c :: rest => Text.upperChar c ++ lowerWord rest

/-- The words with capitals in front, put together. -/
def camelCase (cs : List Char) : List Char := (nameWords cs).flatMap capitalize

/-- The words in lower case, with underscores between them. -/
def snakeCase (cs : List Char) : List Char := Text.join ['_'] ((nameWords cs).map lowerWord)

end QueryGen.Naming
