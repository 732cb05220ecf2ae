import QueryGen.Go.Source.File
import QueryGen.Proofs.Go.Lexing

/-!
# Types that are written and read

- `GoType.isDeclarable`: types made of names, pointers, slices, arrays of a decimal length, maps and
  the empty interface.
- `GoType.tokens`: the tokens of a type. `lexes_type`: its text has these tokens.
- `typeAt_tokens`: a type is read from its tokens, whatever stands behind it, unless that goes on
  with a name. `valueAt_passesNumbers`: so are the lengths of arrays.
- `GoType.text_injective`: types with one text are the same.
-/

namespace QueryGen

/-- Types made of names, pointers, slices, arrays of a decimal length, maps and the empty
interface. -/
def GoType.isDeclarable : GoType → Bool
  | named package name => package.all Go.isName && Go.isName name
  | pointer elem | slice elem => elem.isDeclarable
  | array len elem => Go.isDecimal len.toList && elem.isDeclarable
  | map key value => key.isDeclarable && value.isDeclarable
  | interface text => text == "interface\x7b\x7d"
  | verbatim _ | unknown => false

/-- The tokens of a declarable type on a row. What stands before the first of them is given. -/
def GoType.tokens (before : List Go.Gap) (row : Nat) : GoType → List Go.Token
  | named none name => [Go.word name before row]
  | named (some package) name =>
    [Go.word package before row, Go.mark "." [] row, Go.word name [] row]
  | pointer elem => Go.mark "*" before row :: elem.tokens [] row
  | slice elem => Go.mark "[" before row :: Go.mark "]" [] row :: elem.tokens [] row
  | array len elem =>
    Go.mark "[" before row :: Go.number len [] row :: Go.mark "]" [] row :: elem.tokens [] row
  | map key value => Go.word "map" before row :: Go.mark "[" [] row ::
      (key.tokens [] row ++ Go.mark "]" [] row :: value.tokens [] row)
  | interface _ => [Go.word "interface" before row, Go.mark "\x7b" [] row, Go.mark "\x7d" [] row]
  | verbatim _ | unknown => []

namespace Go

variable {row n : Nat} {before gaps : List Gap} {lines : Bool} {name : String} {t : GoType}
  {value : Pass} {cs : List Char} {ts rest : List Token}

/-! ## Tokens -/

theorem isNameText_of_isName (h : isName name = true) : isNameText name.toList = true :=
  (Bool.and_eq_true_iff.1 h).1

theorem notMem_keywords_of_isName (h : isName name = true) : name ∉ keywords := by
  simpa using (Bool.and_eq_true_iff.1 h).2

theorem endsName_cons {c : Char} (hc : Text.isNamePart c = false) : EndsName (c :: cs) := by
  rintro d ⟨⟩
  exact hc

theorem not_isDigit_of_isName (h : isName name = true) (cs : List Char) :
    ∀ c ∈ (name.toList ++ cs).head?, c.isDigit = false := by
  have htext := isNameText_of_isName h
  intro c hc
  cases hname : name.toList with
  | nil => rw [hname] at htext; cases htext
  | cons d rest =>
    rw [hname] at htext hc
    obtain rfl : d = c := Option.some.inj hc
    refine Bool.eq_false_iff.2 fun hdigit => ?_
    rw [isNameText, not_start_of_isDigit hdigit] at htext
    cases htext

/-- The text of a type has the tokens of the type. -/
theorem lexes_type (ht : t.isDeclarable = true) (hcs : EndsName cs) (h : Lexes row [] cs ts) :
    Lexes row gaps (t.text.toList ++ cs) (t.tokens gaps.reverse row ++ ts) := by
  induction t generalizing gaps cs ts with
  | named package name =>
    obtain ⟨hpackage, hname⟩ := Bool.and_eq_true_iff.1 ht
    cases package with
    | none => exact lexes_word _ (isNameText_of_isName hname) hcs h
    | some package =>
      simp only [GoType.text, String.toList_append, List.append_assoc]
      exact lexes_word _ (isNameText_of_isName hpackage) (endsName_cons (by decide))
        (lexes_point (not_isDigit_of_isName hname cs)
          (lexes_word _ (isNameText_of_isName hname) hcs h))
  | pointer elem ih =>
    simp only [GoType.text, String.toList_append, List.append_assoc]
    exact lexes_mark (c := '*') (by decide) (ih ht hcs h)
  | slice elem ih =>
    simp only [GoType.text, String.toList_append, List.append_assoc]
    exact lexes_mark (c := '[') (by decide) (lexes_mark (c := ']') (by decide) (ih ht hcs h))
  | array len elem ih =>
    obtain ⟨hlen, helem⟩ := Bool.and_eq_true_iff.1 ht
    simp only [GoType.text, String.toList_append, List.append_assoc]
    exact lexes_mark (c := '[') (by decide) (lexes_number hlen
      (lexes_mark (c := ']') (by decide) (ih helem hcs h)))
  | map key value ihKey ihValue =>
    obtain ⟨hkey, hvalue⟩ := Bool.and_eq_true_iff.1 ht
    simp only [GoType.text, String.toList_append, List.append_assoc, GoType.tokens,
      List.cons_append]
    exact lexes_word "map" (by decide) (endsName_cons (by decide))
      (lexes_mark (c := '[') (by decide) (ihKey hkey (endsName_cons (by decide))
        (lexes_mark (c := ']') (by decide) (ihValue hvalue hcs h))))
  | interface text =>
    obtain rfl := eq_of_beq ht
    exact lexes_word "interface" (by decide) (endsName_cons (by decide))
      (lexes_mark (c := '\x7b') (by decide) (lexes_mark (c := '\x7d') (by decide) h))
  | verbatim => cases ht
  | unknown => cases ht

/-! ## Reading -/

theorem mark?_mark {text : String} (h : text.length = 1) (before : List Gap) (row : Nat)
    (rest : List Token) : mark? text (mark text before row :: rest) = some rest := by
  obtain ⟨c, hc⟩ : ∃ c, text.toList = [c] :=
    List.length_eq_one_iff.1 (by rwa [String.length_toList])
  have htext : text = .singleton c := by
    rw [← String.ofList_toList (s := text), hc]
    rfl
  unfold mark?
  rw [hc]
  simp [Token.isMark, htext, glued?_nil]

theorem name?_word (hname : isName name = true) (before : List Gap) (row : Nat)
    (rest : List Token) : name? (word name before row :: rest) = some (name, rest) := by
  simp [name?, notMem_keywords_of_isName hname]

/-- The type in front of a rest is complete: neither a point nor a bracket goes on with it. -/
structure EndsType (lines : Bool) (rest : List Token) : Prop where
  noPoint : markIn? lines "." rest = none
  noBracket : markIn? lines "[" rest = none

/-- A number in front of a closing bracket is passed over as a value. -/
def PassesNumbers (value : Pass) : Prop :=
  ∀ len row rest, value (number len [] row :: mark "]" [] row :: rest) =
    [mark "]" [] row :: rest]

/-- What stands behind a mark on its row does not stand on a new line. -/
theorem markIn?_of_no_gaps (lines : Bool) (text : String) (t : Token) (ht : t.before = [])
    (rest : List Token) : markIn? lines text (t :: rest) = mark? text (t :: rest) := by
  simp [markIn?, atLineEnd, Token.onNewLine, ht]

theorem endsType_bracket (lines : Bool) (row : Nat) (rest : List Token) :
    EndsType lines (mark "]" [] row :: rest) :=
  ⟨markIn?_of_no_gaps lines "." _ rfl rest, markIn?_of_no_gaps lines "[" _ rfl rest⟩

theorem upTo_append (ts rest : List Token) : upTo (ts ++ rest) rest = ts := by
  rw [upTo, List.length_append, Nat.add_sub_cancel, List.take_left]

theorem lengthAt_number (hv : PassesNumbers value) (len : String) (row : Nat) (rest : List Token) :
    lengthAt value (number len [] row :: mark "]" [] row :: rest) = some (len, rest) := by
  have htaken : upTo (number len [] row :: mark "]" [] row :: rest) (mark "]" [] row :: rest) =
      [number len [] row] := upTo_append [_] _
  rw [lengthAt, hv, List.findSome?_cons, mark?_mark rfl, htaken]
  simp [sourceOf]

/-- What begins with a name is a named type. -/
theorem typeAt_word (hname : isName name = true) (before : List Gap) (row : Nat)
    (rest : List Token) : typeAt value (n + 1) lines (word name before row :: rest) =
      namedAt value n lines lines (word name before row :: rest) := by
  have hkeyword := notMem_keywords_of_isName hname
  rw [typeAt]
  split <;> simp_all [keywords]

theorem typeAt_name (hname : isName name = true) (hrest : EndsType lines rest) :
    typeAt value (n + 2) lines (word name before row :: rest) = some (.simple name, rest) := by
  rw [typeAt_word hname, namedAt, name?_word hname]
  simp [hrest.noPoint, hrest.noBracket]

theorem typeAt_qualified {package : String} (hpackage : isName package = true)
    (hname : isName name = true) (hrest : EndsType lines rest) :
    typeAt value (n + 2) lines
        (word package before row :: mark "." [] row :: word name [] row :: rest) =
      some (.qualified package name, rest) := by
  have hpoint : markIn? lines "." (mark "." [] row :: word name [] row :: rest) =
      some (word name [] row :: rest) := by
    rw [markIn?_of_no_gaps lines _ _ rfl, mark?_mark rfl]
  rw [typeAt_word hpackage, namedAt, name?_word hpackage]
  simp [hpoint, name?_word hname, hrest.noBracket]

theorem typeAt_pointer (h : typeAt value n lines ts = some (t, rest)) :
    typeAt value (n + 1) lines (mark "*" before row :: ts) = some (.pointer t, rest) := by
  rw [typeAt, h]
  rfl

theorem typeAt_slice (h : typeAt value n lines ts = some (t, rest)) :
    typeAt value (n + 1) lines (mark "[" before row :: mark "]" [] row :: ts) =
      some (.slice t, rest) := by
  rw [typeAt, mark?_mark rfl]
  simp [h]

theorem typeAt_array (hv : PassesNumbers value) {len : String}
    (h : typeAt value n lines ts = some (t, rest)) :
    typeAt value (n + 1) lines
        (mark "[" before row :: number len [] row :: mark "]" [] row :: ts) =
      some (.array len t, rest) := by
  have hnot : mark? "]" (number len [] row :: mark "]" [] row :: ts) = none := rfl
  rw [typeAt, hnot, lengthAt_number hv]
  simp [h]

theorem typeAt_map {key : GoType} {behind : List Token}
    (hkey : typeAt value n false ts = some (key, mark "]" [] row :: behind))
    (h : typeAt value n lines behind = some (t, rest)) :
    typeAt value (n + 1) lines (word "map" before row :: mark "[" [] row :: ts) =
      some (.map key t, rest) := by
  have hclose : mark? "]" (mark "]" [] row :: behind) = some behind := mark?_mark rfl _ _ _
  rw [typeAt, mark?_mark rfl]
  simp [hkey, hclose, h]

theorem typeAt_interface (lines : Bool) (before : List Gap) (row : Nat) (rest : List Token) :
    typeAt value (n + 2) lines
        (word "interface" before row :: mark "\x7b" [] row :: mark "\x7d" [] row :: rest) =
      some (.interface "interface\x7b\x7d", rest) := by
  have hitems : itemsAt value (n + 1) (mark "\x7d" [] row :: rest) = some ([], rest) := by
    rw [itemsAt]
    rfl
  have htext : interfaceText
      (word "interface" before row :: mark "\x7b" [] row :: mark "\x7d" [] row :: rest) rest =
        "interface\x7b\x7d" := by
    have htaken := upTo_append
      [word "interface" before row, mark "\x7b" [] row, mark "\x7d" [] row] rest
    simp only [List.cons_append, List.nil_append] at htaken
    rw [interfaceText, htaken]
    rfl
  rw [typeAt, mark?_mark rfl]
  simp [hitems, htext]

/-- A type is read from its tokens. -/
theorem typeAt_tokens (hv : PassesNumbers value) (ht : t.isDeclarable = true)
    (hn : (t.tokens before row).length < n) (hrest : EndsType lines rest) :
    typeAt value n lines (t.tokens before row ++ rest) = some (t, rest) := by
  -- The key of a map is read across line ends and in front of a bracket, so both are free.
  induction t generalizing before n lines rest with
  | named package name =>
    obtain ⟨hpackage, hname⟩ := Bool.and_eq_true_iff.1 ht
    cases package with
    | none =>
      obtain ⟨n, rfl⟩ : ∃ m, n = m + 2 := ⟨n - 2, by simp [GoType.tokens] at hn; omega⟩
      exact typeAt_name hname hrest
    | some package =>
      obtain ⟨n, rfl⟩ : ∃ m, n = m + 2 := ⟨n - 2, by simp [GoType.tokens] at hn; omega⟩
      exact typeAt_qualified hpackage hname hrest
  | pointer elem ih =>
    simp only [GoType.tokens, List.length_cons] at hn
    obtain ⟨n, rfl⟩ : ∃ m, n = m + 1 := ⟨n - 1, by omega⟩
    exact typeAt_pointer (ih ht (by omega) hrest)
  | slice elem ih =>
    simp only [GoType.tokens, List.length_cons] at hn
    obtain ⟨n, rfl⟩ : ∃ m, n = m + 1 := ⟨n - 1, by omega⟩
    exact typeAt_slice (ih ht (by omega) hrest)
  | array len elem ih =>
    obtain ⟨hlen, helem⟩ := Bool.and_eq_true_iff.1 ht
    simp only [GoType.tokens, List.length_cons] at hn
    obtain ⟨n, rfl⟩ : ∃ m, n = m + 1 := ⟨n - 1, by omega⟩
    exact typeAt_array hv (ih helem (by omega) hrest)
  | map key value ihKey ihValue =>
    obtain ⟨hkey, hvalue⟩ := Bool.and_eq_true_iff.1 ht
    simp only [GoType.tokens, List.length_cons, List.length_append] at hn
    obtain ⟨n, rfl⟩ : ∃ m, n = m + 1 := ⟨n - 1, by omega⟩
    rw [GoType.tokens, List.cons_append, List.cons_append, List.append_assoc]
    exact typeAt_map (ihKey hkey (by omega) (endsType_bracket false row _))
      (ihValue hvalue (by omega) hrest)
  | interface text =>
    obtain rfl := eq_of_beq ht
    obtain ⟨n, rfl⟩ : ∃ m, n = m + 2 := ⟨n - 2, by simp [GoType.tokens] at hn; omega⟩
    exact typeAt_interface lines before row rest
  | verbatim => cases ht
  | unknown => cases ht

/-! ## Lengths -/

theorem valueAt_passesNumbers {n : Nat} (hn : 4 ≤ n) : PassesNumbers (valueAt n) := by
  obtain ⟨n, rfl⟩ := Nat.exists_eq_add_of_le' hn
  intro len row rest
  have hnone : Place.brackets.mark? (mark "]" [] row :: rest) = none := rfl
  have hsuffixes : suffixesAt (blockAt (n + 4)) (n + 1) .brackets (mark "]" [] row :: rest) =
      [mark "]" [] row :: rest] := by
    rw [suffixesAt, hnone]
  have hunary : unaryMarks.findSome? (mark? · (number len [] row :: mark "]" [] row :: rest)) =
      none := rfl
  rw [valueAt, exprAt, unaryAt, hunary]
  simp only
  rw [operandAt, hsuffixes, List.flatMap_singleton, hnone]
  rfl

/-! ## Texts -/

/-- The token behind a text of one row. -/
def endToken : Token := ⟨.ending, "", [], 0, 0⟩

theorem tokens?_text (ht : t.isDeclarable = true) :
    tokens? t.text.toList = some (t.tokens [] 0 ++ [endToken]) := by
  have h : Lexes 0 [] (t.text.toList ++ []) (t.tokens [] 0 ++ [endToken]) :=
    lexes_type ht (fun _ hc => by cases hc) (.ending 0 [])
  rw [List.append_nil] at h
  exact tokens?_of_lexes h

/-- The text of a type by itself is read as that type. -/
theorem typeAt_text (lines : Bool) (hv : PassesNumbers value) (ht : t.isDeclarable = true)
    (hn : (t.tokens [] 0).length < n) :
    (tokens? t.text.toList).bind (typeAt value n lines) = some (t, [endToken]) := by
  have hend : EndsType lines [endToken] :=
    ⟨markIn?_of_no_gaps lines "." _ rfl [], markIn?_of_no_gaps lines "[" _ rfl []⟩
  rw [tokens?_text ht, Option.bind_some, typeAt_tokens hv ht hn hend]

end Go

/-- Declarable types with one text are the same. -/
theorem GoType.text_injective {t u : GoType} (ht : t.isDeclarable = true)
    (hu : u.isDeclarable = true) (h : t.text = u.text) : t = u := by
  have hv : Go.PassesNumbers (Go.valueAt 4) := Go.valueAt_passesNumbers (Nat.le_refl 4)
  have hread := Go.typeAt_text (n := (t.tokens [] 0).length + (u.tokens [] 0).length + 1) false hv
    ht (by omega)
  rw [h, Go.typeAt_text false hv hu (by omega)] at hread
  exact (congrArg Prod.fst (Option.some.inj hread)).symm

end QueryGen
