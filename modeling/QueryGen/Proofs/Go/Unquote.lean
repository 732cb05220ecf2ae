import QueryGen.Data.Json.Reader
import QueryGen.Go.Literal
import QueryGen.Proofs.Template.DirectiveEnd

/-!
# Reading back a sum of strings

- `unquote?`: the text that an interpreted string literal stands for. It inverts `quoteText`
  (`unquote?_quoteText`).
- `Symbol`, `symbolsOf`: what an operand stands for: characters, or a value that is known at run
  time only.
- `operands`: the operands of a sum, cut at the signs outside literals and brackets.
- `operands_intercalate`: the operands of a sum are those that it was made of.
- `StandsFor`: a sum stands for a text. One that is made of literals and values does
  (`standsFor_intercalate`).
-/

namespace QueryGen.Go

open Template (CodeState goEscapes isQuote)

/-! ## Literals -/

/-- The character whose code point hexadecimal digits write. -/
def hexChar? (digits : List Char) : Option Char := do
  let values ← digits.mapM Json.hexDigit?
  let code := values.foldl (fun n value => 16 * n + value) 0
  if code < 0xD800 ∨ (0xDFFF < code ∧ code < 0x110000) then some (.ofNat code) else none

/-- The character that a letter behind a backslash stands for. -/
def letterEscape? : Char → Option Char
  | 'a' => some '\x07'
  | 'b' => some '\x08'
  | 'f' => some '\x0c'
  | 'n' => some '\n'
  | 'r' => some '\r'
  | 't' => some '\t'
  | 'v' => some '\x0b'
  | '\\' => some '\\'
  | '"' => some '"'
  | _ => none

/-- The text of a literal behind its opening quote. The literal ends where the characters do.
Escapes of single bytes are not read, as a byte may be a part of a character. -/
def literalBody? : List Char → Option (List Char)
  | [] => none
  | ['"'] => some []
  | '\\' :: 'u' :: a :: b :: c :: d :: rest =>
    Json.consChar (hexChar? [a, b, c, d]) (literalBody? rest)
  | '\\' :: 'U' :: a :: b :: c :: d :: e :: f :: g :: h :: rest =>
    Json.consChar (hexChar? [a, b, c, d, e, f, g, h]) (literalBody? rest)
  | '\\' :: c :: rest => Json.consChar (letterEscape? c) (literalBody? rest)
  | c :: rest => if c = '"' ∨ c = '\\' ∨ c = '\n' then none else Json.consChar c (literalBody? rest)

/-- The text that an interpreted string literal stands for. -/
def unquote? : List Char → Option (List Char)
  | '"' :: rest => literalBody? rest
  | _ => none

theorem hexChar?_hex4 {c : Char} (h : Text.isControl c = true) : hexChar? (hex4 c.toNat) = c := by
  have hdigit : ∀ d < 16, Json.hexDigit? (Nat.digitChar d) = some d := by decide
  have hlow : c.toNat < 0xA0 := by
    simp only [Text.isControl, Bool.or_eq_true, Bool.and_eq_true, decide_eq_true_eq] at h
    omega
  have hvalues : (hex4 c.toNat).mapM Json.hexDigit? =
      some [c.toNat / 4096 % 16, c.toNat / 256 % 16, c.toNat / 16 % 16, c.toNat % 16] := by
    simp [hex4, hdigit, Nat.mod_lt]
  have hcode : [c.toNat / 4096 % 16, c.toNat / 256 % 16, c.toNat / 16 % 16,
      c.toNat % 16].foldl (fun n value => 16 * n + value) 0 = c.toNat := by
    simp only [List.foldl_cons, List.foldl_nil]
    omega
  unfold hexChar?
  rw [hvalues]
  simp only [bind, Option.bind_some, hcode]
  rw [if_pos (.inl (by omega)), Char.ofNat_toNat]

theorem literalBody?_cons {c : Char} (hquote : c ≠ '"') (hback : c ≠ '\\') (hline : c ≠ '\n')
    (rest : List Char) : literalBody? (c :: rest) = Json.consChar c (literalBody? rest) := by
  rw [literalBody?.eq_6 c rest (fun hc _ => hquote hc) (fun _ _ _ _ _ hc _ => hback hc)
    (fun _ _ _ _ _ _ _ _ _ hc _ => hback hc) (fun _ _ hc _ => hback hc),
    if_neg (by simp [hquote, hback, hline])]

/-- A written character is read back. -/
theorem literalBody?_quoteChar (c : Char) (rest : List Char) :
    literalBody? (quoteChar c ++ rest) = Json.consChar c (literalBody? rest) := by
  unfold quoteChar
  split
  · rfl
  · rfl
  · rfl
  · rfl
  · rfl
  · next hquote hback hline _ _ =>
    split
    · next hc =>
      simpa [hex4, literalBody?] using
        congrArg (Json.consChar · (literalBody? rest)) (hexChar?_hex4 hc)
    · exact literalBody?_cons hquote hback hline rest

theorem literalBody?_flatMap (cs : List Char) :
    literalBody? (cs.flatMap quoteChar ++ ['"']) = some cs := by
  induction cs with
  | nil => rfl
  | cons c rest ih =>
    rw [List.flatMap_cons, List.append_assoc, literalBody?_quoteChar, ih]
    rfl

theorem unquote?_quoteText (cs : List Char) : unquote? (quoteText cs) = some cs :=
  literalBody?_flatMap cs

theorem consChar_eq_some_iff {c : Option Char} {text : Option (List Char)} {cs : List Char} :
    Json.consChar c text = some cs ↔ ∃ d rest, c = some d ∧ text = some rest ∧ d :: rest = cs := by
  simp [Json.consChar, Option.bind_eq_some_iff]

theorem getLast?_of_literalBody? {cs text : List Char} (h : literalBody? cs = some text) :
    cs.getLast? = some '"' := by
  fun_induction literalBody? cs generalizing text with
  | case1 => cases h
  | case2 => rfl
  | case3 _ _ _ _ rest ih | case4 _ _ _ _ _ _ _ _ rest ih | case5 _ rest _ _ ih
  | case7 _ rest _ _ _ _ _ ih =>
    obtain ⟨_, more, -, hmore, -⟩ := consChar_eq_some_iff.1 h
    simp [List.getLast?_cons, ih hmore]
  | case6 => cases h

/-- A literal ends in a quote. -/
theorem getLast?_of_unquote? {cs text : List Char} (h : unquote? cs = some text) :
    cs.getLast? = some '"' := by
  unfold unquote? at h
  split at h
  · next rest => rw [List.getLast?_cons, getLast?_of_literalBody? h]; rfl
  · cases h

/-! ## Operands -/

/-- A unit of the text that an expression stands for. -/
inductive Symbol where
  | char (c : Char)
  /-- A value that is known at run time only. -/
  | value (code : String)
deriving DecidableEq, Repr

/-- What an operand stands for: the text of a literal, or a value. -/
def symbolsOf (operand : String) : List Symbol :=
  match unquote? operand.toList with
  | some cs => cs.map .char
  | none => [.value operand]

theorem symbolsOf_quoteText (cs : List Char) :
    symbolsOf (.ofList (quoteText cs)) = cs.map .char := by
  rw [symbolsOf, String.toList_ofList, unquote?_quoteText]

/-- What does not end in a quote is no literal. -/
theorem symbolsOf_of_getLast? {operand : String} (h : operand.toList.getLast? ≠ some '"') :
    symbolsOf operand = [.value operand] := by
  unfold symbolsOf
  split
  · next cs hcs => exact absurd (getLast?_of_unquote? hcs) h
  · rfl

/-! ## Sums -/

/-- A place in an expression: how literals stand there, and how many brackets are open. -/
structure Nest where
  state : CodeState
  depth : Nat
deriving DecidableEq

namespace Nest

/-- Outside literals and brackets. -/
def outside : Nest := ⟨.code, 0⟩

/-- The place behind the next character. -/
def next (p : Nest) (c : Char) : Nest where
  state := p.state.next goEscapes c
  depth :=
    if p.state ≠ .code then p.depth
    else if c ∈ ['(', '[', '\x7b'] then p.depth + 1
    else if c ∈ [')', ']', '\x7d'] then p.depth - 1
    else p.depth

/-- The parts of a text between the signs of a sum. -/
def parts : Nest → List Char → List (List Char)
  | _, [] => [[]]
  | p, c :: rest =>
    if p = outside ∧ c = '+' then [] :: parts p rest
    else (parts (p.next c) rest).modifyHead (c :: ·)

/-- The place behind a text that has no sign of a sum. -/
def through? : Nest → List Char → Option Nest
  | p, [] => some p
  | p, c :: rest => if p = outside ∧ c = '+' then none else through? (p.next c) rest

theorem parts_append {p q : Nest} {cs : List Char} (h : p.through? cs = some q)
    (rest : List Char) :
    p.parts (cs ++ rest) = (q.parts rest).modifyHead (cs ++ ·) := by
  induction cs generalizing p with
  | nil =>
    cases h
    rw [List.nil_append]
    cases q.parts rest <;> rfl
  | cons c more ih =>
    rw [through?] at h
    split at h
    · cases h
    · next hc =>
      rw [List.cons_append, parts, if_neg hc, ih h, List.modifyHead_modifyHead]
      rfl

/-- Inside a literal no character is a sign, and brackets do not count. -/
theorem through?_cons_of_state {p : Nest} (h : p.state ≠ .code) (c : Char) (rest : List Char) :
    p.through? (c :: rest) = through? ⟨p.state.next goEscapes c, p.depth⟩ rest := by
  have hp : p ≠ outside := fun he => h (by rw [he]; rfl)
  simp [through?, next, h, hp]

end Nest

/-- The operands of a sum. -/
def operands (sum : String) : List String :=
  (Nest.outside.parts sum.toList).map fun cs => .ofList (Text.trim cs)

/-- One operand of a sum, without blanks around it. -/
structure IsOperand (text : String) : Prop where
  through : Nest.outside.through? text.toList = some .outside
  trimmed : Text.Trimmed text.toList

variable {text : String}

theorem trim_space_cons (cs : List Char) : Text.trim (' ' :: cs) = Text.trim cs := by
  rw [Text.trim, Text.trimStart, List.dropWhile_cons_of_pos Text.isBlank_space]
  rfl

namespace IsOperand

theorem trim_append (h : IsOperand text) {blanks : List Char}
    (hb : ∀ c ∈ blanks, Text.isBlank c = true) :
    Text.trim (text.toList ++ blanks) = text.toList := by
  simpa using Text.trim_append (List.forall_mem_nil _) h.trimmed hb

theorem operands_eq (h : IsOperand text) : operands text = [text] := by
  have hparts : Nest.outside.parts text.toList = [text.toList] := by
    simpa [Nest.parts] using Nest.parts_append h.through []
  have htrim : Text.trim text.toList = text.toList := by
    simpa using h.trim_append (List.forall_mem_nil _)
  simp [operands, hparts, htrim]

theorem operands_append (h : IsOperand text) (more : String) :
    operands (text ++ " + " ++ more) = text :: operands more := by
  have hparts : Nest.outside.parts (text ++ " + " ++ more).toList =
      (text.toList ++ [' ']) :: (Nest.outside.parts more.toList).modifyHead (' ' :: ·) := by
    rw [String.toList_append, String.toList_append, List.append_assoc,
      Nest.parts_append h.through]
    rfl
  have htrim : (Text.trim (text.toList ++ [' '])) = text.toList :=
    h.trim_append (by simp [Text.isBlank_space])
  have hrest : ∀ ps : List (List Char), (ps.modifyHead (' ' :: ·)).map
      (fun cs => String.ofList (Text.trim cs)) = ps.map fun cs => .ofList (Text.trim cs) := by
    intro ps
    cases ps with
    | nil => rfl
    | cons p rest => simp [trim_space_cons]
  rw [operands, hparts, List.map_cons, htrim, hrest, String.ofList_toList, operands]

end IsOperand

/-- The operands of a sum are those that it was made of. -/
theorem operands_intercalate {texts : List String} (hne : texts ≠ [])
    (h : ∀ t ∈ texts, IsOperand t) : operands (" + ".intercalate texts) = texts := by
  induction texts with
  | nil => exact absurd rfl hne
  | cons t rest ih =>
    obtain ⟨ht, hrest⟩ := List.forall_mem_cons.1 h
    cases rest with
    | nil => rw [String.intercalate_singleton, ht.operands_eq]
    | cons u more =>
      rw [String.intercalate_cons_cons, ht.operands_append, ih (by simp) hrest]

/-! ## Literals are operands -/

variable (depth : Nat) (rest : List Char)

/-- A character of a literal that is neither its quote nor a backslash. -/
theorem through?_cons_of_ne {c : Char} (hquote : c ≠ '"') (hback : c ≠ '\\') :
    Nest.through? ⟨.literal '"', depth⟩ (c :: rest) =
      Nest.through? ⟨.literal '"', depth⟩ rest := by
  rw [Nest.through?_cons_of_state (by simp), CodeState.next_literal hback, if_neg hquote]

theorem through?_escape (c : Char) :
    Nest.through? ⟨.literal '"', depth⟩ ('\\' :: c :: rest) =
      Nest.through? ⟨.literal '"', depth⟩ rest := by
  rw [Nest.through?_cons_of_state (by simp), CodeState.next_backslash (by decide),
    Nest.through?_cons_of_state (by simp)]
  rfl

theorem through?_append_of_ne {front : List Char} (h : ∀ c ∈ front, c ≠ '"' ∧ c ≠ '\\') :
    Nest.through? ⟨.literal '"', depth⟩ (front ++ rest) =
      Nest.through? ⟨.literal '"', depth⟩ rest := by
  induction front with
  | nil => rfl
  | cons c more ih =>
    obtain ⟨⟨hquote, hback⟩, hmore⟩ := List.forall_mem_cons.1 h
    rw [List.cons_append, through?_cons_of_ne depth _ hquote hback, ih hmore]

theorem ne_of_mem_hex4 {n : Nat} {c : Char} (h : c ∈ hex4 n) : c ≠ '"' ∧ c ≠ '\\' := by
  have hdigit : ∀ d < 16, Nat.digitChar d ≠ '"' ∧ Nat.digitChar d ≠ '\\' := by decide
  obtain ⟨d, hd, rfl⟩ := List.mem_map.1 h
  refine hdigit d ?_
  simp only [List.mem_cons, List.not_mem_nil, or_false] at hd
  omega

theorem through?_quoteChar (c : Char) :
    Nest.through? ⟨.literal '"', depth⟩ (quoteChar c ++ rest) =
      Nest.through? ⟨.literal '"', depth⟩ rest := by
  unfold quoteChar
  split
  · exact through?_escape depth rest _
  · exact through?_escape depth rest _
  · exact through?_escape depth rest _
  · exact through?_escape depth rest _
  · exact through?_escape depth rest _
  · next hquote hback _ _ _ =>
    split
    · rw [List.cons_append, List.cons_append, through?_escape,
        through?_append_of_ne depth rest fun _ => ne_of_mem_hex4]
    · exact through?_cons_of_ne depth rest hquote hback

/-- Behind a literal stands what stood before it, as nothing in it closes it. -/
theorem through?_quoteText (cs : List Char) :
    Nest.through? ⟨.code, depth⟩ (quoteText cs ++ rest) = Nest.through? ⟨.code, depth⟩ rest := by
  have hbody : ∀ cs : List Char, Nest.through? ⟨.literal '"', depth⟩
      (cs.flatMap quoteChar ++ '"' :: rest) = Nest.through? ⟨.code, depth⟩ rest := by
    intro cs
    induction cs with
    | nil => exact Nest.through?_cons_of_state (by simp) _ _
    | cons c more ih => rw [List.flatMap_cons, List.append_assoc, through?_quoteChar, ih]
  have hopen : CodeState.next goEscapes .code '"' = .literal '"' := CodeState.next_code (by decide)
  rw [quoteText, List.cons_append, List.append_assoc, List.singleton_append, ← hbody cs]
  simp [Nest.through?, Nest.next, hopen]

theorem isOperand_quoteText (cs : List Char) : IsOperand (.ofList (quoteText cs)) := by
  refine ⟨?_, ?_, ?_⟩
  · simpa [Nest.outside, Nest.through?] using through?_quoteText 0 [] cs
  · rw [String.toList_ofList]
    intro c hc
    obtain rfl : '"' = c := by simpa [quoteText] using hc
    decide
  · rw [String.toList_ofList]
    intro c hc
    obtain rfl : '"' = c := by simpa [quoteText, List.getLast?_cons] using hc
    decide

/-! ## The text of a sum -/

/-- A sum stands for a text by what its operands stand for. When every value in the text is a single
operand, these are the operands that are found in the sum. -/
def StandsFor (sum : String) (text : List Symbol) : Prop :=
  ∃ parts : List String, sum = " + ".intercalate parts ∧ parts.flatMap symbolsOf = text ∧
    ((∀ code, .value code ∈ text → IsOperand code) → operands sum = parts)

theorem standsFor_intercalate {parts : List String} (hne : parts ≠ [])
    (h : ∀ p ∈ parts, (∃ cs, p = .ofList (quoteText cs)) ∨ symbolsOf p = [.value p]) :
    StandsFor (" + ".intercalate parts) (parts.flatMap symbolsOf) := by
  refine ⟨parts, rfl, rfl, fun hvalues => operands_intercalate hne fun p hp => ?_⟩
  rcases h p hp with ⟨cs, rfl⟩ | hvalue
  · exact isOperand_quoteText cs
  · refine hvalues p (List.mem_flatMap.2 ⟨p, hp, ?_⟩)
    rw [hvalue]
    exact List.mem_singleton_self _

end QueryGen.Go
