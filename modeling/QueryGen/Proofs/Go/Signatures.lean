import QueryGen.Proofs.Go.TypeTexts
import QueryGen.Proofs.Text.Lines

/-!
# Signatures that are written and read

- `Param.declaration`, `Method.declaration`: parameters and methods as Go spells them.
- `Param.isPlain`, `Method.isPlain`: those with names and declarable types.
- `lexes_params`, `lexes_method`: what is written has the tokens of what it declares.
- `paramsAt_tokens`, `exists_elementAt`: from them the same parameters and the same method are read.
-/

namespace QueryGen

/-! ## Parameters and methods -/

/-- A parameter as Go spells it. -/
def Param.declaration (p : Param) : String := p.name ++ " " ++ p.signatureType

/-- Whether a parameter has a name and a declarable type, which is a slice if it is variadic. -/
def Param.isPlain (p : Param) : Bool :=
  Go.isName p.name && p.type.isDeclarable && (!p.variadic || p.type matches .slice _)

/-- A plain parameter is a single value of its type, or any number of values. -/
theorem Param.isPlain_cases {p : Param} (hp : p.isPlain = true) : Go.isName p.name = true ∧
    ((∃ type, p = ⟨p.name, type, false⟩ ∧ type.isDeclarable = true) ∨
      ∃ elem, p = ⟨p.name, .slice elem, true⟩ ∧ elem.isDeclarable = true) := by
  obtain ⟨name, type, variadic⟩ := p
  simp only [Param.isPlain, Bool.and_eq_true] at hp
  obtain ⟨⟨hname, htype⟩, hvariadic⟩ := hp
  refine ⟨hname, ?_⟩
  cases variadic with
  | false => exact .inl ⟨type, rfl, htype⟩
  | true =>
    cases type with
    | slice elem => exact .inr ⟨elem, rfl, htype⟩
    | _ => cases hvariadic

theorem Param.signatureType_single (name : String) (type : GoType) :
    signatureType ⟨name, type, false⟩ = type.text := by
  cases type <;> rfl

/-- Parameters in brackets. -/
def paramList (params : List Param) : String :=
  "(" ++ ", ".intercalate (params.map Param.declaration) ++ ")"

/-- A method as Go spells it. -/
def Method.declaration (m : Method) : String :=
  m.name ++ paramList m.params ++ if m.results.isEmpty then "" else " " ++ paramList m.results

/-- Whether a method has no comment, and all of its parameters and results are plain. -/
def Method.isPlain (m : Method) : Bool :=
  Go.isName m.name && m.doc == "" && m.params.all Param.isPlain && m.results.all Param.isPlain

namespace Go

/-! ## Tokens -/

variable {row n : Nat} {before gaps : List Gap} {lines : Bool} {name : String} {t : GoType}
  {p : Param} {ps : List Param} {m : Method} {value : Pass} {cs : List Char}
  {ts rest : List Token}

/-- The tokens of the type of a parameter. -/
def signatureTokens (p : Param) (before : List Gap) (row : Nat) : List Token :=
  match p.type, p.variadic with
  | .slice elem, true =>
    mark "." before row :: mark "." [] row :: mark "." [] row :: elem.tokens [] row
  | type, _ => type.tokens before row

def paramTokens (before : List Gap) (row : Nat) (p : Param) : List Token :=
  word p.name before row :: signatureTokens p [.blank ' '] row

/-- The tokens of parameters behind others. -/
def moreParamTokens (row : Nat) (ps : List Param) : List Token :=
  ps.flatMap fun p => mark "," [] row :: paramTokens [.blank ' '] row p

/-- The tokens of parameters in brackets. -/
def paramsTokens (before : List Gap) (row : Nat) (ps : List Param) : List Token :=
  mark "(" before row :: (match ps with
    | [] => []
    | p :: ps => paramTokens [] row p ++ moreParamTokens row ps) ++ [mark ")" [] row]

/-- The tokens of results, if there are any. -/
def resultTokens (row : Nat) (ps : List Param) : List Token :=
  if ps.isEmpty then [] else paramsTokens [.blank ' '] row ps

/-- The tokens of a method on a line of its own. -/
def methodTokens (row : Nat) (m : Method) : List Token :=
  word m.name [.blank '\n', .blank '\t'] row ::
    (paramsTokens [] row m.params ++ resultTokens row m.results)

theorem signatureTokens_single (name : String) (type : GoType) :
    signatureTokens ⟨name, type, false⟩ before row = type.tokens before row := by
  cases type <;> rfl

/-- No type begins with a digit. -/
theorem not_isDigit_of_isDeclarable (ht : t.isDeclarable = true) (cs : List Char) :
    ∀ c ∈ (t.text.toList ++ cs).head?, c.isDigit = false := by
  cases t with
  | named package name =>
    obtain ⟨hpackage, hname⟩ := Bool.and_eq_true_iff.1 ht
    cases package with
    | none => exact not_isDigit_of_isName hname cs
    | some package =>
      simp only [GoType.text, String.toList_append, List.append_assoc]
      exact not_isDigit_of_isName hpackage _
  | interface text =>
    obtain rfl := eq_of_beq ht
    simp [GoType.text]
  | verbatim => cases ht
  | unknown => cases ht
  | _ => simp [GoType.text]

theorem lexes_param (hp : p.isPlain = true) (hcs : EndsName cs) (h : Lexes row [] cs ts) :
    Lexes row gaps (p.declaration.toList ++ cs) (paramTokens gaps.reverse row p ++ ts) := by
  obtain ⟨hname, ⟨type, hp, htype⟩ | ⟨elem, hp, helem⟩⟩ := Param.isPlain_cases hp
  · rw [Param.declaration, paramTokens, hp, Param.signatureType_single, signatureTokens_single]
    simp only [String.toList_append, List.append_assoc]
    exact lexes_word _ (isNameText_of_isName hname) (endsName_cons (by decide))
      (lexes_blank (lexes_type htype hcs h))
  · have hpoint (rest : List Char) : ∀ d ∈ ('.' :: rest).head?, d.isDigit = false := by simp
    rw [Param.declaration, paramTokens, hp]
    simp only [Param.signatureType, String.toList_append, List.append_assoc]
    exact lexes_word _ (isNameText_of_isName hname) (endsName_cons (by decide))
      (lexes_blank (lexes_point (hpoint _) (lexes_point (hpoint _)
        (lexes_point (not_isDigit_of_isDeclarable helem _) (lexes_type helem hcs h)))))

/-- The text of parameters behind others, up to the closing bracket. -/
def moreParamsText (ps : List Param) (cs : List Char) : List Char :=
  (ps.map fun p => p.declaration.toList).flatMap ([',', ' '] ++ ·) ++ ')' :: cs

theorem endsName_moreParamsText (ps : List Param) (cs : List Char) :
    EndsName (moreParamsText ps cs) := by
  cases ps with
  | nil => exact endsName_cons (by decide)
  | cons p ps => exact endsName_cons (c := ',') (by decide)

theorem lexes_moreParams (hps : ∀ p ∈ ps, p.isPlain = true) (h : Lexes row [] (')' :: cs) ts) :
    Lexes row [] (moreParamsText ps cs) (moreParamTokens row ps ++ ts) := by
  induction ps with
  | nil => exact h
  | cons p ps ih =>
    obtain ⟨hp, hps⟩ := List.forall_mem_cons.1 hps
    rw [moreParamsText, List.map_cons, List.flatMap_cons, moreParamTokens, List.flatMap_cons,
      List.append_assoc, List.append_assoc, List.append_assoc]
    exact lexes_mark (c := ',') (by decide)
      (lexes_blank (lexes_param hp (endsName_moreParamsText ps cs) (ih hps)))

theorem lexes_params (hps : ∀ p ∈ ps, p.isPlain = true) (h : Lexes row [] cs ts) :
    Lexes row gaps ((paramList ps).toList ++ cs) (paramsTokens gaps.reverse row ps ++ ts) := by
  have hclose : Lexes row [] (')' :: cs) (mark ")" [] row :: ts) := lexes_mark (by decide) h
  simp only [paramList, String.toList_append, List.append_assoc, String.toList_intercalate,
    List.map_map]
  cases ps with
  | nil => exact lexes_mark (c := '(') (by decide) hclose
  | cons p ps =>
    obtain ⟨hp, hps⟩ := List.forall_mem_cons.1 hps
    have hjoin : List.intercalate ", ".toList ((p :: ps).map (String.toList ∘ Param.declaration)) =
        p.declaration.toList ++ (ps.map fun p => p.declaration.toList).flatMap ([',', ' '] ++ ·) :=
      Text.join_cons_eq _ _ _
    rw [hjoin, paramsTokens]
    simp only [List.append_assoc, List.cons_append, List.nil_append]
    exact lexes_mark (c := '(') (by decide)
      (lexes_param hp (endsName_moreParamsText ps cs) (lexes_moreParams hps hclose))

/-- A method on a line of its own. -/
theorem lexes_method (hm : m.isPlain = true) (h : Lexes (row + 1) [] cs ts) :
    Lexes row [] ('\n' :: '\t' :: (m.declaration.toList ++ cs))
      (methodTokens (row + 1) m ++ ts) := by
  simp only [Method.isPlain, Bool.and_eq_true, List.all_eq_true] at hm
  obtain ⟨⟨⟨hname, -⟩, hparams⟩, hresults⟩ := hm
  have hopen (cs : List Char) : EndsName ((paramList m.params).toList ++ cs) := by
    simp only [paramList, String.toList_append]
    exact endsName_cons (c := '(') (by decide)
  rw [Method.declaration, methodTokens]
  simp only [String.toList_append, List.append_assoc, List.cons_append]
  refine lexes_line (lexes_tab (lexes_word _ (isNameText_of_isName hname) (hopen _)
    (lexes_params hparams ?_)))
  unfold resultTokens
  split
  · exact h
  · simp only [String.toList_append, List.append_assoc]
    exact lexes_blank (lexes_params hresults h)

/-! ## Reading -/

/-- No type begins with the closing bracket, or with a number. -/
theorem typeAt_eq_none (value : Pass) (n : Nat) {t : Token}
    (ht : t = mark "]" [] row ∨ ∃ len, t = number len [] row) (rest : List Token) :
    typeAt value n false (t :: rest) = none := by
  obtain rfl | ⟨len, rfl⟩ := ht
  all_goals
    rcases n with _ | _ | n
    · rw [typeAt]
    · rw [typeAt]; simp [namedAt]
    · rw [typeAt]; simp [namedAt, name?]

/-- The front of a declarable type behind a blank: a word, a star, or a bracket that holds no
type. -/
inductive BeginsType : List Token → Prop
  | word (text : String) (row : Nat) (rest : List Token) :
      BeginsType (word text [.blank ' '] row :: rest)
  | pointer (row : Nat) (rest : List Token) : BeginsType (mark "*" [.blank ' '] row :: rest)
  | bracket (row : Nat) {inner : List Token} (h : ∀ value n, typeAt value n false inner = none) :
      BeginsType (mark "[" [.blank ' '] row :: inner)

theorem beginsType_tokens (ht : t.isDeclarable = true) (row : Nat) (rest : List Token) :
    BeginsType (t.tokens [.blank ' '] row ++ rest) := by
  cases t with
  | named package name => cases package <;> exact .word _ row _
  | pointer elem => exact .pointer row _
  | slice elem => exact .bracket row fun value n => typeAt_eq_none value n (.inl rfl) _
  | array len elem => exact .bracket row fun value n => typeAt_eq_none value n (.inr ⟨len, rfl⟩) _
  | map key value => exact .word _ row _
  | interface text => exact .word _ row _
  | verbatim => cases ht
  | unknown => cases ht

namespace BeginsType

theorem markIn?_point (h : BeginsType ts) (lines : Bool) : markIn? lines "." ts = none := by
  cases h <;> cases lines <;> rfl

/-- What is in the bracket of a type is no list of type arguments. -/
theorem argsAt_eq_none (h : BeginsType ts) {args : List Token}
    (hargs : markIn? lines "[" ts = some args) (value : Pass) (n : Nat) :
    argsAt value n args = none := by
  have hinner : ∀ n, typeAt value n false args = none := by
    cases h with
    | word text row rest => cases lines <;> cases hargs
    | pointer row rest => cases lines <;> cases hargs
    | @bracket row inner hinner =>
      have hopen : markIn? lines "[" (mark "[" [.blank ' '] row :: inner) = some inner := by
        have hline : ¬ atLineEnd lines (mark "[" [.blank ' '] row :: inner) = true := by
          cases lines <;> simp [atLineEnd, Token.onNewLine]
        rw [markIn?, if_neg hline, mark?_mark rfl]
      obtain rfl := Option.some.inj (hopen.symm.trans hargs)
      exact hinner value
  rcases n with _ | _ | n
  · rw [argsAt]
  · rw [argsAt, unionAt]; rfl
  · rw [argsAt, unionAt, hinner]; rfl

/-- A name in front of a type is read alone, or not at all. -/
theorem namedAt_eq (h : BeginsType ts) (hname : isName name = true) {inner : Bool}
    {r : Read GoType} (hr : namedAt value n lines inner (Go.word name before row :: ts) = some r) :
    r = (.simple name, ts) := by
  cases n with
  | zero => simp [namedAt] at hr
  | succ n =>
    rw [namedAt, name?_word hname] at hr
    simp only [Option.bind_eq_bind, Option.bind_some, h.markIn?_point, Option.pure_def] at hr
    split at hr
    · next args hargs =>
      rw [h.argsAt_eq_none hargs] at hr
      cases hr
    · exact (Option.some.inj hr).symm

theorem typeAt_eq (h : BeginsType ts) (hname : isName name = true) {r : Read GoType}
    (hr : typeAt value n lines (Go.word name before row :: ts) = some r) :
    r = (.simple name, ts) := by
  cases n with
  | zero => simp [typeAt] at hr
  | succ n =>
    rw [typeAt_word hname] at hr
    exact h.namedAt_eq hname hr

end BeginsType

/-- What a parameter is read as before names and types are told apart. -/
def paramEntry (p : Param) : ParamEntry :=
  match p.type, p.variadic with
  | .slice elem, true => .variadic p.name elem
  | type, _ => .named p.name type

theorem paramEntry_single (name : String) (type : GoType) :
    paramEntry ⟨name, type, false⟩ = .named name type := by
  cases type <;> rfl

theorem paramEntry_variadic (name : String) (elem : GoType) :
    paramEntry ⟨name, .slice elem, true⟩ = .variadic name elem := rfl

/-- A name in front of a type is a named parameter. -/
theorem entryAt_named (hname : isName name = true) (hb : BeginsType ts)
    (h : typeAt value n false ts = some (t, rest)) :
    entryAt value (n + 1) (word name before row :: ts) = some (.named name t, rest) := by
  have hdots : mark? "..." (word name before row :: ts) = none := rfl
  have hmore : mark? "..." ts = none := by cases hb <;> rfl
  have hends : (startsWith "," ts || startsWith ")" ts) = false := by cases hb <;> rfl
  -- As the beginning of a type, the name does not end the parameter.
  have hwhole : ∀ r : Read GoType,
      (if (startsWith "." ts || startsWith "[" ts) = true then
        typeAt value n false (word name before row :: ts) else none) = some r →
      ¬ (startsWith "," r.2 || startsWith ")" r.2) = true := by
    intro r hr
    split at hr
    · rw [hb.typeAt_eq hname hr]
      simp [hends]
    · cases hr
  rw [entryAt, hdots, name?_word hname]
  simp only [Option.bind_eq_bind, Option.pure_def, hends, hmore, h,
    Option.filter_eq_none_iff.2 hwhole]
  rfl

theorem entryAt_variadic (hname : isName name = true)
    (h : typeAt value n false ts = some (t, rest)) :
    entryAt value (n + 1) (word name before row ::
        mark "." [.blank ' '] row :: mark "." [] row :: mark "." [] row :: ts) =
      some (.variadic name t, rest) := by
  generalize hbehind : mark "." [.blank ' '] row :: mark "." [] row :: mark "." [] row :: ts = behind
  have hdots : mark? "..." behind = some ts := by
    rw [← hbehind]
    cases ts <;> rfl
  have hends : (startsWith "," behind || startsWith ")" behind) = false := by
    rw [← hbehind]
    rfl
  have hfirst : mark? "..." (word name before row :: behind) = none := rfl
  rw [entryAt, hfirst, name?_word hname]
  simp only [Option.bind_eq_bind, Option.pure_def, hends, hdots, h]
  rfl

theorem entryAt_tokens (hv : PassesNumbers value) (hp : p.isPlain = true)
    (hn : (paramTokens before row p).length < n) (hrest : EndsType false rest) :
    entryAt value n (paramTokens before row p ++ rest) = some (paramEntry p, rest) := by
  obtain ⟨n, rfl⟩ : ∃ m, n = m + 1 := ⟨n - 1, by omega⟩
  obtain ⟨hname, ⟨type, hp, htype⟩ | ⟨elem, hp, helem⟩⟩ := Param.isPlain_cases hp
  · rw [paramTokens, hp, signatureTokens_single, List.length_cons] at hn
    rw [paramTokens, hp, signatureTokens_single, paramEntry_single]
    exact entryAt_named hname (beginsType_tokens htype row rest)
      (typeAt_tokens hv htype (by omega) hrest)
  · rw [paramTokens, hp] at hn ⊢
    simp only [signatureTokens, List.length_cons] at hn
    exact entryAt_variadic hname (typeAt_tokens hv helem (by omega) hrest)

theorem endsType_comma (row : Nat) (rest : List Token) : EndsType false (mark "," [] row :: rest) :=
  ⟨rfl, rfl⟩

theorem endsType_closing (row : Nat) (rest : List Token) :
    EndsType false (mark ")" [] row :: rest) :=
  ⟨rfl, rfl⟩

theorem moreParamTokens_cons (row : Nat) (p : Param) (ps : List Param) :
    moreParamTokens row (p :: ps) =
      mark "," [] row :: (paramTokens [.blank ' '] row p ++ moreParamTokens row ps) :=
  List.flatMap_cons

theorem entriesAt_last {entry : ParamEntry} (hts : mark? ")" ts = none)
    (h : entryAt value n ts = some (entry, mark ")" [] row :: rest)) :
    entriesAt value (n + 1) ts = some ([entry], rest) := by
  have hcomma : mark? "," (mark ")" [] row :: rest) = none := rfl
  have hclose : mark? ")" (mark ")" [] row :: rest) = some rest := mark?_mark rfl _ _ _
  rw [entriesAt, hts, h]
  simp [hcomma, hclose]

theorem entriesAt_more {entry : ParamEntry} {entries : List ParamEntry} {behind : List Token}
    (hts : mark? ")" ts = none) (h : entryAt value n ts = some (entry, mark "," [] row :: behind))
    (hmore : entriesAt value n behind = some (entries, rest)) :
    entriesAt value (n + 1) ts = some (entry :: entries, rest) := by
  have hcomma : mark? "," (mark "," [] row :: behind) = some behind := mark?_mark rfl _ _ _
  rw [entriesAt, hts, h]
  simp [hcomma, hmore]

/-- Parameters up to the closing bracket, at least one. -/
theorem entriesAt_tokens (hv : PassesNumbers value) (hp : p.isPlain = true)
    (hps : ∀ p ∈ ps, p.isPlain = true)
    (hn : (paramTokens before row p).length + (moreParamTokens row ps).length + 1 < n) :
    entriesAt value n
        (paramTokens before row p ++ (moreParamTokens row ps ++ mark ")" [] row :: rest)) =
      some ((p :: ps).map paramEntry, rest) := by
  induction ps generalizing p before n with
  | nil =>
    obtain ⟨n, rfl⟩ : ∃ m, n = m + 1 := ⟨n - 1, by omega⟩
    exact entriesAt_last rfl (entryAt_tokens hv hp (by omega) (endsType_closing row rest))
  | cons q ps ih =>
    obtain ⟨hq, hps⟩ := List.forall_mem_cons.1 hps
    obtain ⟨n, rfl⟩ : ∃ m, n = m + 1 := ⟨n - 1, by omega⟩
    rw [moreParamTokens_cons, List.length_cons, List.length_append] at hn
    rw [moreParamTokens_cons, List.cons_append, List.append_assoc]
    exact entriesAt_more rfl (entryAt_tokens hv hp (by omega) (endsType_comma row _))
      (ih hq hps (by omega))

/-- Plain parameters keep their names and types. -/
theorem entryParams_map (hps : ∀ p ∈ ps, p.isPlain = true) :
    entryParams [] (ps.map paramEntry) = ps := by
  induction ps with
  | nil => rfl
  | cons p ps ih =>
    obtain ⟨hp, hps⟩ := List.forall_mem_cons.1 hps
    obtain ⟨-, ⟨type, hp, -⟩ | ⟨elem, hp, -⟩⟩ := Param.isPlain_cases hp
    · rw [List.map_cons, hp, paramEntry_single, entryParams, ih hps]
      rfl
    · rw [List.map_cons, hp, paramEntry_variadic, entryParams, ih hps]
      rfl

/-- Parameters are read from their tokens. -/
theorem paramsAt_tokens (hv : PassesNumbers value) (hps : ∀ p ∈ ps, p.isPlain = true)
    (hn : (paramsTokens before row ps).length + 1 < n) (rest : List Token) :
    paramsAt value n (paramsTokens before row ps ++ rest) = some (ps, rest) := by
  obtain ⟨n, rfl⟩ : ∃ m, n = m + 2 := ⟨n - 2, by omega⟩
  cases ps with
  | nil =>
    have hcomma : mark? "," (mark ")" [] row :: rest) = none := rfl
    have hentries : entriesAt value (n + 1) (mark ")" [] row :: rest) = some ([], rest) := by
      rw [entriesAt, mark?_mark rfl]
    have hsplit : paramsTokens before row [] ++ rest =
        mark "(" before row :: mark ")" [] row :: rest := rfl
    rw [hsplit, paramsAt, mark?_mark rfl]
    simp [hcomma, hentries, entryParams]
  | cons p ps =>
    obtain ⟨hp, hps'⟩ := List.forall_mem_cons.1 hps
    simp only [paramsTokens, List.length_cons, List.length_append, List.length_nil] at hn
    have hsplit : paramsTokens before row (p :: ps) ++ rest = mark "(" before row ::
        (paramTokens [] row p ++ (moreParamTokens row ps ++ mark ")" [] row :: rest)) := by
      simp [paramsTokens]
    have hcomma : mark? "," (paramTokens [] row p ++
        (moreParamTokens row ps ++ mark ")" [] row :: rest)) = none := rfl
    have hentries : entriesAt value (n + 1) (paramTokens [] row p ++
        (moreParamTokens row ps ++ mark ")" [] row :: rest)) =
          some ((p :: ps).map paramEntry, rest) :=
      entriesAt_tokens hv hp hps' (by omega)
    rw [hsplit, paramsAt, mark?_mark rfl]
    simpa [hcomma, hentries] using entryParams_map hps

/-- The next token stands on a new line. -/
def BeginsLine (rest : List Token) : Prop := ∃ t more, rest = t :: more ∧ t.onNewLine = true

theorem BeginsLine.atLineEnd (h : BeginsLine rest) : atLineEnd true rest = true := by
  obtain ⟨t, more, rfl, ht⟩ := h
  simp [Go.atLineEnd, ht]

theorem exists_paramsTokens (before : List Gap) (row : Nat) (ps : List Param) (rest : List Token) :
    ∃ inner, paramsTokens before row ps ++ rest = mark "(" before row :: inner :=
  ⟨_, rfl⟩

/-- Results are read from their tokens. There are none at the end of a line. -/
theorem resultAt_tokens (hv : PassesNumbers value) (hps : ∀ p ∈ ps, p.isPlain = true)
    (hn : (resultTokens row ps).length + 2 < n) (hrest : BeginsLine rest) :
    resultAt value n true (resultTokens row ps ++ rest) = some (ps, rest) := by
  obtain ⟨n, rfl⟩ : ∃ m, n = m + 1 := ⟨n - 1, by omega⟩
  cases ps with
  | nil =>
    rw [resultAt]
    simp [resultTokens, hrest.atLineEnd]
  | cons p ps =>
    have hresult : resultTokens row (p :: ps) = paramsTokens [.blank ' '] row (p :: ps) := rfl
    rw [hresult] at hn ⊢
    have hread : paramsAt value n (paramsTokens [.blank ' '] row (p :: ps) ++ rest) =
        some (p :: ps, rest) := paramsAt_tokens hv hps (by omega) rest
    obtain ⟨inner, hinner⟩ := exists_paramsTokens [.blank ' '] row (p :: ps) rest
    have hline : atLineEnd true (mark "(" [.blank ' '] row :: inner) = false := rfl
    rw [hinner] at hread ⊢
    rw [resultAt, hline, startsWith, mark?_mark rfl]
    exact hread

/-- A method is read from its tokens, up to the rows where it stands. -/
theorem exists_elementAt (hv : PassesNumbers value) (hm : m.isPlain = true)
    (hn : (methodTokens row m).length + 2 < n) (hrest : BeginsLine rest) :
    ∃ startRow endRow, elementAt value n (methodTokens row m ++ rest) =
      some (.method m startRow endRow, rest) := by
  simp only [Method.isPlain, Bool.and_eq_true, List.all_eq_true, beq_iff_eq] at hm
  obtain ⟨⟨⟨hname, hdoc⟩, hparams⟩, hresults⟩ := hm
  obtain ⟨n, rfl⟩ : ∃ m, n = m + 1 := ⟨n - 1, by omega⟩
  simp only [methodTokens, List.length_cons, List.length_append] at hn
  have hread : paramsAt value n (paramsTokens [] row m.params ++
      (resultTokens row m.results ++ rest)) =
        some (m.params, resultTokens row m.results ++ rest) :=
    paramsAt_tokens hv hparams (by omega) _
  have hresult : resultAt value n true (resultTokens row m.results ++ rest) =
      some (m.results, rest) := resultAt_tokens hv hresults (by omega) hrest
  obtain ⟨inner, hinner⟩ := exists_paramsTokens [] row m.params (resultTokens row m.results ++ rest)
  have hopen : startsIn true "(" (mark "(" [] row :: inner) = true := by
    rw [startsIn, markIn?_of_no_gaps true _ _ rfl, mark?_mark rfl]
    rfl
  have hfilter : (some (m.name, mark "(" [] row :: inner)).filter
      (fun read => startsIn true "(" read.2) = some (m.name, mark "(" [] row :: inner) := by
    rw [Option.filter_some, if_pos hopen]
  rw [hinner] at hread
  rw [methodTokens, List.cons_append, List.append_assoc, hinner, elementAt, name?_word hname]
  refine ⟨row, ((upTo (word m.name [.blank '\n', .blank '\t'] row :: mark "(" [] row :: inner)
    rest).getLast?.map (·.endRow)).getD 0, ?_⟩
  obtain ⟨name, doc, params, results⟩ := m
  subst hdoc
  simp [hfilter, hread, hresult]

end Go

end QueryGen
