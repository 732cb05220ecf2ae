import QueryGen.Proofs.Go.Signatures

/-!
# Files that are written and read

- `GoFile.source`: a file with a package and types, as Go spells them.
- `GoFile.isPlain`: files whose structs have plain fields and whose interfaces have plain methods.
- `stacked`: the tokens of declarations below each other. `lexes_stacked`, `partsFrom_stacked`: what
  is written there and what is read.
- `parse?_source`: a plain file is read from what is written of it. `types_readBack`: so declarable
  types with different texts are told apart, and those with one text are the same.
-/

namespace QueryGen

/-! ## What is written -/

/-- A field as Go spells it. -/
def StructField.declaration (f : StructField) : String := f.name ++ " " ++ f.type.text

/-- Whether a field has a name, a declarable type, and no tag. -/
def StructField.isPlain (f : StructField) : Bool :=
  Go.isName f.name && f.type.isDeclarable && f.tag == none && !f.embedded

namespace Go

variable {α β : Type}

/-- Lines below each other. -/
def linesText (text : α → List Char) (as : List α) : List Char := as.flatMap fun a => '\n' :: text a

/-- A type whose body has a line for each of its parts. -/
def bodyText (keyword name : String) (declaration : α → String) (as : List α) : List Char :=
  "type ".toList ++ (name.toList ++ (' ' :: (keyword.toList ++ (" \x7b".toList ++
    (linesText (fun a => '\t' :: (declaration a).toList) as ++ ['\n', '\x7d'])))))

/-- A type that is given a name. -/
def TypeSpec.source : TypeSpec → List Char
  | .struct d => bodyText "struct" d.name StructField.declaration d.fields
  | .interface d => bodyText "interface" d.name Method.declaration d.methods
  | .other => []

/-- Whether a type has a name, and all of its fields or methods are plain. -/
def TypeSpec.isPlain : TypeSpec → Bool
  | .struct d => isName d.name && d.fields.all StructField.isPlain
  | .interface d => isName d.name && d.methods.all Method.isPlain
  | .other => false

end Go

namespace GoFile

/-- The types of a file, structs first. -/
def specs (file : GoFile) : List Go.TypeSpec :=
  file.structs.map .struct ++ file.interfaces.map .interface

/-- A file as Go spells it: its package and its types. -/
def source (file : GoFile) : String :=
  .ofList ("package ".toList ++ (file.package.toList ++
    (Go.linesText Go.TypeSpec.source file.specs ++ ['\n'])))

/-- Whether a file has a package, no imports, and plain types only. -/
def isPlain (file : GoFile) : Bool :=
  Go.isName file.package && file.imports.isEmpty && file.specs.all Go.TypeSpec.isPlain

end GoFile

namespace Go

variable {α β : Type} {row n : Nat} {name : String} {f : StructField} {value : Pass}
  {cs : List Char} {ts rest : List Token}

/-! ## Declarations below each other -/

section Stacked

variable {height : α → Nat} {tokens : Nat → α → List Token} {text : α → List Char} {as : List α}

/-- The tokens of declarations below each other, which begin below the given row. -/
def stacked (height : α → Nat) (tokens : Nat → α → List Token) : Nat → List α → List Token
  | _, [] => []
  | row, a :: as => tokens (row + 1) a ++ stacked height tokens (row + height a) as

/-- The row where the last of them ends. -/
def bottom (height : α → Nat) : Nat → List α → Nat
  | row, [] => row
  | row, a :: as => bottom height (row + height a) as

theorem bottom_add (row above : Nat) (as : List α) :
    bottom height (row + above) as = row + bottom height above as := by
  induction as generalizing above with
  | nil => rfl
  | cons a as ih => rw [bottom, bottom, Nat.add_assoc, ih]

theorem endsName_linesText (as : List α) (hcs : EndsName cs) :
    EndsName (linesText text as ++ cs) := by
  cases as with
  | nil => exact hcs
  | cons a as => exact endsName_cons (c := '\n') (by decide)

theorem lexes_stacked (hone : ∀ a ∈ as, ∀ row cs ts, EndsName cs → Lexes (row + height a) [] cs ts →
      Lexes row [] ('\n' :: (text a ++ cs)) (tokens (row + 1) a ++ ts))
    (hcs : EndsName cs) (h : Lexes (bottom height row as) [] cs ts) :
    Lexes row [] (linesText text as ++ cs) (stacked height tokens row as ++ ts) := by
  induction as generalizing row with
  | nil => exact h
  | cons a as ih =>
    obtain ⟨ha, has⟩ := List.forall_mem_cons.1 hone
    have hrest := ih has h
    rw [linesText, List.flatMap_cons, List.cons_append, List.cons_append, List.append_assoc,
      stacked, List.append_assoc]
    exact ha row _ _ (endsName_linesText as hcs) hrest

theorem beginsLine_stacked (hone : ∀ a ∈ as, ∀ row rest, BeginsLine (tokens row a ++ rest))
    (hts : BeginsLine ts) : BeginsLine (stacked height tokens row as ++ ts) := by
  cases as with
  | nil => exact hts
  | cons a as =>
    rw [stacked, List.append_assoc]
    exact hone a List.mem_cons_self _ _

/-- Declarations below each other are read one by one. -/
theorem partsFrom_stacked {done : List Token → Option (List Token)}
    {part : List Token → List (Read (List β))} {declared : α → β} {bound : Nat}
    (hbegins : ∀ a ∈ as, ∀ row rest, BeginsLine (tokens row a ++ rest))
    (hone : ∀ a ∈ as, ∀ row rest, (tokens row a).length ≤ bound → BeginsLine rest →
      done (tokens row a ++ rest) = none ∧ part (tokens row a ++ rest) = [([declared a], rest)])
    (hbound : (stacked height tokens row as).length ≤ bound) (hts : BeginsLine ts)
    (hdone : done ts = some rest) (hn : as.length < n) (read : List β) :
    partsFrom done part n [(read, stacked height tokens row as ++ ts)] =
      some (read.reverse ++ as.map declared, rest) := by
  induction as generalizing row n read with
  | nil =>
    obtain ⟨n, rfl⟩ : ∃ m, n = m + 1 := ⟨n - 1, by simp at hn; omega⟩
    rw [stacked, List.nil_append, partsFrom, hdone, List.map_nil, List.append_nil]
  | cons a as ih =>
    obtain ⟨ha, has⟩ := List.forall_mem_cons.1 hone
    rw [stacked, List.length_append] at hbound
    rw [List.length_cons] at hn
    obtain ⟨n, rfl⟩ : ∃ m, n = m + 1 := ⟨n - 1, by omega⟩
    have hrest : BeginsLine (stacked height tokens (row + height a) as ++ ts) :=
      beginsLine_stacked (fun b hb => hbegins b (List.mem_cons_of_mem a hb)) hts
    obtain ⟨hnone, hpart⟩ := ha (row + 1) _ (by omega) hrest
    have hbelow : (stacked height tokens (row + height a) as).length ≤ bound := by omega
    have hread := ih (fun b hb => hbegins b (List.mem_cons_of_mem a hb)) has hbelow
      (Nat.lt_of_succ_lt_succ hn) (declared a :: read)
    rw [stacked, List.append_assoc, partsFrom, hnone, hpart]
    simpa [addProgress] using hread

theorem length_le_stacked (hbegins : ∀ a ∈ as, ∀ row rest, BeginsLine (tokens row a ++ rest)) :
    as.length ≤ (stacked height tokens row as).length := by
  induction as generalizing row with
  | nil => exact Nat.zero_le _
  | cons a as ih =>
    have hrest : as.length ≤ (stacked height tokens (row + height a) as).length :=
      ih fun b hb => hbegins b (List.mem_cons_of_mem a hb)
    obtain ⟨t, more, ht, -⟩ := hbegins a List.mem_cons_self (row + 1) []
    have hlength := congrArg List.length ht
    rw [List.append_nil, List.length_cons] at hlength
    rw [stacked, List.length_append, List.length_cons]
    omega

/-! ## Bodies -/

/-- The rows of a type whose body has a line for each of its parts. -/
def bodyHeight (as : List α) : Nat := bottom (fun _ => 1) 1 as + 1

/-- The tokens of a type whose body has a line for each of its parts. -/
def bodyTokens (keyword name : String) (tokens : Nat → α → List Token) (row : Nat) (as : List α) :
    List Token :=
  word "type" [.blank '\n'] row :: word name [.blank ' '] row :: word keyword [.blank ' '] row ::
    mark "\x7b" [.blank ' '] row :: (stacked (fun _ => 1) tokens row as ++
      [mark "\x7d" [.blank '\n'] (bottom (fun _ => 1) row as + 1)])

theorem lexes_body {keyword : String} {declaration : α → String}
    (hkeyword : isNameText keyword.toList = true) (hname : isName name = true)
    (hone : ∀ a ∈ as, ∀ row cs ts, EndsName cs → Lexes (row + 1) [] cs ts →
      Lexes row [] ('\n' :: ('\t' :: (declaration a).toList ++ cs)) (tokens (row + 1) a ++ ts))
    (h : Lexes (row + bodyHeight as) [] cs ts) :
    Lexes row [] ('\n' :: (bodyText keyword name declaration as ++ cs))
      (bodyTokens keyword name tokens (row + 1) as ++ ts) := by
  have hbottom : Lexes (bottom (fun _ => 1) (row + 1) as + 1) [] cs ts := by
    rwa [bottom_add, Nat.add_assoc]
  have hlines : Lexes (row + 1) [] (linesText (fun a => '\t' :: (declaration a).toList) as ++
      '\n' :: '\x7d' :: cs) (stacked (fun _ => 1) tokens (row + 1) as ++
        mark "\x7d" [.blank '\n'] (bottom (fun _ => 1) (row + 1) as + 1) :: ts) :=
    lexes_stacked hone (endsName_cons (by decide))
      (lexes_line (lexes_mark (c := '\x7d') (by decide) hbottom))
  unfold bodyText bodyTokens
  simp only [List.append_assoc, List.cons_append, List.nil_append]
  exact lexes_line (lexes_word "type" (by decide) (endsName_cons (c := ' ') (by decide))
    (lexes_blank (lexes_word _ (isNameText_of_isName hname) (endsName_cons (by decide))
      (lexes_blank (lexes_word _ hkeyword (endsName_cons (c := ' ') (by decide))
        (lexes_blank (lexes_mark (c := '\x7b') (by decide) hlines)))))))

end Stacked

/-! ## Fields -/

def fieldTokens (row : Nat) (f : StructField) : List Token :=
  word f.name [.blank '\n', .blank '\t'] row :: f.type.tokens [.blank ' '] row

theorem lexes_field (hf : f.isPlain = true) (hcs : EndsName cs) (h : Lexes (row + 1) [] cs ts) :
    Lexes row [] ('\n' :: '\t' :: (f.declaration.toList ++ cs))
      (fieldTokens (row + 1) f ++ ts) := by
  simp only [StructField.isPlain, Bool.and_eq_true] at hf
  obtain ⟨⟨⟨hname, htype⟩, -⟩, -⟩ := hf
  rw [StructField.declaration, fieldTokens]
  simp only [String.toList_append, List.append_assoc]
  exact lexes_line (lexes_tab (lexes_word _ (isNameText_of_isName hname)
    (endsName_cons (c := ' ') (by decide)) (lexes_blank (lexes_type htype hcs h))))

theorem BeginsLine.endsType (h : BeginsLine rest) : EndsType true rest := by
  constructor
  · rw [markIn?, if_pos h.atLineEnd]
  · rw [markIn?, if_pos h.atLineEnd]

theorem BeginsLine.endAt (h : BeginsLine rest) : endAt rest = some rest := by
  obtain ⟨t, more, rfl, ht⟩ := h
  rw [Go.endAt, if_pos ht]

/-- A field without a tag ends with its line. -/
theorem BeginsLine.withTag (h : BeginsLine rest) (make : Option String → α) :
    withTag make rest = some (make none, rest) := by
  obtain ⟨t, more, rfl, ht⟩ := h
  simp [Go.withTag, tagAt, endsField, ht]

/-- No field ends in front of a type. -/
theorem BeginsType.withTag_eq_none (h : BeginsType ts) (make : Option String → α) :
    Go.withTag make ts = none := by
  cases h <;> rfl

theorem BeginsType.embeddableAt_eq (h : BeginsType ts) (hname : isName name = true)
    {before : List Gap} {r : Read GoType}
    (hr : embeddableAt value n (Go.word name before row :: ts) = some r) :
    r = (.simple name, ts) := by
  cases n with
  | zero => simp [embeddableAt] at hr
  | succ n =>
    have htilde : ¬ startsWith "~" (Go.word name before row :: ts) = true := Bool.false_ne_true
    rw [embeddableAt, if_neg htilde] at hr
    exact h.namedAt_eq hname hr

/-- A name in front of a type is no embedded field. -/
theorem BeginsType.embeddedAt_eq_none (h : BeginsType ts) (hname : isName name = true)
    (before : List Gap) (row : Nat) :
    embeddedAt value n (Go.word name before row :: ts) = none := by
  cases n with
  | zero => rw [embeddedAt]
  | succ n =>
    have hstar : mark? "*" (Go.word name before row :: ts) = none := rfl
    rw [embeddedAt, hstar]
    cases hread : embeddableAt value n (Go.word name before row :: ts) with
    | none => rfl
    | some r =>
      obtain rfl := h.embeddableAt_eq hname hread
      simp [h.withTag_eq_none]

/-- Neither a line end nor a comma stands in front of a type. -/
theorem BeginsType.atFront (h : BeginsType ts) :
    atLineEnd true ts = false ∧ mark? "," ts = none := by
  cases h <;> exact ⟨rfl, rfl⟩

theorem namedFieldAt_tokens (hv : PassesNumbers value) (hf : f.isPlain = true)
    (hn : (fieldTokens row f).length < n) (hrest : BeginsLine rest) :
    namedFieldAt value n (fieldTokens row f ++ rest) = some ([f], rest) := by
  obtain ⟨n, rfl⟩ : ∃ m, n = m + 1 := ⟨n - 1, by omega⟩
  obtain ⟨name, type, tag, embedded⟩ := f
  simp only [StructField.isPlain, Bool.and_eq_true, beq_iff_eq, Bool.not_eq_true'] at hf
  obtain ⟨⟨⟨hname, htype⟩, rfl⟩, rfl⟩ := hf
  simp only [fieldTokens, List.length_cons] at hn
  have hread : typeAt value n true (type.tokens [.blank ' '] row ++ rest) = some (type, rest) :=
    typeAt_tokens hv htype (by omega) hrest.endsType
  have hfront := (beginsType_tokens htype row rest).atFront
  rw [fieldTokens, List.cons_append, namedFieldAt, name?_word hname]
  simp [hfront, hread, hrest.withTag]

/-- A field is read in one way only. -/
theorem fieldAt_tokens (hv : PassesNumbers value) (hf : f.isPlain = true)
    (hn : (fieldTokens row f).length + 1 < n) (hrest : BeginsLine rest) :
    fieldAt value n (fieldTokens row f ++ rest) = [([f], rest)] := by
  obtain ⟨n, rfl⟩ : ∃ m, n = m + 1 := ⟨n - 1, by omega⟩
  have hnamed : namedFieldAt value n (fieldTokens row f ++ rest) = some ([f], rest) :=
    namedFieldAt_tokens hv hf (by omega) hrest
  have hembedded : embeddedAt value n (fieldTokens row f ++ rest) = none := by
    simp only [StructField.isPlain, Bool.and_eq_true] at hf
    exact (beginsType_tokens hf.1.1.2 row rest).embeddedAt_eq_none hf.1.1.1 _ row
  rw [fieldAt, hnamed, hembedded]
  simp [hrest.endAt]

theorem beginsLine_field (f : StructField) (row : Nat) (rest : List Token) :
    BeginsLine (fieldTokens row f ++ rest) := ⟨_, _, rfl, rfl⟩

theorem beginsLine_method (m : Method) (row : Nat) (rest : List Token) :
    BeginsLine (methodTokens row m ++ rest) := ⟨_, _, rfl, rfl⟩

theorem beginsLine_closing (row : Nat) (rest : List Token) :
    BeginsLine (mark "\x7d" [.blank '\n'] row :: rest) := ⟨_, _, rfl, rfl⟩

/-- The fields of a struct are read from their tokens. -/
theorem fieldsAt_tokens {fields : List StructField} (hv : PassesNumbers value)
    (hfields : ∀ f ∈ fields, f.isPlain = true)
    (hn : (stacked (fun _ => 1) fieldTokens row fields).length + 2 < n) (last : Nat) :
    fieldsAt value n (stacked (fun _ => 1) fieldTokens row fields ++
      mark "\x7d" [.blank '\n'] last :: rest) = some (fields, rest) := by
  obtain ⟨n, rfl⟩ : ∃ m, n = m + 1 := ⟨n - 1, by omega⟩
  have hbegins : ∀ f ∈ fields, ∀ row rest, BeginsLine (fieldTokens row f ++ rest) :=
    fun f _ => beginsLine_field f
  have hlength : fields.length ≤ (stacked (fun _ => 1) fieldTokens row fields).length :=
    length_le_stacked hbegins
  have hone : ∀ f ∈ fields, ∀ r rest,
      (fieldTokens r f).length ≤ (stacked (fun _ => 1) fieldTokens row fields).length →
        BeginsLine rest → mark? "\x7d" (fieldTokens r f ++ rest) = none ∧
          fieldAt value n (fieldTokens r f ++ rest) = [([id f], rest)] :=
    fun f hf r rest hlen hrest =>
      ⟨rfl, fieldAt_tokens hv (hfields f hf) (by omega) hrest⟩
  have hread : partsFrom (mark? "\x7d") (fieldAt value n) n
      [([], stacked (fun _ => 1) fieldTokens row fields ++
        mark "\x7d" [.blank '\n'] last :: rest)] = some ([].reverse ++ fields.map id, rest) :=
    partsFrom_stacked hbegins hone (Nat.le_refl _) (beginsLine_closing last rest)
      (mark?_mark rfl _ _ _) (by omega) []
  rw [fieldsAt, hread, List.map_id]
  rfl

/-- An element without comments, and what stands on the lines below. -/
theorem itemsAt_cons {t : Token} {item : BodyItem} {items : List BodyItem} {more : List Token}
    (hcomments : t.comments = []) (hclose : t.isMark "\x7d" = false)
    (h : elementAt value n (t :: ts) = some (item, more)) (hmore : BeginsLine more)
    (hitems : itemsAt value n more = some (items, rest)) :
    itemsAt value (n + 1) (t :: ts) = some (item :: items, rest) := by
  have hend : commentsAtEnd more = [] := by
    obtain ⟨u, rest, rfl, hu⟩ := hmore
    simp [commentsAtEnd, hu]
  rw [itemsAt]
  simp [hcomments, hclose, h, hend, hmore.endAt, hitems]

/-- The methods of an interface are read from their tokens, and there are no comments. -/
theorem exists_itemsAt {methods : List Method} (hv : PassesNumbers value)
    (hmethods : ∀ m ∈ methods, m.isPlain = true)
    (hn : (stacked (fun _ => 1) methodTokens row methods).length + 3 < n) (last : Nat) :
    ∃ items, itemsAt value n (stacked (fun _ => 1) methodTokens row methods ++
        mark "\x7d" [.blank '\n'] last :: rest) = some (items, rest) ∧
      ∀ p : PendingDoc, p.endRow = none → attachDocs p items = methods := by
  -- Without comments nothing is pending behind a method either, whatever its row.
  induction methods generalizing row n with
  | nil =>
    obtain ⟨n, rfl⟩ : ∃ m, n = m + 1 := ⟨n - 1, by omega⟩
    refine ⟨[], ?_, fun p _ => rfl⟩
    rw [stacked, List.nil_append, itemsAt]
    rfl
  | cons m methods ih =>
    obtain ⟨hm, hmethods⟩ := List.forall_mem_cons.1 hmethods
    rw [stacked, List.length_append] at hn
    obtain ⟨n, rfl⟩ : ∃ m, n = m + 1 := ⟨n - 1, by omega⟩
    have hpositive : 0 < (methodTokens (row + 1) m).length := Nat.succ_pos _
    have hmore : BeginsLine (stacked (fun _ => 1) methodTokens (row + 1) methods ++
        mark "\x7d" [.blank '\n'] last :: rest) :=
      beginsLine_stacked (fun m _ => beginsLine_method m) (beginsLine_closing last rest)
    have hbelow : (stacked (fun _ => 1) methodTokens (row + 1) methods).length + 3 < n := by omega
    obtain ⟨items, hitems, hattach⟩ := ih hmethods hbelow
    have hfuel : (methodTokens (row + 1) m).length + 2 < n := by omega
    obtain ⟨firstRow, lastRow, hread⟩ := exists_elementAt hv hm hfuel hmore
    refine ⟨.method m firstRow lastRow :: items, ?_, fun p hp => ?_⟩
    · rw [stacked, List.append_assoc]
      exact itemsAt_cons rfl rfl hread hmore hitems
    · have hdoc : m.doc = "" := by
        simp only [Method.isPlain, Bool.and_eq_true, beq_iff_eq] at hm
        exact hm.1.1.2
      rw [attachDocs, hattach _ rfl, PendingDoc.docFor, hp, if_neg (by simp), ← hdoc]

/-! ## Types with names -/

variable {spec : TypeSpec} {keyword : String}

def TypeSpec.tokens (row : Nat) : TypeSpec → List Token
  | .struct d => bodyTokens "struct" d.name fieldTokens row d.fields
  | .interface d => bodyTokens "interface" d.name methodTokens row d.methods
  | .other => []

/-- How many rows are written. -/
def TypeSpec.height : TypeSpec → Nat
  | .struct d => bodyHeight d.fields
  | .interface d => bodyHeight d.methods
  | .other => 0

theorem lexes_spec (hspec : spec.isPlain = true) (h : Lexes (row + spec.height) [] cs ts) :
    Lexes row [] ('\n' :: (spec.source ++ cs)) (spec.tokens (row + 1) ++ ts) := by
  cases spec with
  | struct d =>
    obtain ⟨hname, hfields⟩ := Bool.and_eq_true_iff.1 hspec
    exact lexes_body (by decide) hname
      (fun f hf row cs ts => lexes_field (List.all_eq_true.1 hfields f hf)) h
  | interface d =>
    obtain ⟨hname, hmethods⟩ := Bool.and_eq_true_iff.1 hspec
    exact lexes_body (by decide) hname
      (fun m hm row cs ts _ => lexes_method (List.all_eq_true.1 hmethods m hm)) h
  | other => cases hspec

theorem declaredTypeAt_struct {fields : List StructField} (hv : PassesNumbers value)
    (hfields : ∀ f ∈ fields, f.isPlain = true)
    (hn : (stacked (fun _ => 1) fieldTokens row fields).length + 2 < n) (name : String)
    (last : Nat) (rest : List Token) :
    declaredTypeAt value n name (word "struct" [.blank ' '] row :: mark "\x7b" [.blank ' '] row ::
        (stacked (fun _ => 1) fieldTokens row fields ++ mark "\x7d" [.blank '\n'] last :: rest)) =
      some (.struct ⟨name, fields⟩, rest) := by
  rw [declaredTypeAt, mark?_mark rfl]
  simp [Token.isWord, fieldsAt_tokens hv hfields hn]

theorem declaredTypeAt_interface {methods : List Method} (hv : PassesNumbers value)
    (hmethods : ∀ m ∈ methods, m.isPlain = true)
    (hn : (stacked (fun _ => 1) methodTokens row methods).length + 3 < n) (name : String)
    (last : Nat) (rest : List Token) :
    declaredTypeAt value n name (word "interface" [.blank ' '] row ::
        mark "\x7b" [.blank ' '] row ::
        (stacked (fun _ => 1) methodTokens row methods ++ mark "\x7d" [.blank '\n'] last :: rest)) =
      some (.interface ⟨name, methods⟩, rest) := by
  obtain ⟨items, hitems, hattach⟩ : ∃ items, itemsAt value n
      (stacked (fun _ => 1) methodTokens row methods ++ mark "\x7d" [.blank '\n'] last :: rest) =
        some (items, rest) ∧ ∀ p : PendingDoc, p.endRow = none → attachDocs p items = methods :=
    exists_itemsAt hv hmethods hn last
  have hcomments : (mark "\x7b" [.blank ' '] row).comments = [] := rfl
  rw [declaredTypeAt, mark?_mark rfl]
  simp [Token.isWord, hitems, hcomments, hattach {} rfl]

/-- A type with a name is read in one way only. -/
theorem specsAt_name (hname : isName name = true) (h : declaredTypeAt (valueAt n) n name
      (word keyword [.blank ' '] row :: ts) = some (spec, rest)) :
    specsAt (typeSpecAt (valueAt n) n) true n
        (word name [.blank ' '] row :: word keyword [.blank ' '] row :: ts) =
      [([spec], rest)] := by
  have hopen : mark? "(" (word name [.blank ' '] row :: word keyword [.blank ' '] row :: ts) =
      none := rfl
  have halias : mark? "=" (word keyword [.blank ' '] row :: ts) = none := rfl
  have hgeneric : genericSpecAt (valueAt n) n name (word keyword [.blank ' '] row :: ts) =
      none := rfl
  rw [specsAt, hopen]
  simp [typeSpecAt, name?_word hname, hgeneric, definitionAt, halias, h]

/-- What begins with the keyword is a declaration of types. -/
theorem declarationAt_type (h : specsAt (typeSpecAt (valueAt n) n) true n ts = [([spec], rest)]) :
    declarationAt n (word "type" [.blank '\n'] row :: ts) = [(.types [spec], rest)] := by
  have hread : declarationAt n (word "type" [.blank '\n'] row :: ts) =
      (specsAt (typeSpecAt (valueAt n) n) true n ts).map
        fun read => (.types read.1, read.2) := rfl
  rw [hread, h]
  rfl

theorem declarationAt_body {as : List α} {tokens : Nat → α → List Token}
    (hname : isName name = true)
    (h : declaredTypeAt (valueAt n) n name (word keyword [.blank ' '] row ::
      mark "\x7b" [.blank ' '] row :: (stacked (fun _ => 1) tokens row as ++
        mark "\x7d" [.blank '\n'] (bottom (fun _ => 1) row as + 1) :: rest)) = some (spec, rest)) :
    declarationAt n (bodyTokens keyword name tokens row as ++ rest) = [(.types [spec], rest)] := by
  rw [bodyTokens]
  simp only [List.cons_append, List.append_assoc, List.nil_append]
  exact declarationAt_type (specsAt_name hname h)

/-- A plain type is read from its tokens. -/
theorem declarationAt_spec (hspec : spec.isPlain = true) (hn : (spec.tokens row).length < n)
    (rest : List Token) : declarationAt n (spec.tokens row ++ rest) = [(.types [spec], rest)] := by
  cases spec with
  | struct d =>
    obtain ⟨hname, hfields⟩ := Bool.and_eq_true_iff.1 hspec
    simp only [TypeSpec.tokens, bodyTokens, List.length_cons, List.length_append,
      List.length_nil] at hn
    exact declarationAt_body hname (declaredTypeAt_struct (valueAt_passesNumbers (by omega))
      (List.all_eq_true.1 hfields) (by omega) d.name _ rest)
  | interface d =>
    obtain ⟨hname, hmethods⟩ := Bool.and_eq_true_iff.1 hspec
    simp only [TypeSpec.tokens, bodyTokens, List.length_cons, List.length_append,
      List.length_nil] at hn
    exact declarationAt_body hname (declaredTypeAt_interface (valueAt_passesNumbers (by omega))
      (List.all_eq_true.1 hmethods) (by omega) d.name _ rest)
  | other => cases hspec

theorem declarationAt_package (hname : isName name = true) (rest : List Token) :
    declarationAt n (word "package" [] 0 :: word name [.blank ' '] 0 :: rest) =
      [(.package name, rest)] := by
  have hread : declarationAt n (word "package" [] 0 :: word name [.blank ' '] 0 :: rest) =
      ((name? (word name [.blank ' '] 0 :: rest)).map
        fun read => (Declaration.package read.1, read.2)).toList := rfl
  rw [hread, name?_word hname]
  rfl

/-- A declaration goes up to the next line. -/
theorem nextDeclarationAt_eq {d : Declaration} (h : declarationAt n ts = [(d, rest)])
    (hrest : BeginsLine rest) : nextDeclarationAt n ts = [([d], rest)] := by
  rw [nextDeclarationAt, h]
  simp [Declaration.next?, hrest.endAt]

/-! ## Files -/

theorem exists_specTokens (hspec : spec.isPlain = true) (row : Nat) (rest : List Token) :
    ∃ more, spec.tokens row ++ rest = word "type" [.blank '\n'] row :: more := by
  cases spec with
  | struct d => exact ⟨_, rfl⟩
  | interface d => exact ⟨_, rfl⟩
  | other => cases hspec

theorem beginsLine_spec (hspec : spec.isPlain = true) (row : Nat) (rest : List Token) :
    BeginsLine (spec.tokens row ++ rest) := by
  obtain ⟨more, hmore⟩ := exists_specTokens hspec row rest
  rw [hmore]
  exact ⟨_, _, rfl, rfl⟩

/-- The end of a text that ends with a line. -/
def lastToken (row : Nat) : Token := ⟨.ending, "", [.blank '\n'], row, row⟩

theorem beginsLine_last (row : Nat) : BeginsLine [lastToken row] := ⟨_, _, rfl, rfl⟩

/-- The tokens of types behind the package clause. -/
def specsTokens (specs : List TypeSpec) : List Token :=
  stacked TypeSpec.height TypeSpec.tokens 0 specs ++
    [lastToken (bottom TypeSpec.height 0 specs + 1)]

theorem toList_source (file : GoFile) : file.source.toList =
    "package ".toList ++ (file.package.toList ++
      (linesText TypeSpec.source file.specs ++ ['\n'])) :=
  String.toList_ofList

theorem tokens?_source {file : GoFile} (h : file.isPlain = true) : tokens? file.source.toList =
    some (word "package" [] 0 :: word file.package [.blank ' '] 0 :: specsTokens file.specs) := by
  simp only [GoFile.isPlain, Bool.and_eq_true] at h
  obtain ⟨⟨hname, -⟩, hspecs⟩ := h
  have hend : EndsName ['\n'] := endsName_cons (by decide)
  have hlines : Lexes 0 [] (linesText TypeSpec.source file.specs ++ ['\n'])
      (specsTokens file.specs) :=
    lexes_stacked (fun spec hspec row cs ts _ => lexes_spec (List.all_eq_true.1 hspecs spec hspec))
      hend (lexes_line (.ending _ _))
  rw [toList_source]
  refine tokens?_of_lexes
    (lexes_word "package" (by decide) (endsName_cons (c := ' ') (by decide)) (lexes_blank ?_))
  exact lexes_word _ (isNameText_of_isName hname) (endsName_linesText _ hend) hlines

/-- Stays where the text ends. -/
def textEnd? (ts : List Token) : Option (List Token) := if atTextEnd ts then some ts else none

theorem declarations?_tokens {specs : List TypeSpec} (hname : isName name = true)
    (hspecs : ∀ spec ∈ specs, spec.isPlain = true) :
    declarations? (word "package" [] 0 :: word name [.blank ' '] 0 :: specsTokens specs) =
      some (.package name :: specs.map fun spec => .types [spec]) := by
  have hbegins : ∀ spec ∈ specs, ∀ row rest, BeginsLine (spec.tokens row ++ rest) :=
    fun spec hspec => beginsLine_spec (hspecs spec hspec)
  have hlength : specs.length ≤ (stacked TypeSpec.height TypeSpec.tokens 0 specs).length :=
    length_le_stacked hbegins
  have hrest : BeginsLine (specsTokens specs) := beginsLine_stacked hbegins (beginsLine_last _)
  have hone (bound : Nat) (hbound : (specsTokens specs).length ≤ bound) :
      ∀ spec ∈ specs, ∀ row rest, (spec.tokens row).length ≤
        (stacked TypeSpec.height TypeSpec.tokens 0 specs).length → BeginsLine rest →
          textEnd? (spec.tokens row ++ rest) = none ∧
            nextDeclarationAt bound (spec.tokens row ++ rest) =
              [([Declaration.types [spec]], rest)] := by
    intro spec hspec row rest hlen hrest
    rw [specsTokens, List.length_append, List.length_singleton] at hbound
    refine ⟨?_, nextDeclarationAt_eq (declarationAt_spec (hspecs spec hspec) (by omega) rest) hrest⟩
    obtain ⟨more, hmore⟩ := exists_specTokens (hspecs spec hspec) row rest
    rw [hmore]
    rfl
  have hread : partsFrom textEnd? (nextDeclarationAt (8 * (specsTokens specs).length + 24))
      ((specsTokens specs).length + 2) [([.package name], specsTokens specs)] =
        some ([Declaration.package name].reverse ++ specs.map (fun spec => .types [spec]),
          [lastToken (bottom TypeSpec.height 0 specs + 1)]) :=
    partsFrom_stacked hbegins (hone _ (by omega)) (Nat.le_refl _) (beginsLine_last _) rfl
      (by rw [specsTokens, List.length_append]; omega) _
  -- The first part is the package clause, the types are behind it.
  have hfirst : nextDeclarationAt (8 * (specsTokens specs).length + 24)
      (word "package" [] 0 :: word name [.blank ' '] 0 :: specsTokens specs) =
        [([.package name], specsTokens specs)] :=
    nextDeclarationAt_eq (declarationAt_package hname _) hrest
  have hnone : textEnd? (word "package" [] 0 :: word name [.blank ' '] 0 :: specsTokens specs) =
      none := rfl
  show (partsFrom textEnd? (nextDeclarationAt (8 * (specsTokens specs).length + 24))
    ((specsTokens specs).length + 2 + 1) [([], _)]).map Prod.fst = _
  rw [partsFrom, hnone, hfirst]
  exact congrArg (Option.map Prod.fst) hread

theorem dropByteOrderMark_of_ne {c : Char} (hc : c.toNat ≠ 0xFEFF) (cs : List Char) :
    dropByteOrderMark (c :: cs) = c :: cs :=
  if_neg hc

/-- The types of a file come together again. -/
theorem foldl_addTo (file : GoFile) (structs : List StructDecl) (interfaces : List InterfaceDecl) :
    ((structs.map TypeSpec.struct ++ interfaces.map TypeSpec.interface).map
        fun spec => Declaration.types [spec]).foldl Declaration.addTo file =
      { file with
        structs := file.structs ++ structs
        interfaces := file.interfaces ++ interfaces } := by
  induction structs generalizing file with
  | nil =>
    induction interfaces generalizing file with
    | nil => simp
    | cons d interfaces ih =>
      rw [List.map_nil, List.nil_append] at ih ⊢
      rw [List.map_cons, List.map_cons, List.foldl_cons, ih]
      simp [Declaration.addTo, TypeSpec.addTo]
  | cons d structs ih =>
    rw [List.map_cons, List.cons_append, List.map_cons, List.foldl_cons, ih]
    simp [Declaration.addTo, TypeSpec.addTo]

end Go

namespace GoFile

/-- A plain file is read from what is written of it. -/
theorem parse?_source {file : GoFile} (h : file.isPlain = true) :
    parse? file.source = some file := by
  have htokens := Go.tokens?_source h
  simp only [isPlain, Bool.and_eq_true, List.isEmpty_iff] at h
  obtain ⟨⟨hname, himports⟩, hspecs⟩ := h
  have hmark : Go.dropByteOrderMark file.source.toList = file.source.toList := by
    rw [Go.toList_source]
    exact Go.dropByteOrderMark_of_ne (c := 'p') (by decide) _
  have hread := Go.declarations?_tokens hname (List.all_eq_true.1 hspecs)
  rw [parse?, hmark, htokens]
  show (Go.declarations? _).bind (fun ds => some (ds.foldl Go.Declaration.addTo {})) = some file
  rw [hread, Option.bind_some, List.foldl_cons, specs, Go.foldl_addTo]
  obtain ⟨package, imports, interfaces, structs⟩ := file
  subst himports
  rfl

/-- Fields and parameters that are declared with the texts of their types are read with these types,
and different types have different texts. -/
theorem types_readBack : (∀ file : GoFile, file.isPlain = true → parse? file.source = some file) ∧
    ∀ t u : GoType, t.isDeclarable = true → u.isDeclarable = true → t.text = u.text → t = u :=
  ⟨fun _ => parse?_source, fun _ _ => GoType.text_injective⟩

end GoFile

namespace Inventory

/-- `map[[2]string][]*model.Item` -/
def items : GoType :=
  .map (.array "2" (.simple "string")) (.slice (.pointer (.qualified "model" "Item")))

def find : Method where
  name := "Find"
  doc := ""
  params := [{ name := "ctx", type := .qualified "context" "Context" },
    { name := "ids", type := .slice (.array "1_6" (.simple "byte")), variadic := true }]
  results := [{ name := "found", type := items }]

def file : GoFile where
  package := "stock"
  structs := [⟨"Shelf", [⟨"Items", items, none, false⟩,
    ⟨"Note", .pointer (.interface "interface\x7b\x7d"), none, false⟩]⟩]
  interfaces := [⟨"Query", [find]⟩]

theorem types_readBack_file : file.isPlain = true ∧ items.isDeclarable = true ∧
    file.source = "package stock\ntype Shelf struct \x7b\n\tItems map[[2]string][]*model.Item\n" ++
      "\tNote *interface\x7b\x7d\n\x7d\ntype Query interface \x7b\n" ++
      "\tFind(ctx context.Context, ids ...[1_6]byte) (found map[[2]string][]*model.Item)\n\x7d\n" ∧
    GoFile.parse? file.source = some file ∧ (items.text = items.text → items = items) := by
  have hfile : file.isPlain = true := by decide +kernel
  have hitems : items.isDeclarable = true := by decide +kernel
  refine ⟨hfile, hitems, ?_, GoFile.types_readBack.1 file hfile,
    GoFile.types_readBack.2 items items hitems hitems⟩
  refine String.toList_inj.1 ?_
  rw [Go.toList_source, String.toList_append, String.toList_append, String.toList_ofList,
    String.toList_ofList, String.toList_ofList, String.toList_ofList]
  decide +kernel

end Inventory

end QueryGen
