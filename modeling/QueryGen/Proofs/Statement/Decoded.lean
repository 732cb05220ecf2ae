import QueryGen.Proofs.Go.Unquote
import QueryGen.Proofs.Statement.Blocks
import QueryGen.Proofs.Statement.Groups

/-!
# The text of a write, decoded

The argument of a write is a sum of literals and of values that Go finds at run time. Decoded by
the rules of Go it is the text of the SQL clause.

- `Fragment.symbols`, `Mark.symbols`: the text that a fragment or a mark stands for, its values
  replaced by placeholders.
- `symbolsOf_expr`: an operand that is written is decoded to what it was made of.
- `Decodes`: a clause writes its text without blanks at the ends and one space, or nothing.
- `decodes_sqlStatements`: every SQL clause does, and the styles differ in placeholders alone.
-/

namespace QueryGen

open Template (BindStyle Options Scope)

/-! ## The text of a clause -/

namespace Go.Symbol

def isBlank : Symbol → Bool
  | char c => Text.isBlank c
  | value _ => false

/-- A text without the blanks at its ends. -/
def trim (symbols : List Symbol) : List Symbol :=
  (symbols.dropWhile isBlank).rdropWhile isBlank

end Go.Symbol

/-- What stands in the text for a value that is bound. -/
def Binding.placeholder (style : BindStyle) (b : Binding) : List Go.Symbol :=
  match style, b.key.key with
  | .positional, _ => [.char '?']
  | .named, .plain name => .char '@' :: name.toList.map .char
  | .named, key => [.char '@', .value key.expr]

/-- The text of a fragment. -/
def Fragment.symbols (opts : Options) : Fragment → List Go.Symbol
  | text t => t.toList.map .char
  | bind b => b.placeholder opts.bindStyle
  | quote expr => [.value (opts.receiver ++ ".Quote(" ++ expr ++ ")")]

def Fragment.isBlank : Fragment → Bool
  | text t => isBlankString t
  | _ => false

/-- The text of a mark. -/
def Mark.symbols (opts : Options) : Mark → List Go.Symbol
  | char c => [.char c]
  | bound b => b.placeholder opts.bindStyle
  | quoted expr => [.value (opts.receiver ++ ".Quote(" ++ expr ++ ")")]

/-- What a unit of a written text stands for. -/
def Atom.symbol : Atom → Go.Symbol
  | char c => .char c
  | key k => .value k.expr
  | quote receiver expr => .value (receiver ++ ".Quote(" ++ expr ++ ")")

variable {opts : Options} {fragments : List Fragment}

theorem Mark.symbols_eq (m : Mark) : m.symbols opts = (m.atoms opts).map Atom.symbol := by
  cases m with
  | char c | quoted expr => rfl
  | bound b =>
    cases hs : opts.bindStyle with
    | positional => simp [symbols, atoms, Binding.placeholder, hs, Atom.symbol]
    | named =>
      cases hk : b.key.key with
      | plain name | formatted name loopId indices =>
        simp [symbols, atoms, Binding.placeholder, hs, hk, Atom.symbol]

theorem flatMap_symbols_marks (marks : List Mark) :
    marks.flatMap (Mark.symbols opts) = (marks.flatMap (Mark.atoms opts)).map Atom.symbol := by
  rw [List.map_flatMap]
  exact List.flatMap_congr fun m _ => m.symbols_eq

theorem Fragment.symbols_eq (f : Fragment) :
    f.symbols opts = f.marks.flatMap (Mark.symbols opts) := by
  cases f with
  | text t => simp [symbols, marks, Mark.symbols, List.flatMap_map, ← List.map_eq_flatMap]
  | bind b | quote expr => simp [symbols, marks, Mark.symbols]

theorem flatMap_symbols (fragments : List Fragment) :
    fragments.flatMap (Fragment.symbols opts) =
      (fragments.flatMap Fragment.marks).flatMap (Mark.symbols opts) := by
  rw [List.flatMap_assoc]
  exact List.flatMap_congr fun f _ => f.symbols_eq

theorem trim_map_symbol (atoms : List Atom) :
    Go.Symbol.trim (atoms.map Atom.symbol) =
      ((atoms.dropWhile Atom.isBlank).rdropWhile Atom.isBlank).map Atom.symbol := by
  have hblank : Go.Symbol.isBlank ∘ Atom.symbol = Atom.isBlank := by
    funext a
    cases a <;> rfl
  simp [Go.Symbol.trim, List.rdropWhile, List.dropWhile_map, ← List.map_reverse, hblank]

/-! ## Blank clauses -/

theorem trim_eq_nil_iff {marks : List Mark} :
    (marks.dropWhile Mark.isBlank).rdropWhile Mark.isBlank = [] ↔
      ∀ m ∈ marks, m.isBlank = true := by
  rw [List.rdropWhile_eq_nil_iff]
  constructor
  · intro h
    have hnil : marks.dropWhile Mark.isBlank = [] := by
      cases hm : marks.dropWhile Mark.isBlank with
      | nil => rfl
      | cons m rest =>
        have hnot := List.head?_dropWhile_not Mark.isBlank marks
        rw [hm] at h hnot
        simp [h m List.mem_cons_self] at hnot
    exact List.dropWhile_eq_nil_iff.1 hnil
  · intro h m hm
    exact h m ((List.dropWhile_suffix _).subset hm)

theorem Fragment.isBlank_iff (f : Fragment) :
    f.isBlank = true ↔ ∀ m ∈ f.marks, m.isBlank = true := by
  cases f with
  | text t => simp [isBlank, marks, isBlankString, Text.isBlankText, Mark.isBlank]
  | bind b | quote expr => simp [isBlank, marks, Mark.isBlank]

theorem settled_eq_nil : settled fragments = [] ↔ ∀ f ∈ fragments, f.isBlank = true := by
  have hmarks : settled fragments = [] ↔ ((fragments.flatMap Fragment.marks).dropWhile
      Mark.isBlank).rdropWhile Mark.isBlank = [] := by
    unfold settled
    split
    · next h => simp [h]
    · next h => exact ⟨fun he => absurd he (by simp), fun he => absurd he h⟩
  rw [hmarks, trim_eq_nil_iff, List.forall_mem_flatMap]
  exact forall₂_congr fun f _ => f.isBlank_iff.symm

theorem sqlStatements_eq_nil_iff (builder : String) :
    sqlStatements opts builder fragments = [] ↔ operandsOf opts fragments = [] := by
  unfold sqlStatements
  split
  · next h => simp [h]
  · next h => simpa using h

/-! ## Operands -/

/-- Only keys that are formatted at run time are operands. -/
theorem isFormatted_of_mem_operandsOf (h : ∀ b ∈ bindingsOf fragments, b.key.TightEnd) {k : Key}
    (hk : .key k ∈ operandsOf opts fragments) : k.isFormatted = true := by
  have hatom : Atom.key k ∈ (settled fragments).flatMap (Mark.atoms opts) := by
    rw [← atoms_operandsOf opts h]
    exact List.mem_flatMap.2 ⟨_, hk, List.mem_singleton_self _⟩
  obtain ⟨m, -, hm⟩ := List.mem_flatMap.1 hatom
  cases m with
  | char c | quoted expr => simp [Mark.atoms] at hm
  | bound b =>
    simp only [Mark.atoms] at hm
    split at hm
    · simp at hm
    · simp at hm
    · next hplain =>
      obtain rfl : k = b.key.key := by simpa using hm
      cases hb : b.key.key with
      | plain name => exact absurd hb (hplain name)
      | formatted name loopId indices => rfl

/-- A written operand is a literal or a value. -/
theorem symbolsOf_expr_of_not_isText {o : Operand} (ho : o.isText = false)
    (h : ∀ k, o = .key k → k.isFormatted = true) : Go.symbolsOf o.expr = [.value o.expr] := by
  refine Go.symbolsOf_of_getLast? ?_
  cases o with
  | text cs => cases ho
  | key k =>
    cases k with
    | plain name => cases h _ rfl
    | formatted name loopId indices =>
      rw [Operand.expr, Key.expr_formatted, getLast?_append_text _ ")" rfl]
      decide
  | quote receiver expr =>
    rw [Operand.expr, getLast?_append_text _ ")" rfl]
    decide

/-- An operand is decoded to what it was made of. -/
theorem symbolsOf_expr {o : Operand} (h : ∀ k, o = .key k → k.isFormatted = true) :
    Go.symbolsOf o.expr = o.atoms.map Atom.symbol := by
  cases o with
  | text cs =>
    rw [Operand.expr, Go.symbolsOf_quoteText]
    simp [Operand.atoms, Atom.symbol]
  | key k | quote receiver expr => exact symbolsOf_expr_of_not_isText rfl h

/-! ## Writes -/

/-- The text of a clause: its fragments without the blanks at both ends, and one space. -/
def clauseText (opts : Options) (fragments : List Fragment) : List Go.Symbol :=
  Go.Symbol.trim (fragments.flatMap (Fragment.symbols opts)) ++ [.char ' ']

theorem clauseText_eq (h : ∀ b ∈ bindingsOf fragments, b.key.TightEnd)
    (hne : settled fragments ≠ []) :
    clauseText opts fragments = (settled fragments).flatMap (Mark.symbols opts) := by
  have htrim : Go.Symbol.trim (fragments.flatMap (Fragment.symbols opts)) =
      (((fragments.flatMap Fragment.marks).dropWhile Mark.isBlank).rdropWhile
        Mark.isBlank).flatMap (Mark.symbols opts) := by
    rw [flatMap_symbols, flatMap_symbols_marks, trim_map_symbol, trim_flatMap_atoms opts h,
      flatMap_symbols_marks]
  unfold clauseText settled at *
  split at hne
  · exact absurd rfl hne
  · rw [htrim, List.flatMap_append]
    rfl

theorem flatMap_symbolsOf (h : ∀ b ∈ bindingsOf fragments, b.key.TightEnd) :
    ((operandsOf opts fragments).map Operand.expr).flatMap Go.symbolsOf =
      (settled fragments).flatMap (Mark.symbols opts) := by
  rw [flatMap_symbols_marks, ← atoms_operandsOf opts h, List.flatMap_map, List.map_flatMap]
  refine List.flatMap_congr fun o ho => symbolsOf_expr fun k hk => ?_
  exact isFormatted_of_mem_operandsOf h (hk ▸ ho)

theorem standsFor_operandsOf (h : ∀ b ∈ bindingsOf fragments, b.key.TightEnd)
    (hne : operandsOf opts fragments ≠ []) :
    Go.StandsFor (" + ".intercalate ((operandsOf opts fragments).map Operand.expr))
      (clauseText opts fragments) := by
  rw [clauseText_eq h fun hs => hne ((settled_eq_nil_iff opts h).1 hs), ← flatMap_symbolsOf h]
  refine Go.standsFor_intercalate (by simpa using hne) fun p hp => ?_
  obtain ⟨o, ho, rfl⟩ := List.mem_map.1 hp
  cases hi : o.isText with
  | true =>
    cases o with
    | text cs => exact .inl ⟨cs, rfl⟩
    | key k | quote receiver expr => cases hi
  | false =>
    exact .inr (symbolsOf_expr_of_not_isText hi fun k hk =>
      isFormatted_of_mem_operandsOf h (hk ▸ ho))

/-- A SQL clause whose fragments are blank writes and binds nothing. Any other one binds its values
and writes its text once. In every style the text is made of the same marks. -/
structure Decodes (opts : Options) (builder : String) (fragments : List Fragment)
    (marks : List Mark) : Prop where
  nothing_iff : sqlStatements opts builder fragments = [] ↔ ∀ f ∈ fragments, f.isBlank = true
  write : sqlStatements opts builder fragments ≠ [] → ∃ argument,
    Go.StandsFor argument (clauseText opts fragments) ∧
    ∀ depth, Statement.linesAll depth (sqlStatements opts builder fragments) =
      Statement.linesAll depth ((bindingsOf fragments).map (Binding.statement opts.bindStyle)) ++
        [indent depth (builder ++ ".WriteString(" ++ argument ++ ")")]
  text_eq : sqlStatements opts builder fragments ≠ [] →
    clauseText opts fragments = marks.flatMap (Mark.symbols opts)

theorem decodes_settled (builder : String) (h : ∀ b ∈ bindingsOf fragments, b.key.TightEnd) :
    Decodes opts builder fragments (settled fragments) where
  nothing_iff := by
    rw [sqlStatements_eq_nil_iff, ← settled_eq_nil_iff opts h, settled_eq_nil]
  write hne := by
    have hoperands : operandsOf opts fragments ≠ [] := fun ho =>
      hne ((sqlStatements_eq_nil_iff builder).2 ho)
    refine ⟨_, standsFor_operandsOf h hoperands, fun depth => ?_⟩
    unfold sqlStatements
    split
    · next ho => exact absurd ho hoperands
    · rw [Statement.linesAll_append]
      rfl
  text_eq hne := clauseText_eq h fun hs =>
    hne ((sqlStatements_eq_nil_iff builder).2 ((settled_eq_nil_iff opts h).1 hs))

/-- Decoded by the rules of Go, what a SQL clause writes is its text, trimmed at the two ends and
with one space behind it, and the styles write the same text but for their placeholders. Names of
keys must not end in a blank; in a compiled template they do not. -/
theorem decodes_sqlStatements (receiver builder : String) (fragments : List Fragment) :
    (∀ template scope style c, compile template scope ⟨style, receiver⟩ = .ok c →
      fragments ∈ Clause.sqlsAll c.clauses → ∀ b ∈ bindingsOf fragments, b.key.TightEnd) ∧
    ((∀ b ∈ bindingsOf fragments, b.key.TightEnd) →
      ∃ marks, ∀ style, Decodes ⟨style, receiver⟩ builder fragments marks) := by
  refine ⟨fun template scope style c hc hf b hb => ?_, fun h => ⟨settled fragments, fun style =>
    decodes_settled builder h⟩⟩
  obtain ⟨-, sections, ht, tree, hbuild, rfl⟩ := compile_eq_ok_iff.1 hc
  exact (named_of_buildClauses ht hbuild b (Clause.mem_bindingsAll_of_sqls hf hb)).tightEnd

/-- A value of a loop and a quoted name, with blanks around them. -/
def loopFragments : List Fragment :=
  [.text " \"a\"\t= ", .bind ⟨"v", ⟨"v", some ⟨0, ["i"]⟩⟩⟩, .text " or ", .quote "c", .text "\n"]

/-- The text of these fragments with placeholders that are named. -/
def loopText : List Go.Symbol :=
  [.char '"', .char 'a', .char '"', .char '\t', .char '=', .char ' ', .char '@',
    .value "fmt.Sprintf(\"v.0_%v\", i)", .char ' ', .char 'o', .char 'r', .char ' ',
    .value "u.Quote(c)", .char ' ']

/-- The key and the quoted name are single operands, so the text is read off the argument itself. -/
theorem decodes_loopFragments :
    (∃ marks, ∀ style, Decodes ⟨style, "u"⟩ "generateSQL" loopFragments marks) ∧
    ∃ argument, (Go.operands argument).flatMap Go.symbolsOf = loopText ∧
      Statement.linesAll 1 (sqlStatements ⟨.named, "u"⟩ "generateSQL" loopFragments) =
        ["\tparams[fmt.Sprintf(\"v.0_%v\", i)] = v",
          "\tgenerateSQL.WriteString(" ++ argument ++ ")"] := by
  have htight : ∀ b ∈ bindingsOf loopFragments, b.key.TightEnd := by
    simp [loopFragments, bindingsOf, Fragment.binding?, BindKey.TightEnd]
    decide
  obtain ⟨marks, hmarks⟩ := (decodes_sqlStatements "u" "generateSQL" loopFragments).2 htight
  refine ⟨⟨marks, hmarks⟩, ?_⟩
  have htext : clauseText ⟨.named, "u"⟩ loopFragments = loopText := by decide
  obtain ⟨argument, ⟨parts, -, hparts, hoperands⟩, hlines⟩ := (hmarks .named).write (by
    rw [ne_eq, (hmarks .named).nothing_iff]
    decide)
  refine ⟨argument, ?_, ?_⟩
  · rw [hoperands fun code hcode => ?_, hparts, htext]
    obtain rfl | rfl : code = "fmt.Sprintf(\"v.0_%v\", i)" ∨ code = "u.Quote(c)" := by
      simpa [htext, loopText] using hcode
    · exact ⟨by decide, by simp; decide, by simp; decide⟩
    · exact ⟨by decide, by simp; decide, by simp; decide⟩
  · have hhead : String.ofList (List.replicate 1 '\t') ++ ("generateSQL" ++ ".WriteString(" ++
        argument ++ ")") = "\tgenerateSQL.WriteString(" ++ argument ++ ")" := by
      rw [← String.append_assoc, ← String.append_assoc]
      rfl
    rw [hlines 1, indent, hhead]
    rfl

end QueryGen
