import Mathlib
import QueryGen.Compile
import QueryGen.Proofs.Template.Positions

/-!
# Where compiling stops inside a character

The condition of an `else if` directive is cut off behind four bytes. All other lookups in a
template are in bounds.

- `Text.isSome_splitBytes?`: a text can be cut behind `n` bytes where a character begins or the text
  ends.
- `CutsInside`: the directives that are cut inside a character. Such a directive begins with `:`,
  `=` or `,`, and a blank outside ASCII is cut (`exists_of_cutsInside`).
- `Reaches`: such a directive is reached when a template is read.
- `splitCharacter_iff`: classifying, reading and compiling stop inside a character exactly there,
  and the positions of a template are always in bounds.
-/

namespace QueryGen

/-! ## Bytes -/

/-- Behind the first character of a text, bytes count from there. -/
theorem Text.isValid_ofList_cons {c : Char} {rest : List Char} {n : Nat} (hn : n ≠ 0) :
    (⟨n⟩ : String.Pos.Raw).IsValid (.ofList (c :: rest)) ↔
      c.utf8Size ≤ n ∧ (⟨n - c.utf8Size⟩ : String.Pos.Raw).IsValid (.ofList rest) := by
  have hrest : (⟨n⟩ : String.Pos.Raw) - String.singleton c = ⟨n - c.utf8Size⟩ := by
    simp [String.Pos.Raw.ext_iff]
  rw [String.ofList_cons, String.Pos.Raw.isValid_append, hrest, String.Pos.Raw.isValid_singleton]
  simp only [String.Pos.Raw.ext_iff, String.Pos.Raw.le_iff, String.byteIdx_rawEndPos,
    String.utf8ByteSize_singleton, String.Pos.Raw.byteIdx_zero, hn, false_or]
  refine ⟨fun h => h.elim (fun he => ⟨he.ge, ?_⟩) id, .inr⟩
  rw [he, Nat.sub_self]
  exact String.Pos.Raw.isValid_zero

/-- A text can be cut behind the bytes where one of its characters begins or the text ends. -/
theorem Text.isSome_splitBytes? (n : Nat) (cs : List Char) :
    (Text.splitBytes? n cs).isSome = true ↔ (⟨n⟩ : String.Pos.Raw).IsValid (.ofList cs) := by
  fun_induction Text.splitBytes? n cs with
  | case1 cs => simp [show (⟨0⟩ : String.Pos.Raw) = 0 from rfl]
  | case2 n => simp [String.Pos.Raw.isValid_empty_iff, String.Pos.Raw.ext_iff]
  | case3 n c rest hc ih =>
    rw [Option.isSome_map, ih, isValid_ofList_cons (by simp), and_iff_right hc]
  | case4 n c rest hc =>
    rw [isValid_ofList_cons (by simp)]
    simp [hc]

namespace Template

/-- A directive whose condition begins inside a character. -/
def CutsInside (body : List Char) : Prop :=
  (∃ words, directiveWords (Text.trim body) = "else".toList :: "if".toList :: words) ∧
    ¬ (⟨4⟩ : String.Pos.Raw).IsValid (.ofList (Text.trim body))

/-! ## Classifying -/

theorem condition_ne_splitCharacter (cs : List Char) (sql : String) :
    condition cs ≠ .error (.splitCharacter sql) := by
  unfold condition
  split
  · simp
  · simp only []
    split <;> simp

theorem elseCondition_eq_splitCharacter_iff {cs : List Char} {sql : String} :
    elseCondition cs = .error (.splitCharacter sql) ↔
      ¬ (⟨4⟩ : String.Pos.Raw).IsValid (.ofList cs) ∧ sql = .ofList cs := by
  rw [← Text.isSome_splitBytes?]
  unfold elseCondition
  split
  · next hs => simp [hs, condition_ne_splitCharacter]
  · next hs => simp [hs, eq_comm]

theorem checkReserved_ne_splitCharacter (cs : List Char) (sql : String) :
    checkReserved cs ≠ .error (.splitCharacter sql) := by
  unfold checkReserved
  split <;> simp

theorem readDirective_eq_splitCharacter_iff {cs : List Char} {sql : String} :
    readDirective cs = .error (.splitCharacter sql) ↔
      (∃ words, directiveWords cs = "else".toList :: "if".toList :: words) ∧
        ¬ (⟨4⟩ : String.Pos.Raw).IsValid (.ofList cs) ∧ sql = .ofList cs := by
  constructor
  · intro h
    unfold readDirective at h
    simp only [] at h
    split at h
    case h_4 words hw =>
      rw [bind_eq_error_iff, elseCondition_eq_splitCharacter_iff] at h
      rcases h with h | ⟨cond, -, h⟩
      · exact ⟨⟨_, map_ofList_eq_iff.1 hw⟩, h⟩
      · cases h
    case h_2 words hw =>
      rcases bind_eq_error_iff.1 h with h | ⟨cond, -, h⟩
      · exact absurd h (condition_ne_splitCharacter cs sql)
      · cases h
    case h_5 words hw =>
      split at h
      · split at h <;> cases h
      · cases h
    all_goals cases h
  · rintro ⟨⟨words, hw⟩, h⟩
    rw [readDirective, hw]
    exact bind_eq_error_iff.2 (.inl (elseCondition_eq_splitCharacter_iff.2 h))

theorem classify_eq_splitCharacter_iff {body : List Char} {sql : String} :
    classify body = .error (.splitCharacter sql) ↔
      CutsInside body ∧ sql = .ofList (Text.trim body) := by
  rw [classify, bind_eq_error_iff, readDirective_eq_splitCharacter_iff, CutsInside, and_assoc]
  refine ⟨fun h => h.elim id ?_, .inl⟩
  rintro ⟨d, -, h⟩
  simp only [] at h
  split at h
  · rcases bind_eq_error_iff.1 h with h | ⟨_, -, h⟩
    · exact absurd h (checkReserved_ne_splitCharacter _ sql)
    · cases h
  · cases h

/-! ## What is cut -/

/-- The bytes of a text. -/
def bytes (cs : List Char) : Nat := (String.ofList cs).utf8ByteSize

@[simp] theorem bytes_append (xs ys : List Char) : bytes (xs ++ ys) = bytes xs + bytes ys := by
  simp [bytes, String.ofList_append]

theorem bytes_cons (c : Char) (cs : List Char) : bytes (c :: cs) = c.utf8Size + bytes cs := by
  simp [bytes, String.ofList_cons]

theorem length_le_bytes (cs : List Char) : cs.length ≤ bytes cs := by
  induction cs with
  | nil => simp
  | cons c rest ih =>
    have := c.utf8Size_pos
    rw [bytes_cons, List.length_cons]
    omega

/-- Four bytes are in the text of an `else`. -/
theorem four_le_of_directiveWords {cs : List Char} {words : List (List Char)}
    (hw : directiveWords cs = "else".toList :: words) : 4 ≤ bytes cs := by
  obtain ⟨gap, tail, rfl, -⟩ := Text.exists_of_partsWith_eq_cons hw
  have helse : bytes "else".toList = 4 := by decide
  rw [bytes_append, bytes_append, helse]
  omega

/-- Where no character begins, a character goes on. -/
theorem exists_of_not_isValid {n : Nat} {cs : List Char} (hn : n ≤ bytes cs)
    (h : ¬ (⟨n⟩ : String.Pos.Raw).IsValid (.ofList cs)) :
    ∃ front c back, cs = front ++ c :: back ∧ bytes front < n ∧ n < bytes front + c.utf8Size := by
  induction cs generalizing n with
  | nil =>
    obtain rfl : n = 0 := Nat.le_zero.1 hn
    exact absurd String.Pos.Raw.isValid_zero h
  | cons c rest ih =>
    have hne : n ≠ 0 := by
      rintro rfl
      exact h String.Pos.Raw.isValid_zero
    rw [Text.isValid_ofList_cons hne, not_and] at h
    by_cases hc : c.utf8Size ≤ n
    · rw [bytes_cons] at hn
      obtain ⟨front, d, back, rfl, hlow, hhigh⟩ := ih (by omega) (h hc)
      refine ⟨c :: front, d, back, rfl, ?_, ?_⟩ <;> rw [bytes_cons] <;> omega
    · exact ⟨[], c, rest, rfl, by simp [bytes]; omega, by simp [bytes]; omega⟩

theorem not_isValid_of_append {n : Nat} {front back : List Char} {c : Char}
    (hlow : bytes front < n) (hhigh : n < bytes front + c.utf8Size) :
    ¬ (⟨n⟩ : String.Pos.Raw).IsValid (.ofList (front ++ c :: back)) := by
  induction front generalizing n with
  | nil =>
    simp only [bytes, String.ofList_nil, String.utf8ByteSize_empty] at hlow hhigh
    rw [List.nil_append, Text.isValid_ofList_cons (by omega)]
    omega
  | cons d rest ih =>
    rw [bytes_cons] at hlow hhigh
    rw [List.cons_append, Text.isValid_ofList_cons (by omega), not_and]
    exact fun _ => ih (by omega) (by omega)

/-- What is cut is a blank behind separators. -/
theorem exists_of_cutsInside {body : List Char} (h : CutsInside body) :
    ∃ front c back, Text.trim body = front ++ c :: back ∧ front ≠ [] ∧
      (∀ d ∈ front, isSeparator d = true) ∧ Text.isBlank c = true ∧
      bytes front < 4 ∧ 4 < bytes front + c.utf8Size := by
  obtain ⟨⟨words, hw⟩, hvalid⟩ := h
  obtain ⟨front, c, back, he, hlow, hhigh⟩ :=
    exists_of_not_isValid (four_le_of_directiveWords hw) hvalid
  obtain ⟨gap, tail, htext, hgap, -⟩ := Text.exists_of_partsWith_eq_cons hw
  have hsmall : ∀ d ∈ "else".toList, d.utf8Size = 1 := by simp [Char.utf8Size]
  have happ := he.symm.trans (htext.trans (List.append_assoc ..))
  obtain ⟨more, hmore⟩ : ∃ more, gap = front ++ c :: more := by
    rcases List.append_eq_append_iff.1 happ with ⟨x, hx, hrest⟩ | ⟨x, hx, hrest⟩
    · cases x with
      | nil =>
        have hc : c = 'e' := (List.cons.inj hrest).1
        rw [hc, hsmall 'e' (by decide)] at hhigh
        omega
      | cons d more =>
        obtain ⟨rfl, -⟩ := List.cons.inj hrest
        exact ⟨more, hx⟩
    · -- the cut would be inside `else`, whose characters have one byte each
      have hlen := length_le_bytes x
      rw [hx, bytes_append] at hlow
      have hc : c ∈ "else".toList := by
        rcases List.append_eq_append_iff.1 hrest with ⟨y, hy, -⟩ | ⟨y, hy, hback⟩
        · have := congrArg List.length hy
          simp only [List.length_append, show "else".toList.length = 4 from rfl] at this
          omega
        · cases y with
          | nil =>
            have := congrArg List.length hy
            simp only [List.append_nil, show "else".toList.length = 4 from rfl] at this
            omega
          | cons d more =>
            obtain ⟨rfl, -⟩ := List.cons.inj hback
            rw [hy]
            simp
      rw [hsmall c hc, hx, bytes_append] at hhigh
      omega
  have hsep : ∀ d ∈ front ++ [c], isSeparator d = true := fun d hd => hgap d (by
    rw [hmore]
    exact (List.append_cons front c more ▸ List.mem_append_left more hd))
  have hblank : Text.isBlank c = true := by
    have hc := hsep c (by simp)
    simp only [isSeparator, Bool.or_eq_true, beq_iff_eq] at hc
    rcases hc with ((rfl | rfl) | rfl) | hc
    · exact absurd hhigh (by rw [show ':'.utf8Size = 1 by decide]; omega)
    · exact absurd hhigh (by rw [show '='.utf8Size = 1 by decide]; omega)
    · exact absurd hhigh (by rw [show ','.utf8Size = 1 by decide]; omega)
    · exact hc
  refine ⟨front, c, back, he, ?_, fun d hd => hsep d (by simp [hd]), hblank, hlow, hhigh⟩
  rintro rfl
  have hhead := (Text.trimmed_trim body).head c (by rw [he]; rfl)
  rw [hblank] at hhead
  cases hhead

theorem cutsInside_iff {body : List Char} :
    CutsInside body ↔
      (∃ words, directiveWords (Text.trim body) = "else".toList :: "if".toList :: words) ∧
        ∃ front c back, Text.trim body = front ++ c :: back ∧ front ≠ [] ∧
          (∀ d ∈ front, isSeparator d = true) ∧ Text.isBlank c = true ∧
          bytes front < 4 ∧ 4 < bytes front + c.utf8Size := by
  refine ⟨fun h => ⟨h.1, exists_of_cutsInside h⟩, fun ⟨hw, front, c, back, he, h⟩ => ⟨hw, ?_⟩⟩
  rw [he]
  exact not_isValid_of_append h.2.2.2.1 h.2.2.2.2

/-! ## Reading and compiling -/

section

variable {scope : Scope} {receiver : Option String} {source sql : String} {r : Reading}

theorem fieldType_ne_splitCharacter (owner : GoType) (field : String) :
    fieldType scope source owner field ≠ .error (.splitCharacter sql) := by
  unfold fieldType
  split
  · split <;> simp
  · simp only []
    split <;> simp

theorem fieldsType_ne_splitCharacter (path : String) (type : GoType) (fields : List String) :
    fieldsType scope source path type fields ≠ .error (.splitCharacter sql) := by
  induction fields generalizing type with
  | nil => simp [fieldsType]
  | cons field rest ih =>
    unfold fieldsType
    split
    · simp
    · intro h
      rcases bind_eq_error_iff.1 h with h | ⟨next, -, h⟩
      · exact fieldType_ne_splitCharacter _ _ h
      · exact ih next h

theorem resolve_ne_splitCharacter (path : List Char) :
    resolve scope source r path ≠ .error (.splitCharacter sql) := by
  unfold resolve
  simp only []
  split
  · simp
  · split
    · simp
    · split
      · simp
      · intro h
        rcases bind_eq_error_iff.1 h with h | ⟨next, -, h⟩
        · exact fieldsType_ne_splitCharacter _ _ _ h
        · cases h

theorem openLoop_ne_splitCharacter (body index value range : String) :
    openLoop scope receiver source body r index value range ≠ .error (.splitCharacter sql) := by
  unfold openLoop
  split
  · simp
  · split
    · simp
    · simp only []
      split
      · simp
      · intro h
        rcases bind_eq_error_iff.1 h with h | ⟨found, -, h⟩
        · exact resolve_ne_splitCharacter _ h
        · cases h

theorem readRef_ne_splitCharacter (doubled : Bool) (name : List Char) :
    readRef scope source r doubled name ≠ .error (.splitCharacter sql) := by
  unfold readRef
  split
  · simp
  · intro h
    rcases bind_eq_error_iff.1 h with h | ⟨ref, -, h⟩
    · exact resolve_ne_splitCharacter _ h
    · split at h
      · split at h <;> cases h
      · cases h

/-- Only a directive stops inside a character. -/
theorem readPiece_eq_splitCharacter_iff {p : Piece} :
    readPiece scope receiver source r p = .error (.splitCharacter sql) ↔
      ∃ body, p = .directive body ∧ CutsInside body ∧ sql = .ofList (Text.trim body) := by
  constructor
  · intro h
    cases p with
    | plain c | quoted cs | escapedAt | broken rest => cases h
    | ref doubled name => exact absurd h (readRef_ne_splitCharacter doubled name)
    | directive body =>
      rw [readPiece, readBody, bind_eq_error_iff] at h
      rcases h with h | ⟨d, -, h⟩
      · exact ⟨body, rfl, classify_eq_splitCharacter_iff.1 h⟩
      · cases d with
        | loop index value range => exact absurd h (openLoop_ne_splitCharacter _ _ _ _)
        | branch | otherwise | join | close => cases h
  · rintro ⟨body, rfl, h⟩
    rw [readPiece, readBody, bind_eq_error_iff]
    exact .inl (classify_eq_splitCharacter_iff.2 h)

end

/-- A fold stops at the first element that it fails on. -/
theorem foldlM_eq_error_iff {ε α β : Type} {f : β → α → Except ε β} {b : β} {xs : List α} {e : ε} :
    xs.foldlM f b = .error e ↔
      ∃ before x after b', xs = before ++ x :: after ∧ before.foldlM f b = .ok b' ∧
        f b' x = .error e := by
  constructor
  · intro h
    induction xs generalizing b with
    | nil => cases h
    | cons x rest ih =>
      rw [List.foldlM_cons, bind_eq_error_iff] at h
      rcases h with h | ⟨next, hn, h⟩
      · exact ⟨[], x, rest, b, rfl, rfl, h⟩
      · obtain ⟨before, y, after, b', rfl, hb, hy⟩ := ih h
        exact ⟨x :: before, y, after, b', rfl, bind_eq_ok_iff.2 ⟨next, hn, hb⟩, hy⟩
  · rintro ⟨before, x, after, b', rfl, hb, hx⟩
    rw [List.foldlM_append, hb]
    exact bind_eq_error_iff.2 (.inr ⟨b', rfl, bind_eq_error_iff.2 (.inl hx)⟩)

/-- A directive that is cut inside a character is reached when a template is read: all before it
is read without an error. The error shows `sql`. -/
def Reaches (template : String) (scope : Scope) (receiver : Option String) (sql : String) : Prop :=
  ∃ before body after r, pieces template.toList = before ++ .directive body :: after ∧
    before.foldlM (readPiece scope receiver (trimmed template)) {} = .ok r ∧ CutsInside body ∧
    sql = .ofList (Text.trim body)

theorem tokenize_eq_splitCharacter_iff {template sql : String} {scope : Scope}
    {receiver : Option String} :
    tokenize template scope receiver = .error (.splitCharacter sql) ↔
      Reaches template scope receiver sql := by
  rw [tokenize, bind_eq_error_iff, foldlM_eq_error_iff]
  constructor
  · rintro (⟨before, p, after, r, hp, hr, h⟩ | ⟨r, -, h⟩)
    · obtain ⟨body, rfl, hcut⟩ := readPiece_eq_splitCharacter_iff.1 h
      exact ⟨before, body, after, r, hp, hr, hcut⟩
    · cases h
  · rintro ⟨before, body, after, r, hp, hr, hcut⟩
    exact .inl ⟨before, _, after, r, hp, hr, readPiece_eq_splitCharacter_iff.2 ⟨body, rfl, hcut⟩⟩

/-- A blank template has no directive. -/
theorem not_isBlankString_of_directive {template : String} {body : List Char}
    (h : .directive body ∈ pieces template.toList) : isBlankString template = false := by
  have hbrace : '{' ∈ template.toList := by
    rw [← source_pieces template.toList]
    exact List.mem_flatMap.2 ⟨_, h, by simp [Piece.source]⟩
  rw [isBlankString, Text.isBlankText, List.all_eq_false]
  exact ⟨'{', hbrace, by decide⟩

end Template

open Template

theorem nextBranch_ne_splitCharacter (source : String) (a : Assembly) (guard : Option String)
    {sql : String} : a.nextBranch source guard ≠ .error (.splitCharacter sql) := by
  unfold Assembly.nextBranch
  split
  · simp
  · split <;> simp

theorem step_ne_splitCharacter (source : String) (a : Assembly) (s : Section) {sql : String} :
    a.step source s ≠ .error (.splitCharacter sql) := by
  cases s with
  | otherwise guard => exact nextBranch_ne_splitCharacter source a guard
  | join kind =>
    unfold Assembly.step
    simp only []
    split <;> simp
  | close =>
    unfold Assembly.step
    simp only []
    split <;> simp
  | literal | data | quoted | branch | loop => simp [Assembly.step]

theorem buildClauses_ne_splitCharacter (sections : List Section) (source sql : String) :
    buildClauses sections source ≠ .error (.splitCharacter sql) := by
  have hrun : ∀ a : Assembly,
      (a.run (trimmed source) sections).1 ≠ .error (.splitCharacter sql) := by
    induction sections with
    | nil =>
      intro a
      unfold Assembly.run Assembly.finish
      split <;> simp
    | cons s rest ih =>
      intro a
      unfold Assembly.run
      split
      · next next _ => exact ih next
      · next e he =>
        rintro h
        cases h
        exact step_ne_splitCharacter _ _ _ he
  exact hrun _

theorem compile_eq_splitCharacter_iff {template sql : String} {scope : Scope} {opts : Options} :
    compile template scope opts = .error (.splitCharacter sql) ↔
      Reaches template scope (some opts.receiver) sql := by
  rw [← tokenize_eq_splitCharacter_iff, compile]
  constructor
  · intro h
    split at h
    · cases h
    · rcases bind_eq_error_iff.1 h with h | ⟨sections, -, h⟩
      · exact h
      · rcases bind_eq_error_iff.1 h with h | ⟨tree, -, h⟩
        · exact absurd h (buildClauses_ne_splitCharacter _ _ _)
        · cases h
  · intro h
    obtain ⟨before, body, after, -, hp, -⟩ := tokenize_eq_splitCharacter_iff.1 h
    have hmem : Piece.directive body ∈ pieces template.toList := by simp [hp]
    rw [not_isBlankString_of_directive hmem, if_neg Bool.false_ne_true]
    exact bind_eq_error_iff.2 (.inl h)

/-- Classifying, reading and compiling stop inside a character exactly at a directive whose
condition begins inside one. All positions in a template are in bounds, whatever it is. -/
theorem splitCharacter_iff (body : List Char) (template sql : String) (scope : Scope)
    (receiver : Option String) (opts : Options) :
    (classify body = .error (.splitCharacter sql) ↔
      CutsInside body ∧ sql = .ofList (Text.trim body)) ∧
    (tokenize template scope receiver = .error (.splitCharacter sql) ↔
      Reaches template scope receiver sql) ∧
    (compile template scope opts = .error (.splitCharacter sql) ↔
      Reaches template scope (some opts.receiver) sql) ∧
    (CutsInside body ↔
      (∃ words, directiveWords (Text.trim body) = "else".toList :: "if".toList :: words) ∧
        ∃ front c back, Text.trim body = front ++ c :: back ∧ front ≠ [] ∧
          (∀ d ∈ front, isSeparator d = true) ∧ Text.isBlank c = true ∧
          bytes front < 4 ∧ 4 < bytes front + c.utf8Size) ∧
    (∀ words, directiveWords (Text.trim body) = "else".toList :: words →
      4 ≤ bytes (Text.trim body)) ∧
    ∃ marks, marksFrom template.toList 0 = .ok marks ∧ Placed template.toList 0 marks :=
  ⟨classify_eq_splitCharacter_iff, tokenize_eq_splitCharacter_iff, compile_eq_splitCharacter_iff,
    cutsInside_iff, fun _ => four_le_of_directiveWords, placed_marksFrom template.toList 0⟩

/-- Directives are not always classified or refused: this one is cut inside its third character. -/
theorem classify_cut :
    ¬ ∀ body sql, classify body ≠ .error (.splitCharacter sql) := by
  intro h
  exact h ",,\u3000else if x".toList ",,\u3000else if x" (by cbv)

end QueryGen
