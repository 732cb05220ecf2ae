import Mathlib.Data.List.Chain
import QueryGen.Proofs.Template.Printing

/-!
# What follows a reference

A name in a template ends where no name goes on. The text that is collected behind a reference
keeps this, except where the name of the table is put in.

- `dotsOnly_append`: what has to follow dots, and what may follow anything else.
- `Section.Delimits`: literal text behind a reference to a value does not go on with its name.
- `glues`: whether `@@table` stands right behind such a reference.
- `Reading.behind`, `Reading.Delimited`: the same two facts about what was read so far, section
  by section (`delimited_collect`, `delimited_add`).
- `Reading.Loose`: what a reading has to do with the rest of a template. Every piece keeps it
  (`loose_readPiece`).
- `parted_of_tokenize`, `legible_of_tokenize`: no two literal texts stand side by side, paths are
  names, and no literal text has the sign of a reference.
- `delimited_of_tokenize`: the sections of a template are delimited exactly where no table name
  that goes on with a name is glued.
-/

namespace QueryGen.Template

/-! ## Dots -/

theorem dotsOnly_nil : DotsOnly [] := by simp [DotsOnly]

theorem dotsOnly_dot_cons_iff {cs : List Char} : DotsOnly ('.' :: cs) ↔ DotsOnly cs := by
  rw [DotsOnly, List.takeWhile_cons_of_pos (by decide), List.forall_mem_cons]
  exact and_iff_right rfl

/-- What follows a name without a dot before it. -/
theorem dotsOnly_cons_iff {c : Char} (hc : c ≠ '.') (cs : List Char) :
    DotsOnly (c :: cs) ↔ isNameChar c = false := by
  refine ⟨fun h => ?_, fun h => dotsOnly_cons h cs⟩
  cases hn : isNameChar c with
  | false => rfl
  | true => exact absurd (h c (by simp [hn])) hc

/-- A text goes on with a name where its dots do. -/
theorem dotsOnly_append (front rest : List Char) :
    DotsOnly (front ++ rest) ↔ DotsOnly front ∧ (front.all (· == '.') = true → DotsOnly rest) := by
  induction front with
  | nil => simp [dotsOnly_nil]
  | cons c more ih =>
    by_cases hc : c = '.'
    · subst hc
      simp only [List.cons_append, dotsOnly_dot_cons_iff, ih, List.all_cons, beq_self_eq_true,
        Bool.true_and]
    · simp [List.cons_append, dotsOnly_cons_iff hc, hc]

theorem dotsOnly_of_isBlankText {cs : List Char} (h : Text.isBlankText cs = true) :
    DotsOnly cs := by
  cases cs with
  | nil => exact dotsOnly_nil
  | cons c more =>
    refine dotsOnly_cons ?_ more
    cases hn : isNameChar c with
    | false => rfl
    | true =>
      have hb := List.all_eq_true.1 h c List.mem_cons_self
      rw [isBlank_of_isNameChar hn] at hb
      cases hb

end Template

open Template (DotsOnly)

/-! ## Sections side by side -/

namespace Section

def isLiteral : Section → Bool
  | literal _ => true
  | _ => false

def isData : Section → Bool
  | data _ => true
  | _ => false

/-- Literal text behind a reference to a value does not go on with its name. -/
def Delimits : Section → Section → Prop
  | data _, literal text => DotsOnly text.toList
  | _, _ => True

/-- Two sections that are not both literal text. -/
def Parted (s t : Section) : Prop := ¬(s.isLiteral = true ∧ t.isLiteral = true)

theorem delimits_of_not_isLiteral {s t : Section} (h : t.isLiteral = false) : s.Delimits t := by
  cases t with
  | literal text => cases h
  | data ref | quoted ref | branch cond | otherwise cond | loop range | join kind | close =>
    cases s <;> exact trivial

theorem delimits_literal_iff {s : Section} {text : String} :
    s.Delimits (.literal text) ↔ (s.isData = true → DotsOnly text.toList) := by
  cases s <;> simp [Delimits, isData]

end Section

namespace Template

/-! ## Sections that are read -/

section Pieces

variable {scope : Scope} {receiver : Option String} {source : String} {r r' : Reading}

/-- A reference is the name of the table, or it adds a section behind the collected text. -/
theorem cases_of_readRef {doubled : Bool} {name : List Char}
    (h : readRef scope source r doubled name = .ok r') :
    (doubled = true ∧ name = Reserved.table.toList ∧
        r' = { r with buffer := r.buffer.writeRaw scope.table.toList }) ∨
      ¬(doubled = true ∧ name = Reserved.table.toList) ∧ ∃ ref : ParamRef,
        ref.path = .ofList name ∧
          r' = (r.flush true).add (if doubled then .quoted ref else .data ref) := by
  unfold readRef at h
  split at h
  · next ht =>
    cases h
    exact .inl ⟨ht.1, ht.2, rfl⟩
  · next ht =>
    obtain ⟨ref, href, h⟩ := bind_eq_ok_iff.1 h
    refine .inr ⟨ht, ref, path_of_resolve href, ?_⟩
    cases doubled with
    | false =>
      cases h
      rfl
    | true =>
      simp only [↓reduceIte] at h ⊢
      split at h
      · cases h
        rfl
      · cases h

/-- A directive adds a section that is no SQL text. -/
theorem added_of_readBody {body : List Char}
    (h : readBody scope receiver source (r.flush false) body = .ok r') :
    ∃ s : Section, s.isSql = false ∧ r'.reversed = s :: (r.flush false).reversed ∧
      r'.buffer = .empty := by
  obtain ⟨d, hd, -⟩ := bind_eq_ok_iff.1 h
  obtain ⟨s, hrev, hbuffer, hs⟩ := section_of_readBody hd h
  exact ⟨s, (text_of_sectionDirective? hs).2, hrev, by rw [hbuffer, buffer_flush]⟩

end Pieces

/-! ## Table names behind references -/

/-- Whether `@@table` stands right behind a reference to a value, or behind dots that follow one.
`behind` says whether the pieces themselves stand there. -/
def glues (behind : Bool) : List Piece → Bool
  | [] => false
  | .ref false _ :: rest => glues true rest
  | .ref true name :: rest => (behind && name == Reserved.table.toList) || glues false rest
  | .plain c :: rest => glues (behind && c == '.') rest
  | _ :: rest => glues false rest

namespace Reading

/-- Whether what was read ends in a reference to a value, dots apart. -/
def behind (r : Reading) : Bool :=
  r.reversed.head?.any Section.isData && r.buffer.text.all (· == '.')

/-- The sections so far, the collected text as the last of them. -/
def completed (r : Reading) : List Section :=
  r.reversed.reverse ++ [.literal (.ofList r.buffer.text)]

/-- No literal text so far goes on with a name. -/
def Delimited (r : Reading) : Prop := r.completed.IsChain Section.Delimits

end Reading

variable {scope : Scope} {receiver : Option String} {source : String} {r r' : Reading}

theorem delimited_iff :
    r.Delimited ↔ r.reversed.reverse.IsChain Section.Delimits ∧
      (r.reversed.head?.any Section.isData = true → DotsOnly r.buffer.text) := by
  rw [Reading.Delimited, Reading.completed, List.isChain_append, List.getLast?_reverse]
  cases r.reversed.head? <;> simp [Section.delimits_literal_iff]

/-- Text is collected. -/
theorem delimited_collect {cs : List Char} (hr : r'.reversed = r.reversed)
    (hb : r'.buffer.text = r.buffer.text ++ cs) :
    r'.Delimited ↔ r.Delimited ∧ (r.behind = true → DotsOnly cs) := by
  rw [delimited_iff, delimited_iff, hr, hb, dotsOnly_append, Reading.behind, Bool.and_eq_true]
  tauto

theorem behind_collect {cs : List Char} (hr : r'.reversed = r.reversed)
    (hb : r'.buffer.text = r.buffer.text ++ cs) :
    r'.behind = (r.behind && cs.all (· == '.')) := by
  rw [Reading.behind, Reading.behind, hr, hb, List.all_append, Bool.and_assoc]

/-- What is dropped when collected text becomes a section delimits nothing. -/
theorem isChain_flush (keepBlank : Bool) :
    (r.flush keepBlank).reversed.reverse.IsChain Section.Delimits ↔ r.Delimited := by
  unfold Reading.flush
  split
  · next h =>
    have hdots : DotsOnly r.buffer.text := by
      simp only [Bool.or_eq_true, Bool.and_eq_true, SqlBuffer.isEmpty_iff, SqlBuffer.isBlank_eq]
        at h
      rcases h with h | h
      · rw [h]
        exact dotsOnly_nil
      · exact dotsOnly_of_isBlankText h.2
    rw [delimited_iff]
    exact ⟨fun hc => ⟨hc, fun _ => hdots⟩, And.left⟩
  · rw [Reading.Delimited, Reading.completed, Reading.add, List.reverse_cons]

/-- A section that is no literal text is added behind the collected text. -/
theorem delimited_add {s : Section} {keepBlank : Bool} (hs : s.isLiteral = false)
    (hr : r'.reversed = s :: (r.flush keepBlank).reversed) (hb : r'.buffer = .empty) :
    (r'.Delimited ↔ r.Delimited) ∧ r'.behind = s.isData := by
  constructor
  · rw [delimited_iff, hr, hb, List.reverse_cons, List.isChain_append, isChain_flush]
    simp only [List.isChain_singleton, true_and, List.head?_cons, Option.mem_some_iff,
      forall_eq', SqlBuffer.text_empty, dotsOnly_nil, implies_true, and_true]
    exact and_iff_left fun _ _ => Section.delimits_of_not_isLiteral hs
  · simp [Reading.behind, hr, hb]

/-- The parts of a reading that glued names depend on: where they can go on, they do not, and the
pieces that are left glue no table name to a reference unless it is harmless. -/
def Reading.Loose (table : String) (r : Reading) (ps : List Piece) : Prop :=
  r.Delimited ∧ (DotsOnly table.toList ∨ glues r.behind ps = false)

/-- Text is collected that does not go on with a name. -/
theorem loose_collect (cs : List Char) {p : Piece} {rest : List Char} {table : String}
    {ps : List Piece}
    (hr : r'.reversed = r.reversed) (hb : r'.buffer.text = r.buffer.text ++ cs)
    (hcs : r.behind = true → DotsOnly cs)
    (hglues : glues r.behind (p :: ps) = glues (r.behind && cs.all (· == '.')) ps)
    (hrest : r.behind = true → cs.all (· == '.') = true → DotsOnly rest) :
    (r'.behind = true → DotsOnly rest) ∧ (r'.Loose table ps ↔ r.Loose table (p :: ps)) := by
  have hbehind := behind_collect hr hb
  constructor
  · rw [hbehind, Bool.and_eq_true]
    exact fun h => hrest h.1 h.2
  · rw [Reading.Loose, Reading.Loose, hbehind, hglues, delimited_collect hr hb,
      and_iff_left hcs]

theorem loose_plain {c : Char} {rest : List Char} {table : String} (ps : List Piece)
    (hr : r'.reversed = r.reversed) (hb : r'.buffer = r.buffer.writeSql c)
    (h : r.behind = true → DotsOnly (c :: rest)) :
    (r'.behind = true → DotsOnly rest) ∧
      (r'.Loose table ps ↔ r.Loose table (.plain c :: ps)) := by
  cases hs : SqlBuffer.isSpace c with
  | false =>
    refine loose_collect [c] hr ?_ (fun hbehind => ?_) ?_ fun hbehind hdot => ?_
    · rw [hb, SqlBuffer.text_writeSql_of_not_isSpace hs]
    · exact ((dotsOnly_append [c] rest).1 (h hbehind)).1
    · simp [glues]
    · exact ((dotsOnly_append [c] rest).1 (h hbehind)).2 hdot
  | true =>
    have hc : (c == '.') = false := by
      rw [beq_eq_false_iff_ne]
      rintro rfl
      exact absurd hs (by decide)
    rcases writeSql_of_isSpace (b := r.buffer) hs with ⟨hsame, front, htext⟩ | ⟨htext, -⟩
    · -- Behind a space no name goes on.
      have hbehind : r.behind = false := by simp [Reading.behind, htext]
      refine loose_collect [] hr (by rw [hb, hsame, List.append_nil]) ?_ ?_ ?_
      · simp [hbehind]
      · simp [hbehind, glues]
      · simp [hbehind]
    · refine loose_collect [' '] hr (by rw [hb, htext]) (fun _ => ?_) ?_ fun _ hdot => ?_
      · exact dotsOnly_cons (by decide) []
      · simp [glues, hc]
      · exact absurd hdot (by decide)

theorem loose_table {rest : List Char} (ps : List Piece) (hr : r'.reversed = r.reversed)
    (hb : r'.buffer = r.buffer.writeRaw scope.table.toList) (hrest : DotsOnly rest) :
    (r'.behind = true → DotsOnly rest) ∧
      (r'.Loose scope.table ps ↔ r.Loose scope.table (.ref true Reserved.table.toList :: ps)) := by
  have htext : r'.buffer.text = r.buffer.text ++ scope.table.toList := by
    rw [hb, SqlBuffer.text_writeRaw]
  refine ⟨fun _ => hrest, ?_⟩
  rw [Reading.Loose, Reading.Loose, delimited_collect hr htext, behind_collect hr htext, glues]
  cases r.behind with
  | false => simp
  | true => simp only [true_imp_iff, beq_self_eq_true, Bool.and_self, Bool.true_or]; tauto

/-- A section is added that is no literal text. -/
theorem loose_add {p : Piece} {s : Section} {keepBlank : Bool} {rest : List Char} {table : String}
    {ps : List Piece} (hs : s.isLiteral = false)
    (hr : r'.reversed = s :: (r.flush keepBlank).reversed) (hb : r'.buffer = .empty)
    (hglues : glues r.behind (p :: ps) = glues s.isData ps)
    (hrest : s.isData = true → DotsOnly rest) :
    (r'.behind = true → DotsOnly rest) ∧ (r'.Loose table ps ↔ r.Loose table (p :: ps)) := by
  obtain ⟨hdelimited, hbehind⟩ := delimited_add hs hr hb
  rw [Reading.Loose, Reading.Loose, hdelimited, hbehind, hglues]
  exact ⟨hrest, Iff.rfl⟩

/-- Reading a piece leaves what the rest of the template has to do. -/
theorem loose_readPiece {p : Piece} {rest : List Char} (ps : List Piece) (hp : p.Fits rest)
    (h : r.behind = true → DotsOnly (p.source ++ rest))
    (hn : readPiece scope receiver source r p = .ok r') :
    (r'.behind = true → DotsOnly rest) ∧
      (r'.Loose scope.table ps ↔ r.Loose scope.table (p :: ps)) := by
  cases hp with
  | plain =>
    cases hn
    exact loose_plain ps rfl rfl h
  | @quoted q s _ hq hs =>
    cases hn
    have hn : isNameChar q = false := by
      simp only [isQuote, Bool.or_eq_true, beq_iff_eq] at hq
      rcases hq with (rfl | rfl) | rfl <;> decide
    have hdot : ((q :: s).all (· == '.')) = false := by
      simp only [isQuote, Bool.or_eq_true, beq_iff_eq] at hq
      rcases hq with (rfl | rfl) | rfl <;> rfl
    refine loose_collect (q :: s) rfl (SqlBuffer.text_writeRaw _ _) (fun _ => ?_) ?_ ?_
    · exact dotsOnly_cons hn s
    · simp only [hdot, Bool.and_false, glues]
    · simp only [hdot, Bool.false_eq_true, false_implies, implies_true]
  | escapedAt =>
    cases hn
    refine loose_collect ['@'] rfl (SqlBuffer.text_writeRaw _ _) (fun _ => ?_) ?_ ?_
    · exact dotsOnly_cons (by decide) []
    · simp [glues]
    · simp
  | @ref doubled name _ hname hk =>
    rcases cases_of_readRef hn with ⟨rfl, rfl, rfl⟩ | ⟨htable, ref, -, rfl⟩
    · exact loose_table ps rfl rfl hk
    · cases doubled with
      | false =>
        exact loose_add (s := .data ref) rfl rfl (by simp [Reading.add]) rfl fun _ => hk
      | true =>
        have hname : (name == Reserved.table.toList) = false :=
          beq_eq_false_iff_ne.2 fun he => htable ⟨rfl, he⟩
        exact loose_add (s := .quoted ref) rfl rfl (by simp [Reading.add])
          (by simp [glues, hname, Section.isData]) (by simp [Section.isData])
  | @directive body _ hbody =>
    obtain ⟨s, hsql, hrev, hbuffer⟩ := added_of_readBody hn
    have hdata : s.isData = false := by cases s <;> first | rfl | cases hsql
    exact loose_add (by cases s <;> first | rfl | cases hsql) hrev hbuffer (by rw [hdata]; rfl)
      (by simp [hdata])

/-- Reading keeps what follows every reference apart exactly where no piece glues a table name. -/
theorem loose_foldlM {cs : List Char} (h : r.behind = true → DotsOnly cs)
    (hn : (pieces cs).foldlM (readPiece scope receiver source) r = .ok r') :
    r'.Delimited ↔ r.Loose scope.table (pieces cs) := by
  fun_induction pieces cs generalizing r with
  | case1 =>
    cases hn
    simp [Reading.Loose, glues]
  | case2 c rest ih =>
    rw [List.foldlM_cons] at hn
    obtain ⟨next, hnext, hn⟩ := bind_eq_ok_iff.1 hn
    have hfits : (firstPiece c rest).1.Fits (firstPiece c rest).2 :=
      fits_of_firstPiece rfl fun more he => by
        rw [he] at hnext
        cases hnext
    rw [← source_firstPiece c rest] at h
    obtain ⟨hopen, hloose⟩ := loose_readPiece (pieces (firstPiece c rest).2) hfits h hnext
    exact (ih hopen hn).trans hloose

/-! ## What sections are made of -/

/-- No two literal texts stand side by side, and none is the last section while text is
collected. -/
def Reading.Parted (r : Reading) : Prop :=
  r.reversed.reverse.IsChain Section.Parted ∧ r.reversed.head?.any Section.isLiteral = false

theorem Reading.Parted.flush (h : r.Parted) (keepBlank : Bool) :
    (r.flush keepBlank).reversed.reverse.IsChain Section.Parted := by
  rcases reversed_flush r keepBlank with he | ⟨text, he⟩
  · rw [he]
    exact h.1
  · rw [he, List.reverse_cons, List.isChain_append, List.getLast?_reverse]
    refine ⟨h.1, .singleton _, fun s hs t _ hp => ?_⟩
    have hlast := h.2
    rw [Option.mem_def.1 hs, Option.any_some, hp.1] at hlast
    cases hlast

theorem Reading.Parted.add (h : r.Parted) {s : Section} {keepBlank : Bool}
    (hs : s.isLiteral = false) (hr : r'.reversed = s :: (r.flush keepBlank).reversed) :
    r'.Parted := by
  refine ⟨?_, by simp [hr, hs]⟩
  rw [hr, List.reverse_cons, List.isChain_append]
  refine ⟨h.flush keepBlank, .singleton _, fun _ _ t ht hp => ?_⟩
  obtain rfl : s = t := by simpa using ht
  rw [hs] at hp
  cases hp.2

/-- Collected text becomes a section only where another one is added behind it. -/
theorem parted_of_tokenize {template : String} {sections : List Section}
    (h : tokenize template scope receiver = .ok sections) : sections.IsChain Section.Parted := by
  have step : ∀ r p r', p ∈ pieces template.toList → r.Parted →
      p.IsRead scope (trimmed template) r r' → r'.Parted := by
    intro r p r' _ hr hn
    cases hn with
    | text buffer => exact hr
    | data | quoted | branch | otherwise | join | close | loop => exact hr.add rfl rfl
  obtain ⟨r, hr, rfl⟩ := tokenize_induction (by simp [Reading.Parted]) step h
  exact hr.flush false

/-- A piece of a template fits some text. -/
theorem fits_of_mem_pieces {cs : List Char} {p : Piece} (h : p ∈ pieces cs)
    (hp : ∀ rest, p ≠ .broken rest) : ∃ rest, p.Fits rest := by
  fun_induction pieces cs with
  | case1 => cases h
  | case2 c rest ih =>
    rcases List.mem_cons.1 h with rfl | h
    · exact ⟨_, fits_of_firstPiece rfl hp⟩
    · exact ih h

/-- A piece whose text is copied as it is. -/
def Piece.isVerbatim : Piece → Bool
  | quoted _ => true
  | escapedAt => true
  | _ => false

/-- A literal text without a sign of a reference, or a reference to a name. -/
def Legible : Section → Prop
  | .literal text => '@' ∉ text.toList
  | .data ref => IsName ref.path.toList
  | _ => True

/-- The sections of what was read and the collected text are of this kind. -/
def Reading.Legible (r : Reading) : Prop :=
  (∀ s ∈ r.reversed, Template.Legible s) ∧ '@' ∉ r.buffer.text

theorem Reading.Legible.flush (h : r.Legible) (keepBlank : Bool) :
    ∀ s ∈ (r.flush keepBlank).reversed, Template.Legible s := by
  rcases flush_cases r keepBlank with he | he
  · rw [he]
    exact h.1
  · rw [he]
    exact List.forall_mem_cons.2 ⟨by simpa [Template.Legible] using h.2, h.1⟩

theorem Reading.Legible.add (h : r.Legible) {s : Section} {keepBlank : Bool}
    (hs : Template.Legible s) (hr : r'.reversed = s :: (r.flush keepBlank).reversed)
    (hb : r'.buffer = .empty) : r'.Legible := by
  rw [Reading.Legible, hr, hb]
  exact ⟨List.forall_mem_cons.2 ⟨hs, h.flush keepBlank⟩, by simp⟩

theorem at_notMem_writeSql {b : SqlBuffer} {c : Char} (hc : c ≠ '@') (h : '@' ∉ b.text) :
    '@' ∉ (b.writeSql c).text := by
  cases hs : SqlBuffer.isSpace c with
  | false => simp [SqlBuffer.text_writeSql_of_not_isSpace hs, h, hc.symm]
  | true =>
    rcases writeSql_of_isSpace (b := b) hs with ⟨hsame, -⟩ | ⟨htext, -⟩
    · rwa [hsame]
    · simp [htext, h]

theorem Reading.Legible.readPiece {p : Piece} {rest : List Char} (h : r.Legible)
    (hp : p.Fits rest) (hverbatim : p.isVerbatim = false) (htable : '@' ∉ scope.table.toList)
    (hn : readPiece scope receiver source r p = .ok r') : r'.Legible := by
  cases hp with
  | plain _ hat =>
    cases hn
    exact ⟨h.1, at_notMem_writeSql hat h.2⟩
  | quoted | escapedAt => cases hverbatim
  | @ref doubled name _ hname _ =>
    rcases cases_of_readRef hn with ⟨-, -, rfl⟩ | ⟨-, ref, hpath, rfl⟩
    · exact ⟨h.1, by simp [h.2, htable]⟩
    · refine h.add (s := if doubled then .quoted ref else .data ref) ?_ rfl (by simp [Reading.add])
      cases doubled with
      | false => simpa [Template.Legible, hpath] using hname
      | true => trivial
  | directive =>
    obtain ⟨s, hsql, hrev, hbuffer⟩ := added_of_readBody hn
    exact h.add (by cases s <;> trivial) hrev hbuffer

/-- The sign of a reference comes from references alone, in a template without quoted strings and
`\@`. -/
theorem legible_of_tokenize {template : String} {sections : List Section}
    (hverbatim : ∀ p ∈ pieces template.toList, p.isVerbatim = false)
    (htable : '@' ∉ scope.table.toList) (h : tokenize template scope receiver = .ok sections) :
    ∀ s ∈ sections, Legible s := by
  have step : ∀ r p r', p ∈ pieces template.toList → r.Legible →
      readPiece scope receiver (trimmed template) r p = .ok r' → r'.Legible := by
    intro r p r' hp hr hn
    obtain ⟨rest, hfits⟩ := fits_of_mem_pieces hp fun more he => by
      rw [he] at hn
      cases hn
    exact hr.readPiece hfits (hverbatim p hp) htable hn
  obtain ⟨r, hr, rfl⟩ := tokenize_readPiece_induction (by simp [Reading.Legible]) step h
  exact fun s hs => hr.flush false s (List.mem_reverse.1 hs)

/-! ## Delimited templates -/

/-- The literal texts of a template go on with no name exactly where no table name does that is
put right behind a reference. -/
theorem delimited_of_tokenize {template : String} {sections : List Section}
    (h : tokenize template scope receiver = .ok sections) :
    sections.IsChain Section.Delimits ↔
      DotsOnly scope.table.toList ∨ glues false (pieces template.toList) = false := by
  obtain ⟨r, hr, hsections⟩ := bind_eq_ok_iff.1 h
  cases hsections
  rw [Reading.sections, isChain_flush, loose_foldlM (by simp [Reading.behind]) hr, Reading.Loose]
  refine and_iff_right ?_
  simp [delimited_iff]

end Template

end QueryGen
