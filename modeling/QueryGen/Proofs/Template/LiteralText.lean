import Mathlib
import QueryGen.Proofs.Template.Delimiting

/-!
# Literal text

What the pieces of literal SQL are collected to, and where the name of the table stands in it.

- `Glyph`: a character of literal text, or the place of the table name.
- `squeeze`: one space for every maximal run of blanks.
- `Piece.isText`, `Piece.glyphs`: the pieces that are literal text, and their glyphs.
- `SqlBuffer.Holds`: a buffer holds the glyphs that were read, squeezed. Every piece of text keeps
  this (`Holds.readPiece`).
- `IsTableName`: the names of tables with which text is blank where it would be with any other
  (`isBlankText_spelled`).
- `foldlM_readPiece_text`: what pieces of text are collected to.
-/

namespace QueryGen.Template

/-! ## Glyphs -/

/-- A character of literal text, or the place of the table name in it. -/
inductive Glyph where
  /-- A character of SQL text. -/
  | loose (c : Char)
  /-- A character that is copied as it is. -/
  | fixed (c : Char)
  /-- The place of the table name. -/
  | table
deriving DecidableEq, Repr

namespace Glyph

/-- A blank of SQL text. -/
def isSpace : Glyph → Bool
  | loose c => SqlBuffer.isSpace c
  | _ => false

/-- A blank of any kind. -/
def isBlank : Glyph → Bool
  | loose c | fixed c => Text.isBlank c
  | .table => false

/-- The characters that are written, for a table of the given name. -/
def text (table : String) : Glyph → List Char
  | loose c | fixed c => [c]
  | .table => table.toList

theorem isBlank_of_isSpace {g : Glyph} (h : g.isSpace = true) : g.isBlank = true := by
  cases g with
  | loose c =>
    simp only [isSpace, SqlBuffer.isSpace, Bool.or_eq_true, beq_iff_eq] at h
    rcases h with ((rfl | rfl) | rfl) | rfl <;> decide
  | fixed c | table => cases h

end Glyph

/-- Glyphs with one space for every maximal run of blanks. -/
def squeeze (gs : List Glyph) : List Glyph :=
  (gs.splitBy fun g h => g.isSpace && h.isSpace).flatMap fun run =>
    if run.all Glyph.isSpace then [.loose ' '] else run

/-- The text that glyphs are written as, for a table of the given name. -/
def spelled (table : String) (gs : List Glyph) : List Char :=
  (squeeze gs).flatMap (Glyph.text table)

/-- No run of blanks goes on where two texts meet. -/
theorem squeeze_append {front back : List Glyph}
    (h : front.getLast?.any Glyph.isSpace = false ∨ back.head?.any Glyph.isSpace = false) :
    squeeze (front ++ back) = squeeze front ++ squeeze back := by
  unfold squeeze
  rw [List.splitBy_append, List.flatMap_append]
  intro x hx y hy
  rw [Option.mem_def.1 hx, Option.mem_def.1 hy, Option.any_some, Option.any_some] at h
  exact Bool.and_eq_false_iff.2 h

/-- A run of blanks becomes one space. -/
theorem squeeze_of_isSpace {run : List Glyph} (hne : run ≠ [])
    (h : ∀ g ∈ run, g.isSpace = true) : squeeze run = [.loose ' '] := by
  have hchain : run.IsChain fun g k => (g.isSpace && k.isSpace) = true := by
    rw [List.isChain_iff_getElem]
    intro i hi
    simp [h _ (List.getElem_mem _)]
  rw [squeeze, List.splitBy_of_isChain hne hchain, List.flatMap_singleton,
    if_pos (List.all_eq_true.2 h)]

/-- Text without blanks stays as it is. -/
theorem squeeze_of_not_isSpace {gs : List Glyph} (h : ∀ g ∈ gs, g.isSpace = false) :
    squeeze gs = gs := by
  induction gs with
  | nil => rfl
  | cons g rest ih =>
    obtain ⟨hg, hrest⟩ := List.forall_mem_cons.1 h
    rw [← List.singleton_append, squeeze_append (.inl (by simpa using hg)), ih hrest]
    simp [squeeze, List.splitBy_of_isChain, hg]

/-- A text that ends in a blank ends in a run of blanks. -/
theorem exists_run {gs : List Glyph} (h : gs.getLast?.any Glyph.isSpace = true) :
    ∃ front run, gs = front ++ run ∧ front.getLast?.any Glyph.isSpace = false ∧ run ≠ [] ∧
      ∀ g ∈ run, g.isSpace = true := by
  refine ⟨gs.rdropWhile Glyph.isSpace, gs.rtakeWhile Glyph.isSpace,
    List.rdropWhile_append_rtakeWhile.symm, ?front, ?ne, fun g hg => List.mem_rtakeWhile_imp hg⟩
  case front =>
    by_cases hnil : gs.rdropWhile Glyph.isSpace = []
    · simp [hnil]
    · rw [List.getLast?_eq_some_getLast hnil]
      simpa using List.rdropWhile_last_not Glyph.isSpace gs hnil
  case ne =>
    cases gs using List.reverseRecOn with
    | nil => simp at h
    | append_singleton rest g =>
      rw [List.rtakeWhile_concat_pos _ _ _ (by simpa using h)]
      simp

theorem squeeze_append_run {front run : List Glyph}
    (hfront : front.getLast?.any Glyph.isSpace = false) (hne : run ≠ [])
    (hrun : ∀ g ∈ run, g.isSpace = true) :
    squeeze (front ++ run) = squeeze front ++ [.loose ' '] := by
  rw [squeeze_append (.inl hfront), squeeze_of_isSpace hne hrun]

/-- A blank behind a blank is dropped. -/
theorem squeeze_concat_of_isSpace {gs : List Glyph} {g : Glyph}
    (hlast : gs.getLast?.any Glyph.isSpace = true) (hg : g.isSpace = true) :
    squeeze (gs ++ [g]) = squeeze gs := by
  obtain ⟨front, run, rfl, hfront, hne, hrun⟩ := exists_run hlast
  rw [List.append_assoc, squeeze_append_run hfront hne hrun,
    squeeze_append_run hfront (by simp) (List.forall_mem_append.2 ⟨hrun, by simpa using hg⟩)]

/-- Behind a blank the text ends in a space. -/
theorem getLast?_squeeze {gs : List Glyph} (h : gs.getLast?.any Glyph.isSpace = true) :
    (squeeze gs).getLast? = some (.loose ' ') := by
  obtain ⟨front, run, rfl, hfront, hne, hrun⟩ := exists_run h
  rw [squeeze_append_run hfront hne hrun, List.getLast?_concat]

/-- Nothing but spaces is put in. -/
theorem mem_of_mem_squeeze {gs : List Glyph} {g : Glyph} (h : g ∈ squeeze gs) :
    g ∈ gs ∨ g = .loose ' ' := by
  obtain ⟨run, hrun, hg⟩ := List.mem_flatMap.1 h
  split at hg
  · exact .inr (List.mem_singleton.1 hg)
  · refine .inl ?_
    rw [← List.flatten_splitBy (fun g h => g.isSpace && h.isSpace) gs]
    exact List.mem_flatten_of_mem hrun hg

/-- Text without the place of a table name is the same for every table. -/
theorem spelled_of_table_notMem {gs : List Glyph} (h : .table ∉ gs) (table other : String) :
    spelled table gs = spelled other gs := by
  refine List.flatMap_congr fun g hg => ?_
  cases g with
  | loose c | fixed c => rfl
  | table =>
    rcases mem_of_mem_squeeze hg with hmem | he
    · exact absurd hmem h
    · cases he

/-! ## Pieces of text -/

/-- The pieces that are literal text. -/
def Piece.isText : Piece → Bool
  | plain _ => true
  | quoted _ => true
  | escapedAt => true
  | ref doubled name => doubled && name == Reserved.table.toList
  | _ => false

/-- The glyphs of a piece of literal text. -/
def Piece.glyphs : Piece → List Glyph
  | plain c => [.loose c]
  | quoted cs => cs.map .fixed
  | escapedAt => [.fixed '@']
  | ref _ _ => [.table]
  | directive _ | broken _ => []

/-- A name that begins and ends with a character that is no blank. -/
structure IsTableName (table : String) : Prop where
  ne_nil : table.toList ≠ []
  trimmed : Text.Trimmed table.toList

/-- A blank is dropped behind a space. -/
theorem SqlBuffer.writeSql_behind_space {b : SqlBuffer} {c : Char}
    (hb : b.text.getLast? = some ' ') (hc : isSpace c = true) : b.writeSql c = b := by
  rw [text, List.getLast?_reverse] at hb
  obtain ⟨more, hmore⟩ := List.head?_eq_some_iff.1 hb
  rw [writeSql, if_pos hc]
  split
  · rfl
  · next hne => exact absurd hmore (hne more)

/-- Elsewhere a blank becomes a space. -/
theorem SqlBuffer.text_writeSql_of_isSpace {b : SqlBuffer} {c : Char}
    (hb : b.text.getLast? ≠ some ' ') (hc : isSpace c = true) :
    (b.writeSql c).text = b.text ++ [' '] := by
  rw [text, List.getLast?_reverse] at hb
  rw [writeSql, if_pos hc]
  split
  · next more hmore => simp [hmore] at hb
  · simp [text]

/-- A buffer holds glyphs that were read, with one space for every run of blanks. -/
structure SqlBuffer.Holds (table : String) (gs : List Glyph) (b : SqlBuffer) : Prop where
  text : b.text = spelled table gs
  /-- Only a blank leaves a space at the end. -/
  space : b.text.getLast? = some ' ' → gs.getLast?.any Glyph.isSpace = true

namespace SqlBuffer.Holds

variable {table : String} {gs : List Glyph} {b : SqlBuffer}

theorem empty : Holds table [] .empty := ⟨rfl, by simp⟩

/-- Glyphs that are no blanks are written as they are. -/
theorem append (h : Holds table gs b) (more : List Glyph) {b' : SqlBuffer} (hne : more ≠ [])
    (hmore : ∀ g ∈ more, g.isSpace = false)
    (ht : b'.text = b.text ++ more.flatMap (Glyph.text table))
    (hl : b'.text.getLast? ≠ some ' ') : Holds table (gs ++ more) b' where
  text := by
    have hhead : more.head?.any Glyph.isSpace = false := by
      obtain ⟨g, rest, rfl⟩ := List.exists_cons_of_ne_nil hne
      simpa using hmore g List.mem_cons_self
    rw [ht, h.text, spelled, spelled, squeeze_append (.inr hhead), squeeze_of_not_isSpace hmore,
      List.flatMap_append]
  space hs := absurd hs hl

/-- Behind a blank the text ends in a space. -/
theorem getLast? (h : Holds table gs b) (hgs : gs.getLast?.any Glyph.isSpace = true) :
    b.text.getLast? = some ' ' := by
  obtain ⟨front, hfront⟩ := List.getLast?_eq_some_iff.1 (getLast?_squeeze hgs)
  rw [h.text, spelled, hfront, List.flatMap_append]
  simp [Glyph.text]

/-- A blank is written unless one stands before it. -/
theorem blank (h : Holds table gs b) {c : Char} (hc : isSpace c = true) :
    Holds table (gs ++ [.loose c]) (b.writeSql c) := by
  have hg : (Glyph.loose c).isSpace = true := hc
  refine ⟨?_, fun _ => by simpa using hg⟩
  cases hgs : gs.getLast?.any Glyph.isSpace with
  | true =>
    rw [writeSql_behind_space (h.getLast? hgs) hc, h.text, spelled, spelled,
      squeeze_concat_of_isSpace hgs hg]
  | false =>
    have hb : b.text.getLast? ≠ some ' ' := fun hs => by
      rw [h.space hs] at hgs
      cases hgs
    rw [text_writeSql_of_isSpace hb hc, h.text, spelled, spelled,
      squeeze_append_run hgs (by simp) (by simpa using hg), List.flatMap_append]
    rfl

/-- A piece of text is written behind the glyphs that were read. The name of a table has to be a
proper one where it stands. -/
theorem readPiece (scope : Scope) (receiver : Option String) (source : String) {r : Reading}
    {p : Piece} {rest : List Char} (h : Holds scope.table gs r.buffer) (hp : p.Fits rest)
    (ht : p.isText = true) (htable : .table ∈ p.glyphs → IsTableName scope.table) :
    ∃ b, readPiece scope receiver source r p = .ok { r with buffer := b } ∧
      Holds scope.table (gs ++ p.glyphs) b := by
  cases hp with
  | @plain c =>
    refine ⟨_, rfl, ?_⟩
    cases hc : isSpace c with
    | true => exact h.blank hc
    | false =>
      have htext := text_writeSql_of_not_isSpace (b := r.buffer) hc
      refine h.append [.loose c] (List.cons_ne_nil _ _) ?_ htext ?_
      · exact List.forall_mem_singleton.2 hc
      · rw [htext, List.getLast?_concat]
        rintro ⟨⟩
        cases hc
  | @quoted q s _ hq hs =>
    have htext := text_writeRaw r.buffer (q :: s)
    refine ⟨_, rfl, h.append ((q :: s).map .fixed) (List.cons_ne_nil _ _) ?_ ?_ ?_⟩
    · exact List.forall_mem_map.2 fun c _ => rfl
    · rw [htext, List.flatMap_map]
      exact congrArg _ (List.flatMap_singleton' _).symm
    · have hne : s ≠ [] := fun he => by simp [he, closeQuote?] at hs
      rw [htext, List.getLast?_append_of_ne_nil _ (List.cons_ne_nil _ _), List.getLast?_cons,
        getLast?_of_closeQuote? hs]
      rintro ⟨⟩
      cases hq
  | escapedAt =>
    have htext := text_writeRaw r.buffer ['@']
    refine ⟨_, rfl, h.append [.fixed '@'] (List.cons_ne_nil _ _) ?_ htext ?_⟩
    · exact List.forall_mem_singleton.2 rfl
    · rw [htext, List.getLast?_concat]
      decide
  | @ref doubled name _ hn hk =>
    cases doubled with
    | false => cases ht
    | true =>
      have hname : name = Reserved.table.toList := eq_of_beq ht
      obtain ⟨hne, htrim⟩ := htable (List.mem_singleton.2 rfl)
      have htext := text_writeRaw r.buffer scope.table.toList
      refine ⟨r.buffer.writeRaw scope.table.toList, if_pos ⟨rfl, hname⟩,
        h.append [.table] (List.cons_ne_nil _ _) ?_ ?_ ?_⟩
      · exact List.forall_mem_singleton.2 rfl
      · rw [htext, List.flatMap_singleton]
        rfl
      · rw [htext, List.getLast?_append_of_ne_nil _ hne]
        exact fun hl => absurd (htrim.last _ hl) (by decide)
  | directive _ => cases ht

end SqlBuffer.Holds

/-! ## Blank text -/

theorem all_isBlank_squeeze (gs : List Glyph) :
    (squeeze gs).all Glyph.isBlank = gs.all Glyph.isBlank := by
  conv_rhs => rw [← List.flatten_splitBy (fun g h => g.isSpace && h.isSpace) gs]
  rw [squeeze, List.all_flatMap, List.all_flatten]
  refine congrArg (List.all _) (funext fun run => ?_)
  split
  · next h =>
    refine (List.all_eq_true.2 fun g hg => ?_).symm
    exact Glyph.isBlank_of_isSpace (List.all_eq_true.1 h g hg)
  · rfl

theorem squeeze_eq_nil_iff {gs : List Glyph} : squeeze gs = [] ↔ gs = [] := by
  refine ⟨fun h => ?_, fun h => by rw [h]; rfl⟩
  rw [← List.flatten_splitBy (fun g h => g.isSpace && h.isSpace) gs, List.flatten_eq_nil_iff]
  intro run hrun
  have hnil := List.flatMap_eq_nil_iff.1 h run hrun
  split at hnil
  · cases hnil
  · exact hnil

namespace IsTableName

variable {table : String} (h : IsTableName table)

include h

theorem isBlankText_text (g : Glyph) : Text.isBlankText (g.text table) = g.isBlank := by
  cases g with
  | loose c | fixed c => exact Bool.and_true _
  | table =>
    obtain ⟨c, rest, he⟩ := List.exists_cons_of_ne_nil h.ne_nil
    have hc : Text.isBlank c = false := h.trimmed.head c (by rw [he]; rfl)
    rw [Glyph.text, he, Text.isBlankText, List.all_cons, hc]
    rfl

/-- The text of glyphs is blank for every table where it is blank for one. -/
theorem isBlankText_spelled (gs : List Glyph) :
    Text.isBlankText (spelled table gs) = gs.all Glyph.isBlank := by
  rw [← all_isBlank_squeeze, spelled, Text.isBlankText, List.all_flatMap]
  exact congrArg (List.all _) (funext h.isBlankText_text)

theorem spelled_eq_nil_iff {gs : List Glyph} : spelled table gs = [] ↔ gs = [] := by
  rw [spelled, List.flatMap_eq_nil_iff, ← squeeze_eq_nil_iff, List.eq_nil_iff_forall_not_mem]
  refine forall₂_congr fun g _ => iff_of_false (fun hnil => ?_) (fun hf => hf)
  cases g with
  | loose c | fixed c => cases hnil
  | table => exact h.ne_nil hnil

end IsTableName

/-- Pieces of text are collected one after the other. -/
theorem foldlM_readPiece_text {scope : Scope} {receiver : Option String} {source : String}
    {ps : List Piece} {r : Reading} {gs : List Glyph} (h : r.buffer.Holds scope.table gs)
    (hfits : ∀ p ∈ ps, ∃ rest, p.Fits rest) (ht : ∀ p ∈ ps, p.isText = true)
    (htable : ∀ p ∈ ps, .table ∈ p.glyphs → IsTableName scope.table) :
    ∃ b, ps.foldlM (readPiece scope receiver source) r = .ok { r with buffer := b } ∧
      b.Holds scope.table (gs ++ ps.flatMap Piece.glyphs) := by
  induction ps generalizing r gs with
  | nil => exact ⟨r.buffer, rfl, by simpa using h⟩
  | cons p rest ih =>
    rw [List.forall_mem_cons] at hfits ht htable
    obtain ⟨after, hp⟩ := hfits.1
    obtain ⟨b, hread, hb⟩ := h.readPiece scope receiver source hp ht.1 htable.1
    obtain ⟨b', hrest, hb'⟩ := ih (r := { r with buffer := b }) hb hfits.2 ht.2 htable.2
    refine ⟨b', ?_, by simpa using hb'⟩
    rw [List.foldlM_cons, hread]
    exact hrest

end QueryGen.Template
