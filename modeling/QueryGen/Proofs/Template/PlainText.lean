import QueryGen.Proofs.Template.DirectiveEnd
import QueryGen.Proofs.Template.LiteralText

/-!
# Templates that are literal text

A template without references and directives is read as it stands: only blanks outside quoted
strings are collapsed, and `\@` loses its backslash.

- `marked`: the characters of a template, each with whether it belongs to a quoted string.
- `unescaped`: its glyphs, read from the marked characters alone.
- `LeavesOpen`: a quoted string of a template has no end.
- `LiteralOnly`: outside quoted strings there is no `{{`, and no `@` but in `\@`. Its pieces are
  text, with the glyphs of the marked characters, up to a quoted string that is left open
  (`pieces_of_literalOnly`).
- `tokenize_literalOnly`: what such a template is read as.
-/

namespace QueryGen.Template

/-! ## Marked characters -/

/-- Where a reader stands behind a text. -/
def CodeState.behind (escapes : Char → Bool) (state : CodeState) (cs : List Char) : CodeState :=
  cs.foldl (next escapes) state

theorem CodeState.behind_append (escapes : Char → Bool) (state : CodeState) (cs ds : List Char) :
    state.behind escapes (cs ++ ds) = (state.behind escapes cs).behind escapes ds :=
  List.foldl_append

theorem literalMarks_append (escapes : Char → Bool) (state : CodeState) (cs ds : List Char) :
    literalMarks escapes state (cs ++ ds) =
      literalMarks escapes state cs ++ literalMarks escapes (state.behind escapes cs) ds := by
  induction cs generalizing state with
  | nil => rfl
  | cons c rest ih => exact congrArg (_ :: ·) (ih (state.next escapes c))

/-- The characters of a text, each with whether it belongs to a quoted string. A backslash in a
quoted string takes the next character with it. -/
def marked (cs : List Char) : List (Char × Bool) := cs.zip (literalMarks allEscapes .code cs)

theorem marked_append {s : List Char} (h : CodeState.code.behind allEscapes s = .code)
    (after : List Char) : marked (s ++ after) = marked s ++ marked after := by
  rw [marked, literalMarks_append, h, List.zip_append (by simp)]
  rfl

theorem marked_cons {c : Char} (hc : isQuote c = false) (rest : List Char) :
    marked (c :: rest) = (c, false) :: marked rest := by
  simp [marked, literalMarks, CodeState.marks, CodeState.next, hc]

/-- A closed quoted string is marked up to its end, and there the reader is outside again. -/
theorem marks_of_closeQuote? {q : Char} {cs s after : List Char} (hq : q ≠ '\\')
    (h : closeQuote? q cs = some (s, after)) :
    s.zip (literalMarks allEscapes (.literal q) s) = s.map (·, true) ∧
      (CodeState.literal q).behind allEscapes s = .code := by
  fun_induction closeQuote? q cs generalizing s with
  | case1 => cases h
  | case2 c rest ih =>
    obtain ⟨b, hb, rfl⟩ := onto_eq_some_iff.1 h
    obtain ⟨hmarks, hbehind⟩ := ih hb
    exact ⟨congrArg (('\\', true) :: (c, true) :: ·) hmarks, hbehind⟩
  | case3 rest _ =>
    cases h
    exact ⟨rfl, (CodeState.next_literal hq).trans (if_pos rfl)⟩
  | case4 c rest hesc hne ih =>
    obtain ⟨b, hb, rfl⟩ := onto_eq_some_iff.1 h
    obtain ⟨hmarks, hbehind⟩ := ih hb
    have hc : c ≠ '\\' := by
      rintro rfl
      cases rest with
      | nil => cases hb
      | cons d more => exact hesc d more rfl rfl
    have hnext : (CodeState.literal q).next allEscapes c = .literal q :=
      (CodeState.next_literal hc).trans (if_neg hne)
    constructor
    · rw [List.singleton_append, literalMarks, hnext, List.zip_cons_cons, hmarks]
      rfl
    · rw [List.singleton_append, CodeState.behind, List.foldl_cons, hnext]
      exact hbehind

/-- In a quoted string that has no end the reader never is outside again. -/
theorem behind_of_closeQuote?_eq_none {q : Char} {cs p : List Char}
    (h : closeQuote? q cs = none) (hp : p <+: cs) :
    (CodeState.literal q).behind allEscapes p ≠ .code := by
  fun_induction closeQuote? q cs generalizing p with
  | case1 =>
    rw [List.prefix_nil.1 hp]
    exact CodeState.noConfusion
  | case2 c rest ih =>
    rcases List.prefix_cons_iff.1 hp with rfl | ⟨t, rfl, ht⟩
    · exact CodeState.noConfusion
    · rcases List.prefix_cons_iff.1 ht with rfl | ⟨u, rfl, hu⟩
      · exact CodeState.noConfusion
      · have hnext : (CodeState.literal q).behind allEscapes ('\\' :: c :: u) =
            (CodeState.literal q).behind allEscapes u := rfl
        rw [hnext]
        exact ih (Option.map_eq_none_iff.1 h) hu
  | case3 rest _ => cases h
  | case4 c rest hesc hne ih =>
    rcases List.prefix_cons_iff.1 hp with rfl | ⟨t, rfl, ht⟩
    · exact CodeState.noConfusion
    · by_cases hc : c = '\\'
      · subst hc
        -- A backslash at the end of the text escapes nothing.
        cases rest with
        | nil =>
          rw [List.prefix_nil.1 ht]
          exact CodeState.noConfusion
        | cons d more => exact absurd rfl (hesc d more rfl)
      · have hnext : (CodeState.literal q).next allEscapes c = .literal q :=
          (CodeState.next_literal hc).trans (if_neg hne)
        rw [CodeState.behind, List.foldl_cons, hnext]
        exact ih (Option.map_eq_none_iff.1 h) ht

/-- The glyphs of marked characters: `\@` outside quoted strings is the character `@`, and quoted
strings are copied. -/
def unescaped : List (Char × Bool) → List Glyph
  | ('\\', false) :: ('@', false) :: rest => .fixed '@' :: unescaped rest
  | (c, false) :: rest => .loose c :: unescaped rest
  | (c, true) :: rest => .fixed c :: unescaped rest
  | [] => []

theorem unescaped_map_true (s : List Char) (rest : List (Char × Bool)) :
    unescaped (s.map (·, true) ++ rest) = s.map .fixed ++ unescaped rest := by
  induction s with
  | nil => rfl
  | cons c more ih =>
    rw [List.map_cons, List.cons_append, unescaped, ih]
    rfl

theorem unescaped_cons {c : Char} {rest : List (Char × Bool)}
    (h : c = '\\' → rest.head? ≠ some ('@', false)) :
    unescaped ((c, false) :: rest) = .loose c :: unescaped rest := by
  rw [unescaped]
  rintro more rfl rfl
  exact h rfl rfl

/-- The text that a template is kept as where it is no reference and no directive: one space for
every run of blanks outside quoted strings, and `@` for `\@`. -/
def keptText (cs : List Char) : List Char := spelled "" (unescaped (marked cs))

theorem table_notMem_unescaped (ms : List (Char × Bool)) : .table ∉ unescaped ms := by
  fun_induction unescaped ms <;> simp_all

/-! ## Quoted strings without an end -/

/-- A text ends in a quoted string, which starts outside every other one and has no end. -/
structure LeavesOpen (cs opened : List Char) : Prop where
  starts : ∃ front, front ++ opened = cs ∧ CodeState.code.behind allEscapes front = .code
  ne_nil : opened ≠ []
  stays : ∀ p, p <+: opened → p ≠ [] → CodeState.code.behind allEscapes p ≠ .code

theorem not_leavesOpen_nil {opened : List Char} : ¬LeavesOpen [] opened := by
  rintro ⟨⟨front, he, -⟩, hne, -⟩
  exact hne (List.append_eq_nil_iff.1 he).2

/-- Text in which every quoted string ends leaves nothing open. -/
theorem leavesOpen_append_iff {s after opened : List Char}
    (h : CodeState.code.behind allEscapes s = .code) :
    LeavesOpen (s ++ after) opened ↔ LeavesOpen after opened := by
  constructor
  · rintro ⟨⟨front, he, hfront⟩, hne, hstays⟩
    rcases List.append_eq_append_iff.1 he with ⟨m, rfl, rfl⟩ | ⟨m, rfl, rfl⟩
    · rw [CodeState.behind_append, hfront] at h
      obtain rfl : m = [] := by
        by_contra hm
        exact hstays m (List.prefix_append m after) hm h
      exact ⟨⟨[], rfl, rfl⟩, hne, hstays⟩
    · rw [CodeState.behind_append, h] at hfront
      exact ⟨⟨m, rfl, hfront⟩, hne, hstays⟩
  · rintro ⟨⟨front, rfl, hfront⟩, hne, hstays⟩
    refine ⟨⟨s ++ front, List.append_assoc _ _ _, ?_⟩, hne, hstays⟩
    rw [CodeState.behind_append, h, hfront]

theorem leavesOpen_of_closeQuote?_eq_none {q : Char} {rest opened : List Char}
    (hq : isQuote q = true) (h : closeQuote? q rest = none) :
    LeavesOpen (q :: rest) opened ↔ opened = q :: rest := by
  have hstays : ∀ p, p <+: q :: rest → p ≠ [] → CodeState.code.behind allEscapes p ≠ .code := by
    intro p hp hne
    rcases List.prefix_cons_iff.1 hp with rfl | ⟨t, rfl, ht⟩
    · exact absurd rfl hne
    · rw [CodeState.behind, List.foldl_cons, CodeState.next_code hq]
      exact behind_of_closeQuote?_eq_none h ht
  constructor
  · rintro ⟨⟨front, he, hfront⟩, -, -⟩
    obtain rfl : front = [] := by
      by_contra hne
      exact hstays front ⟨opened, he⟩ hne hfront
    exact he
  · rintro rfl
    exact ⟨⟨[], rfl, rfl⟩, List.cons_ne_nil _ _, hstays⟩

/-! ## Templates that are literal text -/

/-- A text in which, outside quoted strings, `{{` does not occur and `@` only as `\@`. -/
structure LiteralOnly (cs : List Char) : Prop where
  braces : ¬[('{', false), ('{', false)] <:+: marked cs
  ats : ∀ before after, marked cs = before ++ ('@', false) :: after →
    before.getLast? = some ('\\', false)

theorem literalOnly_iff (cs : List Char) :
    LiteralOnly cs ↔ ¬[('{', false), ('{', false)] <:+: marked cs ∧
      ∀ i < (marked cs).length, (marked cs)[i]? = some ('@', false) →
        ((marked cs).take i).getLast? = some ('\\', false) := by
  refine ⟨fun h => ⟨h.braces, fun i hi hat => ?_⟩, fun h => ⟨h.1, fun before after he => ?_⟩⟩
  · refine h.ats _ ((marked cs).drop (i + 1)) ?_
    rw [List.getElem?_eq_getElem hi] at hat
    rw [← Option.some.inj hat, List.getElem_cons_drop, List.take_append_drop]
  · have hprevious := h.2 before.length (by simp [he]) (by simp [he])
    rwa [he, List.take_left] at hprevious

instance : DecidablePred LiteralOnly := fun cs => decidable_of_iff' _ (literalOnly_iff cs)

theorem LiteralOnly.of_append {s after : List Char} (h : LiteralOnly (s ++ after))
    (hs : CodeState.code.behind allEscapes s = .code)
    (hlast : (marked s).getLast? = some ('\\', false) → after.head? ≠ some '@') :
    LiteralOnly after := by
  obtain ⟨hbraces, hats⟩ := h
  rw [marked_append hs] at hbraces hats
  refine ⟨fun hi => hbraces (hi.trans (List.suffix_append _ _).isInfix), fun before more he => ?_⟩
  have hprevious := hats (marked s ++ before) more (by rw [he, List.append_assoc])
  by_cases hne : before = []
  · subst hne
    rw [List.append_nil] at hprevious
    refine absurd ?_ (hlast hprevious)
    cases after with
    | nil => cases he
    | cons c rest => exact congrArg some (congrArg Prod.fst (List.cons.inj he).1)
  · rwa [List.getLast?_append_of_ne_nil _ hne] at hprevious

/-- A piece of such a text is text itself. -/
theorem LiteralOnly.piece {p : Piece} {after : List Char} (hp : p.Fits after)
    (h : LiteralOnly (p.source ++ after)) :
    (p.isText = true ∧ .table ∉ p.glyphs) ∧ CodeState.code.behind allEscapes p.source = .code ∧
      LiteralOnly after ∧
      unescaped (marked (p.source ++ after)) = p.glyphs ++ unescaped (marked after) := by
  cases hp with
  | @plain c _ hq _ hesc _ =>
    have hc : CodeState.code.behind allEscapes [c] = .code := if_neg (by simp [hq])
    refine ⟨⟨rfl, by simp [Piece.glyphs]⟩, hc, h.of_append hc fun hlast => ?_, ?_⟩
    · rw [Piece.source, marked_cons hq] at hlast
      exact hesc (congrArg Prod.fst (Option.some.inj hlast))
    · rw [Piece.source, List.singleton_append, marked_cons hq, unescaped_cons fun he hhead => ?_]
      · rfl
      · refine hesc he ?_
        cases after with
        | nil => cases hhead
        | cons d rest => exact congrArg (Option.map Prod.fst) hhead
  | @quoted q s _ hq hs =>
    obtain ⟨hmarks, hbehind⟩ := marks_of_closeQuote? (ne_backslash_of_isQuote hq) hs
    have hc : CodeState.code.behind allEscapes (q :: s) = .code := by
      rw [CodeState.behind, List.foldl_cons, CodeState.next_code hq]
      exact hbehind
    have hm : marked (q :: s) = (q :: s).map (·, true) := by
      rw [marked, literalMarks, CodeState.next_code hq, List.zip_cons_cons, hmarks,
        CodeState.marks, hq, Bool.or_true]
      rfl
    refine ⟨⟨rfl, by simp [Piece.glyphs]⟩, hc, h.of_append hc fun hlast => ?_, ?_⟩
    · rw [Piece.source, hm, List.getLast?_map] at hlast
      obtain ⟨_, -, he⟩ := Option.map_eq_some_iff.1 hlast
      cases he
    · rw [Piece.source, marked_append hc, hm, unescaped_map_true]
      rfl
  | escapedAt =>
    exact ⟨⟨rfl, by decide⟩, rfl, h.of_append rfl fun hlast => absurd hlast (by decide), rfl⟩
  | @ref doubled name _ _ _ =>
    have hfirst : ∃ rest, marked ((Piece.ref doubled name).source ++ after) =
        [] ++ ('@', false) :: rest := by
      cases doubled with
      | false => exact ⟨_, marked_cons rfl _⟩
      | true => exact ⟨_, marked_cons rfl _⟩
    obtain ⟨rest, hrest⟩ := hfirst
    cases h.ats [] rest hrest
  | @directive body _ _ =>
    refine absurd ⟨[], ?_⟩ h.braces
    exact ⟨_, ((marked_cons rfl _).trans (congrArg _ (marked_cons rfl _))).symm⟩

/-- Nothing but a quoted string has no end in such a text. -/
theorem LiteralOnly.broken {c : Char} {rest opened after : List Char}
    (h : LiteralOnly (c :: rest)) (hp : firstPiece c rest = (.broken opened, after)) :
    isQuote c = true ∧ closeQuote? c rest = none ∧ opened = c :: rest ∧ after = [] := by
  unfold firstPiece at hp
  split at hp
  · next hq =>
    split at hp
    · cases hp
    · next hnone =>
      cases hp
      exact ⟨hq, hnone, rfl, rfl⟩
  · split at hp
    · cases hp
    · exact absurd ⟨[], _, ((marked_cons rfl _).trans (congrArg _ (marked_cons rfl _))).symm⟩
        h.braces
    · cases h.ats [] _ (marked_cons rfl _)
    · cases h.ats [] _ (marked_cons rfl _)
    · cases hp

/-- The pieces are text, with the glyphs of the marked characters, or they are text up to a quoted
string that is left open. -/
theorem pieces_of_literalOnly {cs : List Char} (h : LiteralOnly cs) :
    ((∀ p ∈ pieces cs, p.isText = true ∧ .table ∉ p.glyphs) ∧
        (pieces cs).flatMap Piece.glyphs = unescaped (marked cs) ∧
        ∀ opened, ¬LeavesOpen cs opened) ∨
      ∃ ps opened, pieces cs = ps ++ [.broken opened] ∧
        (∀ p ∈ ps, p.isText = true ∧ .table ∉ p.glyphs) ∧
        ∀ more, LeavesOpen cs more ↔ more = opened := by
  fun_induction pieces cs with
  | case1 => exact .inl ⟨by simp, rfl, fun _ => not_leavesOpen_nil⟩
  | case2 c rest ih =>
    obtain ⟨p, after, hp⟩ : ∃ p after, firstPiece c rest = (p, after) := ⟨_, _, rfl⟩
    rw [hp] at ih ⊢
    by_cases hbroken : ∃ opened, p = .broken opened
    · obtain ⟨opened, rfl⟩ := hbroken
      obtain ⟨hq, hnone, rfl, rfl⟩ := h.broken hp
      exact .inr ⟨[], c :: rest, by simp, by simp,
        fun _ => leavesOpen_of_closeQuote?_eq_none hq hnone⟩
    · have hsource : p.source ++ after = c :: rest := by
        simpa only [hp] using source_firstPiece c rest
      have hfits : p.Fits after := fits_of_firstPiece hp fun r he => hbroken ⟨r, he⟩
      rw [← hsource] at h ⊢
      obtain ⟨htext, hbehind, hafter, hglyphs⟩ := h.piece hfits
      rcases ih hafter with ⟨hall, hrest, hopen⟩ | ⟨ps, opened, hps, hall, hopen⟩
      · refine .inl ⟨List.forall_mem_cons.2 ⟨htext, hall⟩, ?_, fun opened => ?_⟩
        · rw [List.flatMap_cons, hrest, hglyphs]
        · rw [leavesOpen_append_iff hbehind]
          exact hopen opened
      · refine .inr ⟨p :: ps, opened, ?_, List.forall_mem_cons.2 ⟨htext, hall⟩, fun more => ?_⟩
        · rw [hps, List.cons_append]
        · rw [leavesOpen_append_iff hbehind]
          exact hopen more

/-- The section of collected text. -/
theorem sections_of_buffer (b : SqlBuffer) :
    Reading.sections { buffer := b } =
      if Text.isBlankText b.text then [] else [.literal (.ofList b.text)] := by
  rw [Reading.sections, Reading.flush]
  have hblank : (b.isEmpty || (!false && b.isBlank)) = Text.isBlankText b.text := by
    rw [SqlBuffer.isBlank_eq, Bool.not_false, Bool.true_and, Bool.or_eq_right_iff_imp]
    intro he
    rw [(SqlBuffer.isEmpty_iff b).1 he]
    rfl
  rw [hblank]
  split <;> rfl

/-- A template of literal text fails exactly where it leaves a quoted string open, with the text
from there on. Elsewhere it is one literal, without blanks that repeat one before them and with
`@` for `\@` outside quoted strings, or nothing where that is blank. -/
theorem tokenize_literalOnly {template : String} {scope : Scope} {receiver : Option String}
    (h : LiteralOnly template.toList) :
    (∀ e, tokenize template scope receiver = .error e ↔
        ∃ opened, LeavesOpen template.toList opened ∧ e = .incomplete (.ofList opened)) ∧
      ((∀ opened, ¬LeavesOpen template.toList opened) →
        tokenize template scope receiver =
          .ok (if Text.isBlankText (keptText template.toList) then []
            else [.literal (.ofList (keptText template.toList))])) := by
  have hfits : ∀ ps : List Piece, (∀ p ∈ ps, p ∈ pieces template.toList) →
      (∀ p ∈ ps, p.isText = true ∧ .table ∉ p.glyphs) →
      ∃ b : SqlBuffer, ps.foldlM (readPiece scope receiver (trimmed template)) {} =
          .ok { buffer := b } ∧ b.Holds scope.table (ps.flatMap Piece.glyphs) := by
    intro ps hmem hps
    have hempty : SqlBuffer.Holds scope.table [] (Reading.buffer {}) := .empty
    refine foldlM_readPiece_text hempty (fun p hp => fits_of_mem_pieces (hmem p hp) ?_)
      (fun p hp => (hps p hp).1) fun p hp htable => absurd htable (hps p hp).2
    rintro more rfl
    cases (hps _ hp).1
  rcases pieces_of_literalOnly h with ⟨hall, hglyphs, hopen⟩ | ⟨ps, opened, hpieces, hall, hopen⟩
  · obtain ⟨b, hb, hholds⟩ := hfits _ (fun _ hp => hp) hall
    have hok : tokenize template scope receiver = .ok (Reading.sections { buffer := b }) := by
      rw [tokenize, hb]
      rfl
    rw [hok, sections_of_buffer, hholds.text, hglyphs,
      spelled_of_table_notMem (table_notMem_unescaped _) scope.table "", ← keptText]
    refine ⟨fun e => ⟨fun he => ?_, ?_⟩, fun _ => rfl⟩
    · cases he
    · rintro ⟨opened, hleaves, -⟩
      exact absurd hleaves (hopen opened)
  · obtain ⟨b, hb, -⟩ := hfits ps (fun p hp => by simp [hpieces, hp]) hall
    have herror : tokenize template scope receiver = .error (.incomplete (.ofList opened)) := by
      rw [tokenize, hpieces, List.foldlM_append, hb]
      rfl
    rw [herror]
    refine ⟨fun e => ?_, fun hnone => absurd ((hopen opened).2 rfl) (hnone opened)⟩
    simp only [hopen, exists_eq_left, Except.error.injEq]
    exact eq_comm

theorem tokenize_mail_address :
    LiteralOnly "mail =\t \"a  @b\" or  \\@ ".toList ∧
      tokenize "mail =\t \"a  @b\" or  \\@ " ⟨[], "users", .empty⟩ =
        .ok [.literal "mail = \"a  @b\" or @ "] ∧
      LiteralOnly "like 'a\\'".toList ∧
      tokenize "like 'a\\'" ⟨[], "users", .empty⟩ = .error (.incomplete "'a\\'") := by
  refine ⟨by decide +kernel, ?_, by decide +kernel, ?_⟩
  · refine ((tokenize_literalOnly (by decide +kernel)).2 fun opened => ?_).trans (by decide +kernel)
    rw [← List.append_nil (String.toList _), leavesOpen_append_iff (by decide +kernel)]
    exact not_leavesOpen_nil
  · refine ((tokenize_literalOnly (by decide +kernel)).1 _).2 ⟨"'a\\'".toList, ?_, rfl⟩
    refine (leavesOpen_append_iff (s := "like ".toList) (by decide +kernel)).2 ?_
    exact (leavesOpen_of_closeQuote?_eq_none (by decide) (by decide +kernel)).2 rfl

end QueryGen.Template
