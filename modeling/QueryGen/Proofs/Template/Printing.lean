import Mathlib
import QueryGen.Proofs.Template.Fits

/-!
# Printed sections

- `printed`: sections as the text of a template.
- `resolve_congr`, `readBody_congr`: reading a piece does not depend on the text that errors show,
  nor on the spelling of a directive.
- `Reproduced`: the sections that were read so far, printed, and behind them the text that is being
  collected lead to the same state again, whatever follows that the next piece could be. Every
  piece keeps it (`Reproduced.step`).
- `tokenize_printed`: sections that are printed are read again as they are.
-/

namespace QueryGen

/-- How a section stands in a template. -/
def Section.written (s : Section) : List Char :=
  if s.isSql then s.text.toList else ['{', '{', ' '] ++ s.text.toList ++ [' ', '}', '}']

/-- Sections as the text of a template. -/
def printed (sections : List Section) : String := .ofList (sections.flatMap Section.written)

namespace Template

variable {scope : Scope} {receiver check : Option String} {source source' : String}

/-! ## What reading depends on -/

theorem fieldType_congr {owner type : GoType} {field : String}
    (h : fieldType scope source owner field = .ok type) :
    fieldType scope source' owner field = .ok type := by
  unfold fieldType at h ⊢
  split at h
  · split at h
    · exact h
    · cases h
  · simp only [] at h ⊢
    split at h
    · cases h
    · next hbase => rwa [if_neg hbase]

theorem fieldsType_congr {path : String} {fields : List String} {type last : GoType}
    (h : fieldsType scope source path type fields = .ok last) :
    fieldsType scope source' path type fields = .ok last := by
  induction fields generalizing type with
  | nil => exact h
  | cons field rest ih =>
    unfold fieldsType at h ⊢
    split at h
    · cases h
    · next hf =>
      rw [if_neg hf]
      obtain ⟨next, hn, h⟩ := bind_eq_ok_iff.1 h
      exact bind_eq_ok_iff.2 ⟨next, fieldType_congr hn, ih h⟩

/-- What a path means does not depend on the text that errors show. -/
theorem resolve_congr {r : Reading} {path : List Char} {ref : ParamRef}
    (h : resolve scope source r path = .ok ref) : resolve scope source' r path = .ok ref := by
  unfold resolve at h ⊢
  simp only [] at h ⊢
  split at h
  · cases h
  · split at h
    · cases h
    · next hroot =>
      rw [if_neg hroot]
      split at h
      · cases h
      · obtain ⟨last, hl, h⟩ := bind_eq_ok_iff.1 h
        exact bind_eq_ok_iff.2 ⟨last, fieldsType_congr hl, h⟩

theorem openLoop_congr (hcheck : check = receiver ∨ check = none)
    {body body' index value range : String} {r r' : Reading}
    (h : openLoop scope receiver source body r index value range = .ok r') :
    openLoop scope check source' body' r index value range = .ok r' := by
  unfold openLoop at h ⊢
  split at h
  · cases h
  · next hreceiver =>
    rw [if_neg (by rcases hcheck with rfl | rfl <;> simp_all)]
    split at h
    · cases h
    · next hvalue =>
      rw [if_neg hvalue]
      simp only [] at h ⊢
      split at h
      · cases h
      · next hpath =>
        rw [if_neg hpath]
        obtain ⟨found, hf, h⟩ := bind_eq_ok_iff.1 h
        exact bind_eq_ok_iff.2 ⟨found, resolve_congr hf, h⟩

/-- Another spelling of a directive is read the same way. -/
theorem readBody_congr (hcheck : check = receiver ∨ check = none) {r r' : Reading}
    {body body' : List Char} {d : Directive} (hd : classify body = .ok d)
    (hd' : classify body' = .ok d) (h : readBody scope receiver source r body = .ok r') :
    readBody scope check source' r body' = .ok r' := by
  unfold readBody at h ⊢
  rw [hd] at h
  rw [hd']
  cases d with
  | loop index value range => exact openLoop_congr hcheck h
  | branch cond | otherwise cond | join kind | close => exact h

/-! ## Collected text -/

/-- The state with no text collected. -/
def Reading.dropped (r : Reading) : Reading := { r with buffer := .empty }

/-- Whether the last section is a reference. Its name may not go on in what follows it. -/
def Reading.EndsInRef (r : Reading) : Prop :=
  ∃ s ∈ r.reversed.head?, s.kind = .data ∨ s.kind = .quoted

/-- Two texts that make no escaped `@` and no opening braces where they meet. -/
structure Apart (front back : List Char) : Prop where
  escape : front.getLast? = some '\\' → back.head? ≠ some '@'
  brace : front.getLast? = some '{' → back.head? ≠ some '{'

theorem apart_nil (back : List Char) : Apart [] back := ⟨by simp, by simp⟩

theorem Apart.congr {front back back' : List Char} (h : Apart front back)
    (hb : back.head? = back'.head?) : Apart front back' := ⟨hb ▸ h.escape, hb ▸ h.brace⟩

theorem flush_dropped (r : Reading) (keepBlank : Bool) : r.dropped.flush keepBlank = r.dropped := by
  simp [Reading.flush, Reading.dropped, SqlBuffer.isEmpty, SqlBuffer.empty]

/-- Flushing drops the collected text, or makes a section of it. -/
theorem flush_cases (r : Reading) (keepBlank : Bool) :
    r.flush keepBlank = r.dropped ∨
      r.flush keepBlank = r.dropped.add (.literal (.ofList r.buffer.text)) := by
  unfold Reading.flush
  split
  · exact .inl rfl
  · exact .inr rfl

@[simp] theorem buffer_flush (r : Reading) (keepBlank : Bool) :
    (r.flush keepBlank).buffer = .empty := by
  unfold Reading.flush
  split <;> rfl

/-! ## Reading what was printed -/

/-- The state behind a text. -/
def readText (scope : Scope) (check : Option String) (source : String) (r : Reading)
    (cs : List Char) : Except TemplateError Reading :=
  (pieces cs).foldlM (readPiece scope check source) r

theorem readText_of_fits {r r' : Reading} {p : Piece} {k : List Char} (hp : p.Fits k)
    (hr : readPiece scope check source r p = .ok r') :
    readText scope check source r (p.source ++ k) = readText scope check source r' k := by
  rw [readText, pieces_append_of_fits hp, List.foldlM_cons, hr]
  rfl

/-- What was read so far leads to the same state when it is printed: the sections to the state in
which no text is collected, and the collected text from there to the state itself. -/
structure Reproduced (scope : Scope) (check : Option String) (source : String) (r : Reading)
    (rest : List Char) : Prop where
  sections : ∀ k, (r.EndsInRef → DotsOnly k) →
    readText scope check source {} (r.reversed.reverse.flatMap Section.written ++ k) =
      readText scope check source r.dropped k
  text : ∀ k, Apart r.buffer.text k →
    readText scope check source r.dropped (r.buffer.text ++ k) = readText scope check source r k
  apart : Apart r.buffer.text rest
  dots : r.EndsInRef → DotsOnly (r.buffer.text ++ rest)

theorem reproduced_start (cs : List Char) : Reproduced scope check source {} cs where
  sections _ _ := rfl
  text _ _ := rfl
  apart := apart_nil cs
  dots := by simp [Reading.EndsInRef]

variable {r r' : Reading} {rest : List Char}

/-- Text is collected. -/
theorem Reproduced.collect {next w : List Char} (h : Reproduced scope check source r next)
    (hr : r'.dropped = r.dropped) (hw : r'.buffer.text = r.buffer.text ++ w)
    (hfront : ∀ k, Apart r'.buffer.text k → Apart r.buffer.text (w ++ k))
    (hread : ∀ k, Apart r'.buffer.text k →
      readText scope check source r (w ++ k) = readText scope check source r' k)
    (hapart : Apart r'.buffer.text rest)
    (hdots : DotsOnly (r.buffer.text ++ next) → DotsOnly (r'.buffer.text ++ rest)) :
    Reproduced scope check source r' rest where
  sections k hk := by
    have hrev : r'.reversed = r.reversed := congrArg (·.reversed) hr
    rw [hr, hrev]
    exact h.sections k (by rwa [Reading.EndsInRef, hrev] at hk)
  text k hk := by
    rw [hr, hw, List.append_assoc, h.text _ (hfront k hk), hread k hk]
  apart := hapart
  dots hend := by
    have hrev : r'.reversed = r.reversed := congrArg (·.reversed) hr
    exact hdots (h.dots (by rwa [Reading.EndsInRef, hrev] at hend))

/-- A section is added behind the collected text. -/
theorem Reproduced.add {next : List Char} {s : Section} {q : Piece} {keepBlank : Bool}
    (h : Reproduced scope check source r next)
    (hrev : r'.reversed = s :: (r.flush keepBlank).reversed) (hbuffer : r'.buffer = .empty)
    (hwritten : s.written = q.source)
    (hhead : ∃ c ∈ next.head?, isNameChar c = false ∧ q.source.head? = some c)
    (hfits : ∀ k, (s.kind = .data ∨ s.kind = .quoted → DotsOnly k) → q.Fits k)
    (hread : ∀ r₂, r₂.flush keepBlank = r.flush keepBlank →
      readPiece scope check source r₂ q = .ok r')
    (hdots : s.kind = .data ∨ s.kind = .quoted → DotsOnly rest) :
    Reproduced scope check source r' rest := by
  obtain ⟨c, hnext, hc, hq⟩ := hhead
  obtain ⟨more, rfl⟩ := List.head?_eq_some_iff.1 hnext
  obtain ⟨inner, hsource⟩ := List.head?_eq_some_iff.1 hq
  have hdropped : r'.dropped = r' := by rw [Reading.dropped, ← hbuffer]
  have hends : r'.EndsInRef ↔ (s.kind = .data ∨ s.kind = .quoted) := by
    simp [Reading.EndsInRef, hrev]
  refine ⟨fun k hk => ?_, fun k _ => ?_, ?_, fun hend => ?_⟩
  · rw [hends] at hk
    rw [hrev, hdropped]
    rcases flush_cases r keepBlank with hf | hf
    · -- the text was dropped, and the section follows the ones before it at once
      have hfront := h.sections (q.source ++ k) fun _ => by
        rw [hsource]
        exact dotsOnly_cons hc _
      rw [hf]
      simp only [Reading.dropped, List.reverse_cons, List.flatMap_append, List.flatMap_singleton,
        List.append_assoc, hwritten]
      rw [hfront]
      exact readText_of_fits (hfits k hk) (hread _ (by rw [flush_dropped, hf]))
    · have hline : (Section.literal (.ofList r.buffer.text)).written = r.buffer.text := by
        simp [Section.written, Section.isSql, Section.text]
      have hfront := h.sections (r.buffer.text ++ (q.source ++ k)) fun hend => by
        rw [hsource, List.cons_append, dotsOnly_append_cons_iff hc]
        exact (dotsOnly_append_cons_iff hc _ _).1 (h.dots hend)
      have hmid := h.text (q.source ++ k) (h.apart.congr (by rw [hsource]; rfl))
      rw [hf]
      simp only [Reading.dropped, Reading.add, List.reverse_cons, List.flatMap_append,
        List.flatMap_singleton, List.append_assoc, hwritten, hline]
      rw [hfront, hmid]
      exact readText_of_fits (hfits k hk) (hread r rfl)
  · rw [hbuffer, hdropped]
    rfl
  · rw [hbuffer]
    exact apart_nil rest
  · rw [hbuffer]
    exact hdots (hends.1 hend)

/-- A blank is dropped behind a space, and becomes one elsewhere. -/
theorem writeSql_of_isSpace {b : SqlBuffer} {c : Char} (hc : SqlBuffer.isSpace c = true) :
    (b.writeSql c = b ∧ ∃ front, b.text = front ++ [' ']) ∨
      ((b.writeSql c).text = b.text ++ [' '] ∧ b.writeSql ' ' = b.writeSql c) := by
  unfold SqlBuffer.writeSql
  rw [if_pos hc, if_pos (by decide)]
  split
  · next more hb =>
    exact .inl ⟨rfl, more.reverse, by simp [SqlBuffer.text, hb]⟩
  · exact .inr ⟨by simp [SqlBuffer.text], rfl⟩

theorem not_isNameChar_of_isSpace {c : Char} (h : SqlBuffer.isSpace c = true) :
    isNameChar c = false := by
  simp only [SqlBuffer.isSpace, Bool.or_eq_true, beq_iff_eq] at h
  rcases h with ((rfl | rfl) | rfl) | rfl <;> decide

theorem Reproduced.plain {c : Char} (h : Reproduced scope check source r (c :: rest))
    (hp : (Piece.plain c).Fits rest) :
    Reproduced scope check source { r with buffer := r.buffer.writeSql c } rest := by
  obtain ⟨hq, ha, he, hd⟩ := hp
  cases hs : SqlBuffer.isSpace c with
  | false =>
    have htext := SqlBuffer.text_writeSql_of_not_isSpace (b := r.buffer) hs
    have hlast : (r.buffer.writeSql c).text.getLast? = some c := by simp [htext]
    refine h.collect (w := [c]) rfl htext (fun k _ => h.apart.congr rfl) (fun k hk => ?_) ?_ ?_
    · exact readText_of_fits (p := .plain c)
        (.plain hq ha (fun hc => hk.escape (hc ▸ hlast)) fun hc => hk.brace (hc ▸ hlast)) rfl
    · exact ⟨fun hl => he (by simpa [hlast] using hl), fun hl => hd (by simpa [hlast] using hl)⟩
    · simp [htext]
  | true =>
    have hn : isNameChar c = false := not_isNameChar_of_isSpace hs
    rcases writeSql_of_isSpace (b := r.buffer) hs with ⟨hsame, front, htext⟩ | ⟨htext, hspace⟩
    · rw [hsame]
      refine h.collect (w := []) rfl (by simp) (fun k hk => hk) (fun k _ => rfl) ?_ ?_
      · exact ⟨by simp [htext], by simp [htext]⟩
      · simp [htext, dotsOnly_append_cons_iff (show isNameChar ' ' = false by decide)]
    · refine h.collect (w := [' ']) rfl htext (fun k _ => ⟨by simp, by simp⟩) (fun k hk => ?_) ?_ ?_
      · rw [← hspace]
        exact readText_of_fits (p := .plain ' ')
          (.plain (by decide) (by decide) (by simp) (by simp)) rfl
      · exact ⟨by simp [htext], by simp [htext]⟩
      · simp [htext, dotsOnly_append_cons_iff hn,
          dotsOnly_append_cons_iff (show isNameChar ' ' = false by decide)]

/-- What is read of a piece is read again in the printed text. -/
theorem Reproduced.step {source₀ : String} {p : Piece} (hcheck : check = receiver ∨ check = none)
    (hesc : p ≠ .escapedAt) (htable : p ≠ .ref true Reserved.table.toList) (hp : p.Fits rest)
    (hn : readPiece scope receiver source₀ r p = .ok r')
    (h : Reproduced scope check source r (p.source ++ rest)) :
    Reproduced scope check source r' rest := by
  cases hp with
  | @plain c _ hq ha he hd =>
    cases hn
    exact h.plain (.plain hq ha he hd)
  | @quoted q s _ hq hs =>
    cases hn
    have hlast : (r.buffer.writeRaw (q :: s)).text.getLast? = some q := by
      rw [SqlBuffer.text_writeRaw, List.append_cons, List.getLast?_append,
        getLast?_of_closeQuote? hs]
      rfl
    refine h.collect (w := q :: s) rfl (by simp) (fun k _ => h.apart.congr rfl)
      (fun k _ => ?_) ?_ ?_
    · exact readText_of_fits (p := .quoted (q :: s)) (.quoted hq hs) rfl
    · refine ⟨fun hl => ?_, fun hl => ?_⟩
      · rw [hlast] at hl
        cases hl
        exact absurd hq (by decide)
      · rw [hlast] at hl
        cases hl
        exact absurd hq (by decide)
    · simp [Piece.source]
  | escapedAt => exact absurd rfl hesc
  | @ref doubled name _ hname hk =>
    have hpath : ¬ (doubled = true ∧ name = Reserved.table.toList) := by
      rintro ⟨rfl, rfl⟩
      exact htable rfl
    rw [readPiece, readRef, if_neg hpath] at hn
    obtain ⟨ref, href, hn⟩ := bind_eq_ok_iff.1 hn
    have hname' := path_of_resolve href
    cases doubled with
    | false =>
      cases hn
      refine h.add (s := .data ref) (q := .ref false name) rfl (by simp [Reading.add])
        ?_ ⟨'@', rfl, by decide, rfl⟩ (fun k hk => .ref hname (hk (.inl rfl))) (fun r₂ hr₂ => ?_)
        fun _ => hk
      · simp [Section.written, Section.isSql, Section.text, Piece.source, hname']
      · rw [readPiece, readRef, if_neg hpath]
        simp only [hr₂]
        exact bind_eq_ok_iff.2 ⟨ref, resolve_congr href, rfl⟩
    | true =>
      simp only [↓reduceIte] at hn
      split at hn
      · next hstring =>
        cases hn
        refine h.add (s := .quoted ref) (q := .ref true name) rfl (by simp [Reading.add])
          ?_ ⟨'@', rfl, by decide, rfl⟩ (fun k hk => .ref hname (hk (.inr rfl))) (fun r₂ hr₂ => ?_)
          fun _ => hk
        · simp [Section.written, Section.isSql, Section.text, Piece.source, hname']
        · rw [readPiece, readRef, if_neg hpath]
          simp only [hr₂]
          refine bind_eq_ok_iff.2 ⟨ref, resolve_congr href, ?_⟩
          simp [hstring, pure, Except.pure]
      · cases hn
  | @directive body _ hbody =>
    obtain ⟨d, hd, -⟩ := bind_eq_ok_iff.1 hn
    obtain ⟨s, hrev, hbuffer, hs⟩ := section_of_readBody hd hn
    obtain ⟨htext, hsql⟩ := text_of_sectionDirective? hs
    have hkind : ¬ (s.kind = .data ∨ s.kind = .quoted) := by
      cases s <;> simp_all [Section.isSql, Section.kind]
    have hspace : ∀ c ∈ [' '], Text.isBlank c = true :=
      List.forall_mem_singleton.2 Text.isBlank_space
    have hd' := classify_text hd hspace hspace
    have hclosed := closed_text hbody hd hspace hspace (by simp)
    refine h.add (q := .directive ([' '] ++ d.text.toList ++ [' '])) hrev (by simpa using hbuffer)
      ?_ ⟨'{', rfl, by decide, rfl⟩ (fun k _ => .directive hclosed) (fun r₂ hr₂ => ?_)
      fun hk => absurd hk hkind
    · simp [Section.written, hsql, htext, Piece.source]
    · rw [readPiece, hr₂]
      exact readBody_congr hcheck hd hd' hn

theorem Reproduced.foldlM {source₀ : String} {cs : List Char}
    (hcheck : check = receiver ∨ check = none) (hesc : ¬ ['\\', '@'] <:+: cs)
    (htable : ¬ "@@table".toList <:+: cs) (h : Reproduced scope check source r cs)
    (hn : (pieces cs).foldlM (readPiece scope receiver source₀) r = .ok r') :
    Reproduced scope check source r' [] := by
  fun_induction pieces cs generalizing r with
  | case1 =>
    cases hn
    exact h
  | case2 c rest ih =>
    rw [List.foldlM_cons] at hn
    obtain ⟨next, hnext, hn⟩ := bind_eq_ok_iff.1 hn
    have hcut := source_firstPiece c rest
    have hsuffix : (firstPiece c rest).2 <:+ c :: rest := ⟨_, hcut⟩
    have hinfix : (firstPiece c rest).1.source <:+: c :: rest := ⟨[], _, by simpa using hcut⟩
    have hfits : (firstPiece c rest).1.Fits (firstPiece c rest).2 :=
      fits_of_firstPiece rfl fun more he => by
        rw [he] at hnext
        cases hnext
    refine ih (fun hi => hesc (hi.trans hsuffix.isInfix))
      (fun hi => htable (hi.trans hsuffix.isInfix)) ?_ hn
    rw [← hcut] at h
    refine h.step hcheck (fun he => ?_) (fun he => ?_) hfits hnext
    · rw [he] at hinfix
      exact hesc hinfix
    · rw [he] at hinfix
      exact htable hinfix

theorem readText_nil : readText scope check source r [] = .ok r := by
  rw [readText, pieces_nil]
  rfl

/-- A finished reading is reproduced as a whole. -/
theorem Reproduced.finish (h : Reproduced scope check source r []) :
    ∃ r₂, readText scope check source {} (r.sections.flatMap Section.written) = .ok r₂ ∧
      r₂.sections = r.sections := by
  rcases flush_cases r false with hf | hf
  · have hsections : r.sections = r.reversed.reverse := by rw [Reading.sections, hf]; rfl
    have hread := h.sections [] fun _ => by simp [DotsOnly]
    refine ⟨r.dropped, ?_, by rw [Reading.sections, flush_dropped, ← hf]; rfl⟩
    rw [hsections]
    simpa [readText_nil] using hread
  · have hsections : r.sections = r.reversed.reverse ++ [.literal (.ofList r.buffer.text)] := by
      rw [Reading.sections, hf]
      simp [Reading.add, Reading.dropped]
    have hread := h.sections (r.buffer.text ++ []) h.dots
    rw [h.text [] h.apart, readText_nil] at hread
    refine ⟨r, ?_, rfl⟩
    rw [hsections]
    simpa [Section.written, Section.isSql, Section.text] using hread

/-- Sections that are printed are read again as they are, where no `\@` and no `@@table` was in the
template that they come from. The receiver may be looked at or not. -/
theorem tokenize_printed {template : String} {sections : List Section}
    (hesc : ¬ "\\@".toList <:+: template.toList) (htable : ¬ "@@table".toList <:+: template.toList)
    (h : tokenize template scope receiver = .ok sections)
    (hcheck : check = receiver ∨ check = none) :
    tokenize (printed sections) scope check = .ok sections := by
  obtain ⟨r, hr, hsections⟩ := bind_eq_ok_iff.1 h
  have hrep : Reproduced scope check (trimmed (printed sections)) r [] :=
    (reproduced_start template.toList).foldlM hcheck hesc htable hr
  obtain rfl : r.sections = sections := Except.ok.inj hsections
  obtain ⟨r₂, hread, hsame⟩ := hrep.finish
  rw [tokenize, printed, String.toList_ofList]
  exact bind_eq_ok_iff.2 ⟨r₂, hread, congrArg Except.ok hsame⟩

/-- A template with a quoted brace, runs of blanks, a dot behind a name and loosely spelled
directives. -/
def looseTemplate : String :=
  "in  @a.\x7b\x7bif s != \"\x7d\x7d\"\x7d\x7d 'b  c' {{ else  if f(s) }}@@s {{end}}" ++
    "{{for _ ,v:=range a}}, @v{{:end}}"

def looseScope : Scope :=
  ⟨[⟨"a", .slice (.simple "int"), false⟩, ⟨"s", .simple "string", false⟩], "t", .empty⟩

theorem tokenize_printed_loose :
    (¬ "\\@".toList <:+: looseTemplate.toList ∧ ¬ "@@table".toList <:+: looseTemplate.toList) ∧
      ∃ sections, tokenize looseTemplate looseScope (some "u") = .ok sections ∧
        printed sections =
          "in @a.\x7b\x7b if s != \"\x7d\x7d\" \x7d\x7d 'b  c' {{ else if f(s) }}@@s{{ end }}" ++
            "{{ for _, v := range a }}, @v{{ end }}" ∧
        tokenize (printed sections) looseScope none = .ok sections := by
  have hesc : ¬ "\\@".toList <:+: looseTemplate.toList := by
    rw [← Text.contains_iff_isInfix, Bool.not_eq_true]
    delta looseTemplate
    rw [String.toList_append, String.toList_ofList, String.toList_ofList, String.toList_ofList]
    cbv
  have htable : ¬ "@@table".toList <:+: looseTemplate.toList := by
    rw [← Text.contains_iff_isInfix, Bool.not_eq_true]
    delta looseTemplate
    rw [String.toList_append, String.toList_ofList, String.toList_ofList, String.toList_ofList]
    cbv
  have hread : tokenize looseTemplate looseScope (some "u") =
      .ok [.literal "in ", .data ⟨"a", .method, .slice (.simple "int")⟩, .literal ".",
        .branch "s != \"\x7d\x7d\"", .literal " 'b  c' ", .otherwise (some "f(s)"),
        .quoted ⟨"s", .method, .simple "string"⟩, .close,
        .loop ⟨"_", "v", "a", .slice (.simple "int")⟩, .literal ", ",
        .data ⟨"v", .loop, .simple "int"⟩, .close] := by
    rw [tokenize, trimmed]
    delta looseTemplate
    rw [String.toList_append, String.toList_ofList, String.toList_ofList]
    decide +kernel
  exact ⟨⟨hesc, htable⟩, _, hread, by cbv, tokenize_printed hesc htable hread (.inr rfl)⟩

end Template

end QueryGen
