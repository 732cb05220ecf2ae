import QueryGen.Proofs.Statement.Neighbours
import QueryGen.Proofs.Template.LiteralText

/-!
# One template, two table names

The name of the table is put into the text that is collected, and nothing that is decided while a
template is read depends on that text but whether it is blank. So a template is read for two tables
in the same steps.

- `Agree`: two computations fail with the same error, or both give values in relation.
- `literals`: the literal texts of pieces, with the places of the table name.
- `Reading.outline`: a reading without its texts. References and directives are read alike where it
  is the same (`resolve_outline`, `readBody_outline`).
- `Alike`: two readings of a template for two tables. Every piece keeps it (`Alike.readPiece`).
- `agree_tokenize`: the sections of a template for two tables.
-/

namespace QueryGen

/-! ## Computations side by side -/

section Agreement

variable {ε α β γ δ : Type} {R : α → β → Prop} {S : γ → δ → Prop}

/-- Two computations fail with the same error, or both succeed with values in relation. -/
inductive Agree (R : α → β → Prop) : Except ε α → Except ε β → Prop
  | error (e : ε) : Agree R (.error e) (.error e)
  | ok {a : α} {b : β} (h : R a b) : Agree R (.ok a) (.ok b)

theorem Agree.bind {x : Except ε α} {y : Except ε β} {f : α → Except ε γ} {g : β → Except ε δ}
    (h : Agree R x y) (hf : ∀ a b, R a b → Agree S (f a) (g b)) : Agree S (x >>= f) (y >>= g) := by
  cases h with
  | error e => exact .error e
  | ok hR => exact hf _ _ hR

theorem Agree.mono {R' : α → β → Prop} {x : Except ε α} {y : Except ε β} (h : Agree R x y)
    (hR : ∀ a b, R a b → R' a b) : Agree R' x y := by
  cases h with
  | error e => exact .error e
  | ok h => exact .ok (hR _ _ h)

theorem Agree.of_eq {x y : Except ε α} (h : x = y) : Agree Eq x y := by
  subst h
  cases x with
  | error e => exact .error e
  | ok a => exact .ok rfl

/-- Computations with the same results agree, with results that are the same. -/
theorem Agree.of_map_eq {x : Except ε α} {y : Except ε β} {f : α → γ} {g : β → γ}
    (h : x.map f = y.map g) : Agree (fun a b => x = .ok a ∧ y = .ok b ∧ f a = g b) x y := by
  cases x with
  | error e =>
    cases y with
    | error e' =>
      cases h
      exact .error e
    | ok b => cases h
  | ok a =>
    cases y with
    | error e' => cases h
    | ok b => exact .ok ⟨rfl, rfl, Except.ok.inj h⟩

end Agreement

/-- The section without its literal text. -/
def Section.outline : Section → Section
  | literal _ => literal ""
  | s => s

namespace Template

/-! ## Literal texts of a template -/

/-- A reference that is no table name. -/
def Piece.isRef : Piece → Bool
  | ref _ _ => true
  | _ => false

/-- The literal text of glyphs that were collected, if they make one. -/
def cut (keepBlank : Bool) (gs : List Glyph) : List (List Glyph) :=
  if gs.isEmpty || (!keepBlank && gs.all Glyph.isBlank) then [] else [gs]

/-- The literal texts of pieces, as glyphs; some were collected before them. Blank text counts in
front of a reference only. -/
def literals (gs : List Glyph) : List Piece → List (List Glyph)
  | [] => cut false gs
  | p :: rest =>
    if p.isText then literals (gs ++ p.glyphs) rest else cut p.isRef gs ++ literals [] rest

/-- The text of a literal section, for a table of the given name. -/
def literalText (table : String) (gs : List Glyph) : String := .ofList (spelled table gs)

/-- A reading has collected these glyphs, and it has these literal texts before them. -/
structure Reading.Collects (table : String) (gs : List Glyph) (texts : List (List Glyph))
    (r : Reading) : Prop where
  buffer : r.buffer.Holds table gs
  texts : r.reversed.reverse.filterMap Section.literal? = texts.map (literalText table)

namespace Reading.Collects

variable {table : String} {gs : List Glyph} {texts : List (List Glyph)} {r r' : Reading}

theorem flush_eq (h : r.Collects table gs texts) (ht : IsTableName table) (keepBlank : Bool) :
    r.flush keepBlank = if cut keepBlank gs = [] then r.dropped
      else r.dropped.add (.literal (literalText table gs)) := by
  have hempty : r.buffer.isEmpty = gs.isEmpty := by
    rw [Bool.eq_iff_iff, SqlBuffer.isEmpty_iff, h.buffer.text, ht.spelled_eq_nil_iff,
      List.isEmpty_iff]
  have hblank : r.buffer.isBlank = gs.all Glyph.isBlank := by
    rw [SqlBuffer.isBlank_eq, h.buffer.text, ht.isBlankText_spelled]
  rw [Reading.flush, hempty, hblank, h.buffer.text, cut]
  split <;> rfl

/-- What was collected becomes a literal text, if it makes one. -/
theorem flush (h : r.Collects table gs texts) (ht : IsTableName table) (keepBlank : Bool) :
    (r.flush keepBlank).Collects table [] (texts ++ cut keepBlank gs) := by
  refine ⟨by simpa using .empty, ?_⟩
  rw [h.flush_eq ht, List.map_append, ← h.texts]
  by_cases hcut : cut keepBlank gs = []
  · simp [hcut, Reading.dropped]
  · have hgs : cut keepBlank gs = [gs] := by
      unfold cut at hcut ⊢
      split at hcut
      · exact absurd rfl hcut
      · next hn => exact if_neg hn
    simp [hgs, Reading.dropped, Reading.add, Section.literal?]

theorem add (h : r.Collects table gs texts) {s : Section} (hs : s.literal? = none)
    (hbuffer : r'.buffer = r.buffer) (hreversed : r'.reversed = s :: r.reversed) :
    r'.Collects table gs texts := by
  refine ⟨by rw [hbuffer]; exact h.buffer, ?_⟩
  rw [hreversed, List.reverse_cons, List.filterMap_append, h.texts]
  simp [hs]

end Reading.Collects

/-! ## What reading does not look at -/

/-- The reading without its texts. -/
def Reading.outline (r : Reading) : Reading where
  buffer := .empty
  reversed := r.reversed.map Section.outline
  blocks := r.blocks
  loopValues := r.loopValues

section Outline

variable {params : List Param} {structs : StructRegistry} {receiver : Option String}
  {source : String} {r r' : Reading}

theorem fieldsType_table (table other path : String) (type : GoType) (fields : List String) :
    fieldsType ⟨params, table, structs⟩ source path type fields =
      fieldsType ⟨params, other, structs⟩ source path type fields := by
  induction fields generalizing type with
  | nil => rfl
  | cons field rest ih =>
    simp only [fieldsType, ih]
    rfl

theorem resolve_outline (table other : String) (path : List Char) :
    resolve ⟨params, other, structs⟩ source r.outline path =
      resolve ⟨params, table, structs⟩ source r path := by
  unfold resolve
  simp only [fieldsType_table other table]
  rfl

theorem openLoop_outline (table other body index value range : String) :
    openLoop ⟨params, other, structs⟩ receiver source body r.outline index value range =
      (openLoop ⟨params, table, structs⟩ receiver source body r index value range).map
        Reading.outline := by
  have hvalues : r.outline.loopValues = r.loopValues := rfl
  unfold openLoop
  simp only [resolve_outline table other, hvalues]
  split
  · rfl
  · split
    · rfl
    · split
      · rfl
      · cases resolve ⟨params, table, structs⟩ source r _ with
        | error e => rfl
        | ok found => rfl

theorem readBody_outline (table other : String) (body : List Char) :
    readBody ⟨params, other, structs⟩ receiver source r.outline body =
      (readBody ⟨params, table, structs⟩ receiver source r body).map Reading.outline := by
  unfold readBody
  cases classify body with
  | error e => rfl
  | ok d =>
    cases d with
    | branch cond | otherwise cond | join kind | close => rfl
    | loop index value range => exact openLoop_outline table other _ index value range

end Outline

/-! ## Readings side by side -/

/-- Two readings of a template for two tables, with the same pieces left: they have the same
sections but for the texts, and their texts are those of the template. -/
structure Alike (table other : String) (texts : List (List Glyph)) (ps : List Piece)
    (r r' : Reading) : Prop where
  outline : r.outline = r'.outline
  collects : ∃ gs done, r.Collects table gs done ∧ r'.Collects other gs done ∧
    done ++ literals gs ps = texts

section Alike

variable {params : List Param} {structs : StructRegistry} {receiver : Option String}
  {source table other : String} {texts : List (List Glyph)} {p : Piece} {ps : List Piece}
  {r r' : Reading}

/-- Both readings turn collected text into a section, or neither does. -/
theorem outline_flush {gs : List Glyph} {done done' : List (List Glyph)} {keepBlank : Bool}
    (h : r.outline = r'.outline) (ht : IsTableName table) (ho : IsTableName other)
    (hr : r.Collects table gs done) (hr' : r'.Collects other gs done') :
    (r.flush keepBlank).outline = (r'.flush keepBlank).outline := by
  rw [hr.flush_eq ht, hr'.flush_eq ho]
  split
  · exact h
  · exact congrArg (Reading.add · (.literal "")) h

theorem Alike.flush (h : Alike table other texts (p :: ps) r r') (ht : IsTableName table)
    (ho : IsTableName other) (hp : p.isText = false) :
    Alike table other texts ps (r.flush p.isRef) (r'.flush p.isRef) := by
  obtain ⟨houtline, gs, done, hr, hr', htexts⟩ := h
  refine ⟨outline_flush houtline ht ho hr hr', [], done ++ cut p.isRef gs, hr.flush ht _,
    hr'.flush ho _, ?_⟩
  rw [← htexts, literals, hp, List.append_assoc]
  rfl

/-- A section that is no literal text is added to both readings. -/
theorem Alike.add {q q' : Reading} {s s' : Section} (h : Alike table other texts ps r r')
    (houtline : q.outline = q'.outline)
    (hq : s.literal? = none ∧ q.reversed = s :: r.reversed ∧ q.buffer = r.buffer)
    (hq' : s'.literal? = none ∧ q'.reversed = s' :: r'.reversed ∧ q'.buffer = r'.buffer) :
    Alike table other texts ps q q' := by
  obtain ⟨-, gs, done, hr, hr', htexts⟩ := h
  exact ⟨houtline, gs, done, hr.add hq.1 hq.2.2 hq.2.1, hr'.add hq'.1 hq'.2.2 hq'.2.1, htexts⟩

theorem Alike.resolve (h : Alike table other texts ps r r') (path : List Char) :
    Template.resolve ⟨params, table, structs⟩ source r path =
      Template.resolve ⟨params, other, structs⟩ source r' path := by
  rw [← resolve_outline table other, h.outline, resolve_outline other other]

/-- A piece of text is collected for both tables. -/
theorem Alike.readText {rest : List Char} (h : Alike table other texts (p :: ps) r r')
    (ht : IsTableName table) (ho : IsTableName other) (hfits : p.Fits rest)
    (hp : p.isText = true) :
    Agree (Alike table other texts ps) (readPiece ⟨params, table, structs⟩ receiver source r p)
      (readPiece ⟨params, other, structs⟩ receiver source r' p) := by
  obtain ⟨houtline, gs, done, hr, hr', htexts⟩ := h
  obtain ⟨b, hread, hb⟩ := SqlBuffer.Holds.readPiece ⟨params, table, structs⟩ receiver source
    hr.buffer hfits hp fun _ => ht
  obtain ⟨b', hread', hb'⟩ := SqlBuffer.Holds.readPiece ⟨params, other, structs⟩ receiver source
    hr'.buffer hfits hp fun _ => ho
  rw [hread, hread']
  refine .ok ⟨houtline, gs ++ p.glyphs, done, ⟨hb, hr.texts⟩, ⟨hb', hr'.texts⟩, ?_⟩
  rw [← htexts, literals, if_pos hp]

/-- A reference has the same meaning for both tables. -/
theorem Alike.readRef {doubled : Bool} {name : List Char}
    (h : Alike table other texts ps (r.flush true) (r'.flush true))
    (hname : ¬(doubled = true ∧ name = Reserved.table.toList)) :
    Agree (Alike table other texts ps)
      (readRef ⟨params, table, structs⟩ source r doubled name)
      (Template.readRef ⟨params, other, structs⟩ source r' doubled name) := by
  have hadd : ∀ s : Section, s.literal? = none →
      Alike table other texts ps ((r.flush true).add s) ((r'.flush true).add s) := fun s hs =>
    h.add (congrArg (Reading.add · s.outline) h.outline) ⟨hs, rfl, rfl⟩ ⟨hs, rfl, rfl⟩
  simp only [Template.readRef, if_neg hname]
  refine (Agree.of_eq (h.resolve name)).bind ?_
  rintro ref _ rfl
  split
  · split
    · exact .ok (hadd (.quoted ref) rfl)
    · exact .error _
  · exact .ok (hadd (.data ref) rfl)

/-- A directive has the same meaning for both tables. -/
theorem Alike.readBody {body : List Char}
    (h : Alike table other texts ps (r.flush false) (r'.flush false)) :
    Agree (Alike table other texts ps)
      (readBody ⟨params, table, structs⟩ receiver source (r.flush false) body)
      (Template.readBody ⟨params, other, structs⟩ receiver source (r'.flush false) body) := by
  have hadded : ∀ {scope : Scope} {q next : Reading},
      Template.readBody scope receiver source (q.flush false) body = .ok next →
      ∃ s : Section, s.literal? = none ∧ next.reversed = s :: (q.flush false).reversed ∧
        next.buffer = (q.flush false).buffer := by
    intro scope q next hn
    obtain ⟨s, hsql, hreversed, hbuffer⟩ := added_of_readBody hn
    refine ⟨s, ?_, hreversed, hbuffer.trans (buffer_flush q false).symm⟩
    cases s <;> first | rfl | cases hsql
  have hmap : (Template.readBody ⟨params, table, structs⟩ receiver source (r.flush false) body).map
        Reading.outline =
      (Template.readBody ⟨params, other, structs⟩ receiver source (r'.flush false) body).map
        Reading.outline := by
    rw [← readBody_outline table other, h.outline, readBody_outline other other]
  refine (Agree.of_map_eq hmap).mono fun q q' ⟨hq, hq', houtline⟩ => ?_
  obtain ⟨s, hs⟩ := hadded hq
  obtain ⟨s', hs'⟩ := hadded hq'
  exact h.add houtline hs hs'

/-- Every piece is read alike for both tables. -/
theorem Alike.readPiece (h : Alike table other texts (p :: ps) r r') (ht : IsTableName table)
    (ho : IsTableName other) (hfits : (∀ more, p ≠ .broken more) → ∃ rest, p.Fits rest) :
    Agree (Alike table other texts ps) (readPiece ⟨params, table, structs⟩ receiver source r p)
      (Template.readPiece ⟨params, other, structs⟩ receiver source r' p) := by
  cases hp : p.isText with
  | true =>
    obtain ⟨rest, hfits⟩ := hfits fun more he => by
      rw [he] at hp
      cases hp
    exact h.readText ht ho hfits hp
  | false =>
    have hflush := h.flush ht ho hp
    cases p with
    | plain c | quoted cs | escapedAt => cases hp
    | broken more => exact .error _
    | ref doubled name =>
      refine hflush.readRef ?_
      rintro ⟨rfl, rfl⟩
      cases hp
    | directive body => exact hflush.readBody

theorem Alike.foldlM (h : Alike table other texts ps r r') (ht : IsTableName table)
    (ho : IsTableName other)
    (hfits : ∀ p ∈ ps, (∀ more, p ≠ .broken more) → ∃ rest, p.Fits rest) :
    Agree (Alike table other texts [])
      (ps.foldlM (Template.readPiece ⟨params, table, structs⟩ receiver source) r)
      (ps.foldlM (Template.readPiece ⟨params, other, structs⟩ receiver source) r') := by
  induction ps generalizing r r' with
  | nil => exact .ok h
  | cons p rest ih =>
    obtain ⟨hp, hrest⟩ := List.forall_mem_cons.1 hfits
    rw [List.foldlM_cons, List.foldlM_cons]
    exact (h.readPiece ht ho hp).bind fun q q' hq => ih hq hrest

/-- A template is read for two tables with the same result: the same error, or the same sections
but for the texts, which are those of the template with the name of the one table or the other. -/
theorem agree_tokenize (template : String) (ht : IsTableName table) (ho : IsTableName other) :
    Agree (fun sections sections' =>
        sections.map Section.outline = sections'.map Section.outline ∧
          sections.filterMap Section.literal? =
            (literals [] (pieces template.toList)).map (literalText table) ∧
          sections'.filterMap Section.literal? =
            (literals [] (pieces template.toList)).map (literalText other))
      (tokenize template ⟨params, table, structs⟩ receiver)
      (tokenize template ⟨params, other, structs⟩ receiver) := by
  have hstart : Alike table other (literals [] (pieces template.toList))
      (pieces template.toList) {} {} :=
    ⟨rfl, [], [], ⟨.empty, rfl⟩, ⟨.empty, rfl⟩, rfl⟩
  refine (hstart.foldlM ht ho fun p hp => fits_of_mem_pieces hp).bind ?_
  rintro r r' ⟨houtline, gs, done, hr, hr', htexts⟩
  have hsections : ∀ q : Reading, q.sections.map Section.outline =
      (q.flush false).outline.reversed.reverse := fun q => List.map_reverse
  rw [← htexts]
  refine .ok ⟨?_, (hr.flush ht false).texts, (hr'.flush ho false).texts⟩
  rw [hsections, hsections, outline_flush houtline ht ho hr hr']

end Alike

end Template

end QueryGen
