import QueryGen.Proofs.Method.Paragraphs
import QueryGen.Proofs.Method.Wrappers

/-!
# What a comment is read as

The body of a comment is a call of `sql` or `where`, or it is the template itself.

- `SqlDoc.Reads`: how a body is read. The inside of a call ends at the last closing bracket, and
  what stands behind that bracket is no part of the template.
- `SqlDoc.Presents`: a comment that is a text, alone or behind a paragraph on the method.
- `SqlDoc.docBody_call`: the body of a comment that presents a call.
- `SqlDoc.parse_iff_reads_and_call`: what comments are read as, and how calls are read back.
-/

namespace QueryGen.SqlDoc

/-- What a body is read as: the inside of a call, or the whole of it. -/
inductive Reads (body : List Char) : SqlDoc → Prop
  | call {kind : DocKind} {inner after : List Char} :
    kind ≠ .template → Wraps kind.name inner after body → Text.trim inner ≠ [] →
      Reads body ⟨kind, .ofList (Text.trim inner)⟩
  | plain : ¬ Opens "sql" body → ¬ Opens "where" body → body ≠ [] →
    Reads body ⟨.template, .ofList body⟩

/-- A comment for a method that is a text, alone or behind a description with a gap of blank lines.
Alone, a text in several paragraphs must not begin with the name of the method. -/
inductive Presents (method text : List Char) : List Char → Prop
  | alone :
    (∀ l ∈ Text.lines text, Text.isBlankText l = false) ∨ ¬ method <+: text →
      Presents method text text
  | described {intro gap : List Char} {paragraph : List (List Char)} :
    paragraphs (Text.lines (intro ++ ['\n'])) = [paragraph] → describes method paragraph = true →
      Text.isBlankText gap = true → Presents method text (intro ++ '\n' :: (gap ++ '\n' :: text))

/-- A call of a keyword. -/
def call (keyword t : List Char) : List Char := keyword ++ '(' :: (t ++ [')'])

variable {method doc : String} {d : SqlDoc} {kind : DocKind} {m head text t : List Char}

/-! ## Bodies -/

theorem trim_docBody (m text : List Char) : Text.trim (docBody m text) = docBody m text :=
  (Text.trimmed_trim _).trim_eq

/-- A comment is read as what its body is read as. -/
theorem parse_eq_ok_iff_reads :
    parse method doc = .ok d ↔ Reads (docBody method.toList doc.toList) d := by
  rw [parse_eq_ok_iff]
  constructor
  · rintro ⟨inner, hu, hne, htext⟩
    obtain ⟨kind, text⟩ := d
    subst htext
    rcases unwrap_eq_ok_iff.1 hu with ⟨hkind, after, hw⟩ | ⟨hkind, rfl, hsql, hfilter⟩
    · exact .call hkind hw hne
    · dsimp only at hkind
      subst hkind
      rw [trim_docBody] at hne ⊢
      exact .plain hsql hfilter hne
  · rintro (⟨hkind, hw, hne⟩ | ⟨hsql, hfilter, hne⟩)
    · exact ⟨_, unwrap_eq_ok_iff.2 (.inl ⟨hkind, _, hw⟩), hne, rfl⟩
    · exact ⟨_, unwrap_eq_ok_iff.2 (.inr ⟨rfl, rfl, hsql, hfilter⟩),
        by rwa [trim_docBody], by rw [trim_docBody]⟩

/-! ## Calls -/

theorem isBlank_toLower {c : Char} (h : Text.isBlank c = true) :
    Text.isBlank c.toLower = true :=
  Template.of_forall_blanks (fun c => Text.isBlank c.toLower = true) (by decide +kernel) h

/-- A keyword has no blank, in whichever case it is written. -/
theorem not_isBlank_of_keyword (h : Text.sameAsciiCase head kind.name.toList = true) :
    ∀ c ∈ head, Text.isBlank c = false := by
  have hname : (kind.name.toList.map Char.toLower).any Text.isBlank = false := by
    cases kind <;> decide
  intro c hc
  have hlower : c.toLower ∈ kind.name.toList.map Char.toLower := by
    rw [← eq_of_beq h]
    exact List.mem_map_of_mem hc
  refine Bool.eq_false_iff.2 fun hblank => ?_
  exact List.any_eq_false.1 hname _ hlower (isBlank_toLower hblank)

theorem ne_nil_of_keyword (h : Text.sameAsciiCase head kind.name.toList = true) : head ≠ [] := by
  rintro rfl
  have hlength := length_of_sameAsciiCase h
  cases kind <;> cases hlength

/-- The body of a comment that presents a text is made of its paragraphs. -/
theorem docBody_of_presents {c : Char} {cs : List Char} (hc : Text.isBlank c = false)
    (h : Presents m (c :: cs) text) :
    docBody m text = Text.trim (spaced (Text.lines (c :: cs))) := by
  cases h with
  | alone h => exact docBody_eq_of_alone hc h
  | described hintro hd hgap =>
    exact docBody_eq_of_described hintro hd hgap (by rw [Text.isBlankText, List.all_cons, hc]; rfl)

/-- The body of a comment that presents a call is that call. Paragraphs of its text stand one empty
line apart. -/
theorem docBody_call (hhead : Text.sameAsciiCase head kind.name.toList = true)
    (h : Presents m (call head t) text) :
    ∃ front back, (∀ c ∈ front, Text.isBlank c = true) ∧ (∀ c ∈ back, Text.isBlank c = true) ∧
      docBody m text = call head (front ++ spaced (Text.lines t) ++ back) := by
  have hblank := not_isBlank_of_keyword hhead
  obtain ⟨first, letters, hcons⟩ := List.exists_cons_of_ne_nil (ne_nil_of_keyword hhead)
  have hfirst : Text.isBlank first = false := hblank first (hcons ▸ List.mem_cons_self)
  have hopening : Text.isBlank '(' = false := by decide
  have hclosing : Text.isBlank ')' = false := by decide
  have hfeed : '\n' ∉ head ++ ['('] := by
    rw [List.mem_append, not_or]
    exact ⟨fun hmem => absurd (hblank _ hmem) (by decide), by simp⟩
  have hcall : ∀ cs, call head cs = (head ++ ['(']) ++ (cs ++ [')']) := fun cs => by simp [call]
  obtain ⟨front, back, hfront, hback, hspaced⟩ := exists_spaced_lines hfeed
    ⟨'(', List.getLast?_concat, hopening⟩ (by simp : '\n' ∉ [')']) (by decide) t
  have htrimmed : Text.Trimmed
      ((head ++ ['(']) ++ (front ++ spaced (Text.lines t) ++ back) ++ [')']) := by
    refine .append ⟨?_, ?_⟩ ⟨?_, ?_⟩ (by simp) (by simp) _
    · simpa [hcons] using hfirst
    · simp [hopening]
    · simp [hclosing]
    · simp [hclosing]
  refine ⟨front, back, hfront, hback, ?_⟩
  have hbody : docBody m text = Text.trim (spaced (Text.lines (call head t))) := by
    rw [call, hcons] at h ⊢
    exact docBody_of_presents hfirst h
  rw [hbody, hcall, hspaced, ← List.append_assoc, htrimmed.trim_eq, hcall, List.append_assoc]

/-- Comments are read as what their bodies are. A call that they present, of either keyword in any
case, gives what stands in its brackets: a text of one paragraph as it is, and the paragraphs of a
longer one with an empty line between two of them. -/
theorem parse_iff_reads_and_call (method doc : String) :
    (∀ d, parse method doc = .ok d ↔ Reads (docBody method.toList doc.toList) d) ∧
    ∀ kind head t, kind ≠ .template → Text.sameAsciiCase head kind.name.toList = true →
      Text.isBlankText t = false → Presents method.toList (call head t) doc.toList →
        parse method doc = .ok ⟨kind, .ofList (Text.trim (spaced (Text.lines t)))⟩ ∧
        ∀ p, paragraphs (Text.lines t) = [p] → ¬ ['\r', '\n'] <:+: t →
          parse method doc = .ok ⟨kind, .ofList (Text.trim t)⟩ := by
  refine ⟨fun d => parse_eq_ok_iff_reads, fun kind head t hkind hhead ht hpresents => ?_⟩
  obtain ⟨front, back, hfront, hback, hbody⟩ := docBody_call hhead hpresents
  have hwraps : Wraps kind.name (front ++ spaced (Text.lines t) ++ back) []
      (docBody method.toList doc.toList) :=
    ⟨head, [], by rw [hbody, call, List.nil_append], hhead, List.forall_mem_nil _, List.not_mem_nil⟩
  have htrim := Text.trim_pad hfront hback (spaced (Text.lines t))
  have hreads := Reads.call hkind hwraps (by rw [htrim]; exact trim_spaced_ne_nil ht)
  rw [htrim] at hreads
  have hparse := parse_eq_ok_iff_reads.2 hreads
  refine ⟨hparse, fun p hp hr => ?_⟩
  rw [hparse, trim_spaced_lines hp hr]

/-- A condition in lines of its own. -/
def condition : List Char := "\n  id = (@id)\n  or (1)\n".toList

def conditionDoc : String := "FindByID finds one.\n \t\nWHERE(\n  id = (@id)\n  or (1)\n)"

/-- The condition is read back from behind a description. -/
theorem parse_conditionDoc :
    Presents "FindByID".toList (call "WHERE".toList condition) conditionDoc.toList ∧
    paragraphs (Text.lines condition) = [["  id = (@id)".toList, "  or (1)".toList]] ∧
    parse "FindByID" conditionDoc = .ok ⟨.filter, "id = (@id)\n  or (1)"⟩ := by
  have hpresents : Presents "FindByID".toList (call "WHERE".toList condition) conditionDoc.toList :=
    @Presents.described _ _ "FindByID finds one.".toList " \t".toList
      ["FindByID finds one.".toList] (by decide +kernel) (by decide +kernel) (by decide +kernel)
  have hsingle : paragraphs (Text.lines condition) =
      [["  id = (@id)".toList, "  or (1)".toList]] := by decide +kernel
  obtain ⟨-, hparse⟩ := (parse_iff_reads_and_call "FindByID" conditionDoc).2 .filter "WHERE".toList
    condition (by decide) (by decide +kernel) (by decide +kernel) hpresents
  exact ⟨hpresents, hsingle, (hparse _ hsingle (by decide +kernel)).trans (by decide +kernel)⟩

/-- What stands behind the last bracket of a call is left out. Line ends with a carriage return are
read as line feeds. The first of several paragraphs is left out as a description also when it
opens a call of a method's own name. -/
theorem parse_not_kept :
    (parse "M" "sql(select 1) limit 10" = .ok ⟨.sql, "select 1"⟩ ∧
      ∀ inner, ¬ Wraps "sql" inner [] (docBody "M".toList "sql(select 1) limit 10".toList)) ∧
    (parse "M" "sql(a\r\nb)" = .ok ⟨.sql, "a\nb"⟩ ∧ trimmed "a\r\nb" = "a\r\nb") ∧
    parse "sql" "sql(\n\nx)" = .ok ⟨.template, "x)"⟩ := by
  refine ⟨⟨by decide +kernel, fun inner hw => ?_⟩, ⟨by decide +kernel, by decide +kernel⟩,
    by decide +kernel⟩
  obtain ⟨head, blanks, hbody, -⟩ := hw
  have hclosing : docBody "M".toList "sql(select 1) limit 10".toList =
      (head ++ (blanks ++ '(' :: inner)) ++ [')'] := by simpa using hbody
  have hlast : (docBody "M".toList "sql(select 1) limit 10".toList).getLast? = some '0' := by
    decide +kernel
  rw [hclosing, List.getLast?_concat] at hlast
  exact absurd hlast (by decide)

end QueryGen.SqlDoc
