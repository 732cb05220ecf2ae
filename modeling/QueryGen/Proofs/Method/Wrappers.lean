import Mathlib.Data.List.TakeDrop
import QueryGen.Method.Doc
import QueryGen.Proofs.Template.Words
import QueryGen.Results

/-!
# Wrapped templates

The template in a doc comment may be wrapped in a call of `sql` or `where`.

- `Text.cutLast?_eq_some_iff`: a cut at the last character of some kind.
- `Wraps`: a text that is a call with another text inside its brackets.
- `unwrapCall_eq_some_iff`: what is taken out of a wrapper.
- `Opens`, `unwrap_eq_ok_iff`: a text that is no call begins like none, and is taken as it is.
- `SqlDoc.parse_eq_ok_iff`: the template of a comment is what its text is unwrapped to.
- `SqlDoc.kind_eq_filter_iff`: a template is a condition if its comment is a call of `where`.
-/

namespace QueryGen

namespace Text

variable {p : Char → Bool} {cs before after : List Char}

theorem cutFirst?_eq_some_iff : cutFirst? p cs = some (before, after) ↔
    ∃ c, p c = true ∧ cs = before ++ c :: after ∧ ∀ d ∈ before, p d = false := by
  rw [cutFirst?, List.span_eq_takeWhile_dropWhile]
  constructor
  · intro h
    split at h
    · next b c a hcut =>
      cases h
      obtain ⟨hb, ha⟩ := Prod.mk.inj hcut
      have hsplit := List.takeWhile_append_dropWhile (p := (!p ·)) (l := cs)
      have hnot := List.head?_dropWhile_not (!p ·) cs
      rw [ha] at hnot
      refine ⟨c, by simpa using hnot, by rw [← hsplit, hb, ha], fun d hd => ?_⟩
      rw [← hb] at hd
      simpa using List.mem_takeWhile_imp hd
    · cases h
  · rintro ⟨c, hc, rfl, hb⟩
    have hall : ∀ d ∈ before, (!p d) = true := fun d hd => by simp [hb d hd]
    simp [List.takeWhile_append_of_pos hall, List.dropWhile_append_of_pos hall, hc]

theorem cutLast?_eq_some_iff : cutLast? p cs = some (before, after) ↔
    ∃ c, p c = true ∧ cs = before ++ c :: after ∧ ∀ d ∈ after, p d = false := by
  rw [cutLast?, Option.map_eq_some_iff]
  constructor
  · rintro ⟨⟨a, b⟩, hcut, hparts⟩
    cases hparts
    obtain ⟨c, hc, hcs, ha⟩ := cutFirst?_eq_some_iff.1 hcut
    refine ⟨c, hc, ?_, fun d hd => ha d (List.mem_reverse.1 hd)⟩
    rw [← List.reverse_reverse cs, hcs]
    simp
  · rintro ⟨c, hc, rfl, ha⟩
    refine ⟨(after.reverse, before.reverse), cutFirst?_eq_some_iff.2 ⟨c, hc, by simp, fun d hd =>
      ha d (List.mem_reverse.1 hd)⟩, by simp⟩

end Text

/-- A text is a keyword, without regard to case, and `inner` in brackets behind it. The last closing
bracket counts. -/
def Wraps (keyword : String) (inner after body : List Char) : Prop :=
  ∃ head blanks, body = head ++ (blanks ++ '(' :: (inner ++ ')' :: after)) ∧
    Text.sameAsciiCase head keyword.toList = true ∧ (∀ c ∈ blanks, Text.isBlank c = true) ∧
    ')' ∉ after

variable {keyword : String} {inner after body : List Char}

theorem length_of_sameAsciiCase {a b : List Char} (h : Text.sameAsciiCase a b = true) :
    a.length = b.length := by
  have hmap := congrArg List.length (eq_of_beq h)
  rwa [List.length_map, List.length_map] at hmap

/-- What is taken out of a wrapper stands in its brackets. -/
theorem unwrapCall_eq_some_iff :
    unwrapCall keyword body = .ok (some inner) ↔ ∃ after, Wraps keyword inner after body := by
  rw [unwrapCall]
  constructor
  · intro h
    split at h
    · next hcase =>
      split at h
      · next rest hrest =>
        split at h
        · next found after hcut =>
          cases h
          obtain ⟨c, hc, rfl, hafter⟩ := Text.cutLast?_eq_some_iff.1 hcut
          obtain rfl : c = ')' := by simpa using hc
          have htrim := List.takeWhile_append_dropWhile (p := Text.isBlank)
            (l := body.drop keyword.toList.length)
          rw [Text.trimStart] at hrest
          rw [hrest] at htrim
          refine ⟨after, body.take keyword.toList.length,
            (body.drop keyword.toList.length).takeWhile Text.isBlank, ?_, hcase,
            fun d hd => List.mem_takeWhile_imp hd, fun hmem => ?_⟩
          · rw [htrim, List.take_append_drop]
          · simpa using hafter _ hmem
        · cases h
      · cases h
    · cases h
  · rintro ⟨after, head, blanks, rfl, hcase, hblanks, hafter⟩
    have hlength := length_of_sameAsciiCase hcase
    have hcut : Text.cutLast? (· == ')') (inner ++ ')' :: after) = some (inner, after) :=
      Text.cutLast?_eq_some_iff.2 ⟨')', by simp, rfl, fun d hd => by
        simpa using ne_of_mem_of_not_mem hd hafter⟩
    have hbracket : Text.isBlank '(' = false := by decide
    have htrim : Text.trimStart (blanks ++ '(' :: (inner ++ ')' :: after)) =
        '(' :: (inner ++ ')' :: after) :=
      Text.trimStart_append hblanks (by simp [hbracket])
    rw [List.take_left' hlength, if_pos hcase, List.drop_left' hlength, htrim]
    simp only [hcut]

/-- A call of `where` is none of `sql`. -/
theorem unwrapCall_sql_of_wraps (h : Wraps "where" inner after body) :
    unwrapCall "sql" body = .ok none := by
  obtain ⟨head, blanks, rfl, hcase, -, -⟩ := h
  have hlower : head.map Char.toLower = ['w', 'h', 'e', 'r', 'e'] := eq_of_beq hcase
  have hlength : "sql".toList.length ≤ head.length := by
    rw [length_of_sameAsciiCase hcase]
    decide
  have hnot : Text.sameAsciiCase (head.take "sql".toList.length) "sql".toList = false := by
    rw [Text.sameAsciiCase, List.map_take, hlower]
    decide
  rw [unwrapCall, List.take_append_of_le_length hlength, hnot]
  rfl

/-- A text begins like a call of a keyword: behind the keyword stands an opening bracket. -/
def Opens (keyword : String) (body : List Char) : Prop :=
  ∃ head blanks rest, body = head ++ (blanks ++ '(' :: rest) ∧
    Text.sameAsciiCase head keyword.toList = true ∧ ∀ c ∈ blanks, Text.isBlank c = true

theorem Wraps.opens (h : Wraps keyword inner after body) : Opens keyword body := by
  obtain ⟨head, blanks, hbody, hcase, hblanks, -⟩ := h
  exact ⟨head, blanks, _, hbody, hcase, hblanks⟩

/-- Only what does not begin like a call is no wrapper. -/
theorem unwrapCall_eq_none_iff : unwrapCall keyword body = .ok none ↔ ¬Opens keyword body := by
  rw [unwrapCall]
  constructor
  · rintro h ⟨head, blanks, rest, rfl, hcase, hblanks⟩
    have hlength := length_of_sameAsciiCase hcase
    have hbracket : Text.isBlank '(' = false := by decide
    have htrim : Text.trimStart (blanks ++ '(' :: rest) = '(' :: rest :=
      Text.trimStart_append hblanks (by simp [hbracket])
    simp only [List.take_left' hlength, if_pos hcase, List.drop_left' hlength, htrim] at h
    split at h <;> cases h
  · intro h
    split
    · next hcase =>
      split
      · next rest hrest =>
        refine absurd ⟨body.take keyword.toList.length,
          (body.drop keyword.toList.length).takeWhile Text.isBlank, rest, ?_, hcase,
          fun d hd => List.mem_takeWhile_imp hd⟩ h
        rw [← hrest, Text.trimStart, List.takeWhile_append_dropWhile, List.take_append_drop]
      · rfl
    · rfl

/-- A text is unwrapped as the call that it is, or taken as it is. -/
theorem unwrap_eq_ok_iff {kind : DocKind} : unwrap body = .ok (kind, inner) ↔
    (kind ≠ .template ∧ ∃ after, Wraps kind.name inner after body) ∨
      kind = .template ∧ inner = body ∧ ¬Opens "sql" body ∧ ¬Opens "where" body := by
  constructor
  · intro h
    unfold unwrap at h
    obtain ⟨sql, hsql, h⟩ := bind_eq_ok_iff.1 h
    cases sql with
    | some found =>
      obtain ⟨rfl, rfl⟩ := Prod.mk.inj (Except.ok.inj h)
      exact .inl ⟨by decide, unwrapCall_eq_some_iff.1 hsql⟩
    | none =>
      obtain ⟨call, hcall, h⟩ := bind_eq_ok_iff.1 h
      cases call with
      | some found =>
        obtain ⟨rfl, rfl⟩ := Prod.mk.inj (Except.ok.inj h)
        exact .inl ⟨by decide, unwrapCall_eq_some_iff.1 hcall⟩
      | none =>
        obtain ⟨rfl, rfl⟩ := Prod.mk.inj (Except.ok.inj h)
        exact .inr ⟨rfl, rfl, unwrapCall_eq_none_iff.1 hsql, unwrapCall_eq_none_iff.1 hcall⟩
  · rintro (⟨hkind, after, hw⟩ | ⟨rfl, rfl, hsql, hfilter⟩)
    · cases kind with
      | template => exact absurd rfl hkind
      | sql =>
        exact bind_eq_ok_iff.2 ⟨some inner, unwrapCall_eq_some_iff.2 ⟨after, hw⟩, rfl⟩
      | filter =>
        exact bind_eq_ok_iff.2 ⟨none, unwrapCall_sql_of_wraps hw,
          bind_eq_ok_iff.2 ⟨some inner, unwrapCall_eq_some_iff.2 ⟨after, hw⟩, rfl⟩⟩
    · exact bind_eq_ok_iff.2 ⟨none, unwrapCall_eq_none_iff.2 hsql,
        bind_eq_ok_iff.2 ⟨none, unwrapCall_eq_none_iff.2 hfilter, rfl⟩⟩

namespace SqlDoc

variable {method doc : String} {d : SqlDoc}

/-- What the text of a comment is unwrapped to is trimmed, and must not be blank. -/
theorem parse_eq_ok_iff : parse method doc = .ok d ↔
    ∃ inner, unwrap (docBody method.toList doc.toList) = .ok (d.kind, inner) ∧
      Text.trim inner ≠ [] ∧ d.text = .ofList (Text.trim inner) := by
  unfold parse
  rw [bind_eq_ok_iff]
  constructor
  · rintro ⟨⟨kind, inner⟩, hu, h⟩
    dsimp only at h
    split at h
    · cases h
    · next hne =>
      cases h
      exact ⟨inner, hu, hne, rfl⟩
  · rintro ⟨inner, hu, hne, htext⟩
    refine ⟨(d.kind, inner), hu, ?_⟩
    dsimp only
    rw [if_neg hne, ← htext]
    rfl

/-- A template is a condition if its comment is a call of `where`. -/
theorem kind_eq_filter_iff (h : parse method doc = .ok d) : d.kind = .filter ↔
    ∃ inner after, Wraps "where" inner after (docBody method.toList doc.toList) := by
  obtain ⟨inner, hu, -, -⟩ := parse_eq_ok_iff.1 h
  constructor
  · intro hkind
    rw [hkind] at hu
    rcases unwrap_eq_ok_iff.1 hu with ⟨-, after, hw⟩ | ⟨hk, -⟩
    · exact ⟨inner, after, hw⟩
    · cases hk
  · rintro ⟨found, after, hw⟩
    have hfound : unwrap (docBody method.toList doc.toList) = .ok (.filter, found) :=
      unwrap_eq_ok_iff.2 (.inl ⟨by decide, after, hw⟩)
    rw [hfound] at hu
    exact (Prod.mk.inj (Except.ok.inj hu)).1.symm

end SqlDoc

end QueryGen
