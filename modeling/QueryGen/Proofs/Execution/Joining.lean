import Mathlib.Data.List.DropRight
import QueryGen.Statement.Basic
import QueryGen.Text.Class

/-!
# Joining blocks

What the helper functions of a package add to a statement for the text of a block. The units of a
text print a character each, and may carry something with them.

- `trimBy`, `dropConnector?`, `dropConnectors`: trimming, one turn of the loop that drops
  connectors, and the loop.
- `JoinKind.joined`: the text that is added, behind its keyword.
- `Sheds`: what remains of a text when units at its ends are dropped, none of which is a `?`.
- `of_dropConnector?`: one turn of the loop sheds something.
- `map_joined`, `filter_joined`: a text is joined alike whatever its units carry, and no `?` is
  dropped or added.
-/

namespace QueryGen

variable {β : Type}

/-! ## Trimming -/

/-- A text without the units at its ends that print what fulfils `p`. -/
def trimBy (p : Char → Bool) (char : β → Char) (text : List β) : List β :=
  (text.dropWhile (p ∘ char)).rdropWhile (p ∘ char)

/-- `rest` is what remains of `text` without units at its ends, and none of these prints a `?`. -/
def Sheds (char : β → Char) (text rest : List β) : Prop :=
  ∃ front back, text = front ++ rest ++ back ∧ ∀ x ∈ front ++ back, char x ≠ '?'

namespace Sheds

variable {char : β → Char} {text rest shorter : List β}

theorem refl (char : β → Char) (text : List β) : Sheds char text text := ⟨[], [], by simp, by simp⟩

theorem trans (h : Sheds char text shorter) (h' : Sheds char shorter rest) :
    Sheds char text rest := by
  obtain ⟨front, back, rfl, hc⟩ := h
  obtain ⟨front', back', rfl, hc'⟩ := h'
  refine ⟨front ++ front', back' ++ back, by simp, fun x hx => ?_⟩
  simp only [List.mem_append] at hc hc' hx
  rcases hx with (hx | hx) | hx | hx
  · exact hc x (.inl hx)
  · exact hc' x (.inl hx)
  · exact hc' x (.inr hx)
  · exact hc x (.inr hx)

theorem length_le (h : Sheds char text rest) : rest.length ≤ text.length := by
  obtain ⟨front, back, rfl, -⟩ := h
  simp only [List.length_append]
  omega

/-- Whatever holds of a `?` alone holds of the same units. -/
theorem filter_eq {q : β → Bool} (hq : ∀ x, q x = true → char x = '?')
    (h : Sheds char text rest) : rest.filter q = text.filter q := by
  obtain ⟨front, back, rfl, hc⟩ := h
  have hnone : ∀ part : List β, (∀ x ∈ part, char x ≠ '?') → part.filter q = [] := by
    intro part hpart
    exact List.filter_eq_nil_iff.2 fun x hx hqx => hpart x hx (hq x hqx)
  rw [List.forall_mem_append] at hc
  rw [List.filter_append, List.filter_append, hnone front hc.1, hnone back hc.2, List.nil_append,
    List.append_nil]

end Sheds

theorem sheds_trimBy {p : Char → Bool} (hp : p '?' = false) (char : β → Char) (text : List β) :
    Sheds char text (trimBy p char text) := by
  have hne : ∀ x, p (char x) = true → char x ≠ '?' := by
    intro x hx hc
    rw [hc, hp] at hx
    cases hx
  refine ⟨text.takeWhile (p ∘ char), (text.dropWhile (p ∘ char)).rtakeWhile (p ∘ char), ?_, ?_⟩
  · rw [List.append_assoc, trimBy, List.rdropWhile_append_rtakeWhile,
      List.takeWhile_append_dropWhile]
  · intro x hx
    rcases List.mem_append.1 hx with hx | hx
    · exact hne x (List.mem_takeWhile_imp (p := p ∘ char) hx)
    · exact hne x (List.mem_rtakeWhile_imp (p := p ∘ char) hx)

theorem map_trimBy {γ : Type} (p : Char → Bool) (char : γ → Char) (f : β → γ) (text : List β) :
    (trimBy p (char ∘ f) text).map f = trimBy p char (text.map f) := by
  simp only [trimBy, List.rdropWhile, List.dropWhile_map, ← List.map_reverse, Function.comp_assoc]

/-! ## Connectors -/

/-- What is left of a text when one connector at an end of it is dropped, and then the blanks at
the ends. -/
def dropConnector? (char : β → Char) (text : List β) : Option (List β) :=
  let lower := text.map fun x => (char x).toLower
  let rest? :=
    if ['a', 'n', 'd', ' '] <+: lower ∨ ['a', 'n', 'd', '('] <+: lower then some (text.drop 3)
    else if ['o', 'r', ' '] <+: lower ∨ ['o', 'r', '('] <+: lower then some (text.drop 2)
    else if [' ', 'a', 'n', 'd'] <:+ lower then some (text.take (text.length - 3))
    else if [' ', 'o', 'r'] <:+ lower then some (text.take (text.length - 2))
    else if lower = ['a', 'n', 'd'] ∨ lower = ['o', 'r'] then some []
    else none
  rest?.map (trimBy Text.isBlank char)

section Connectors

variable {char : β → Char} {text rest : List β} {word : List Char} {n : Nat}

/-- No letter of a word is printed as a `?`, in whatever case. -/
theorem ne_of_toLower_mem {c : Char} (hw : '?' ∉ word) (h : c.toLower ∈ word) : c ≠ '?' := by
  rintro rfl
  exact hw h

/-- Dropping at the start of a word that a text starts with. -/
theorem sheds_drop (h : word <+: text.map fun x => (char x).toLower) (hw : '?' ∉ word)
    (hpos : 0 < n) (hn : n ≤ word.length) :
    Sheds char text (text.drop n) ∧ (text.drop n).length < text.length := by
  obtain ⟨_, he⟩ := h
  obtain ⟨front, back, rfl, rfl, -⟩ := List.map_eq_append_iff.1 he.symm
  rw [List.length_map] at hn
  refine ⟨⟨front.take n, [], ?_, fun x hx => ?_⟩, ?_⟩
  · rw [List.append_nil, List.drop_append_of_le_length hn, ← List.append_assoc,
      List.take_append_drop]
  · rw [List.append_nil] at hx
    exact ne_of_toLower_mem hw (List.mem_map_of_mem (List.mem_of_mem_take hx))
  · simp only [List.length_drop, List.length_append]
    omega

/-- Dropping at the end of a word that a text ends with. -/
theorem sheds_take (h : word <:+ text.map fun x => (char x).toLower) (hw : '?' ∉ word)
    (hpos : 0 < n) (hn : n ≤ word.length) :
    Sheds char text (text.take (text.length - n)) ∧
      (text.take (text.length - n)).length < text.length := by
  obtain ⟨_, he⟩ := h
  obtain ⟨front, back, rfl, -, rfl⟩ := List.map_eq_append_iff.1 he.symm
  rw [List.length_map] at hn
  refine ⟨⟨[], back.drop (back.length - n), ?_, fun x hx => ?_⟩, ?_⟩
  · have hlen : (front ++ back).length - n = front.length + (back.length - n) := by
      rw [List.length_append]
      omega
    rw [List.nil_append, hlen, List.take_length_add_append, List.append_assoc,
      List.take_append_drop]
  · rw [List.nil_append] at hx
    exact ne_of_toLower_mem hw (List.mem_map_of_mem (List.mem_of_mem_drop hx))
  · simp only [List.length_take, List.length_append]
    omega

/-- Dropping a word that is all of a text. -/
theorem sheds_nil (h : (text.map fun x => (char x).toLower) = word) (hw : '?' ∉ word)
    (hne : word ≠ []) : Sheds char text [] ∧ ([] : List β).length < text.length := by
  subst h
  refine ⟨⟨text, [], by simp, fun x hx => ?_⟩, ?_⟩
  · rw [List.append_nil] at hx
    exact ne_of_toLower_mem hw (List.mem_map_of_mem hx)
  · rw [Ne, List.map_eq_nil_iff] at hne
    exact List.length_pos_iff.2 hne

/-- Dropping a connector sheds something, and then blanks. -/
theorem of_dropConnector? (h : dropConnector? char text = some rest) :
    ∃ shorter, Sheds char text shorter ∧ shorter.length < text.length ∧
      rest = trimBy Text.isBlank char shorter := by
  obtain ⟨shorter, hs, rfl⟩ := Option.map_eq_some_iff.1 h
  refine ⟨shorter, ?_⟩
  rw [← and_assoc, and_iff_left rfl]
  split_ifs at hs with hand hor hand' hor' hall
  · obtain rfl := Option.some.inj hs
    rcases hand with hand | hand
    · exact sheds_drop hand (by decide) (by decide) (by decide)
    · exact sheds_drop hand (by decide) (by decide) (by decide)
  · obtain rfl := Option.some.inj hs
    rcases hor with hor | hor
    · exact sheds_drop hor (by decide) (by decide) (by decide)
    · exact sheds_drop hor (by decide) (by decide) (by decide)
  · obtain rfl := Option.some.inj hs
    exact sheds_take hand' (by decide) (by decide) (by decide)
  · obtain rfl := Option.some.inj hs
    exact sheds_take hor' (by decide) (by decide) (by decide)
  · obtain rfl := Option.some.inj hs
    rcases hall with hall | hall
    · exact sheds_nil hall (by decide) (by decide)
    · exact sheds_nil hall (by decide) (by decide)

theorem length_dropConnector?_lt (h : dropConnector? char text = some rest) :
    rest.length < text.length := by
  obtain ⟨shorter, -, hlt, rfl⟩ := of_dropConnector? h
  exact (sheds_trimBy (by decide) char shorter).length_le.trans_lt hlt

theorem dropConnector?_map {γ : Type} (char : γ → Char) (f : β → γ) (text : List β) :
    dropConnector? char (text.map f) = (dropConnector? (char ∘ f) text).map (List.map f) := by
  have hlower : (text.map f).map (fun x => (char x).toLower) =
      text.map fun x => ((char ∘ f) x).toLower := by
    rw [List.map_map]
    rfl
  simp only [dropConnector?, hlower, List.length_map, ← List.map_drop, ← List.map_take]
  split_ifs <;> simp [map_trimBy]

end Connectors

/-- A text without connectors at its ends. -/
def dropConnectors (char : β → Char) (text : List β) : List β :=
  match _h : dropConnector? char text with
  | some rest => dropConnectors char rest
  | none => text
termination_by text.length
decreasing_by exact length_dropConnector?_lt ‹_›

theorem sheds_dropConnectors (char : β → Char) (text : List β) :
    Sheds char text (dropConnectors char text) := by
  fun_induction dropConnectors char text with
  | case1 text rest h ih =>
    obtain ⟨shorter, hs, -, rfl⟩ := of_dropConnector? h
    exact (hs.trans (sheds_trimBy (by decide) char shorter)).trans ih
  | case2 text h => exact .refl char text

theorem map_dropConnectors {γ : Type} (char : γ → Char) (f : β → γ) (text : List β) :
    (dropConnectors (char ∘ f) text).map f = dropConnectors char (text.map f) := by
  fun_induction dropConnectors (char ∘ f) text with
  | case1 text rest h ih =>
    have hf := dropConnector?_map char f text
    rw [h, Option.map_some] at hf
    rw [ih, dropConnectors.eq_def char (text.map f)]
    split
    · next rest' he =>
      rw [he] at hf
      rw [Option.some.inj hf]
    · next he =>
      rw [he] at hf
      cases hf
  | case2 text h =>
    have hf := dropConnector?_map char f text
    rw [h, Option.map_none] at hf
    rw [dropConnectors.eq_def char (text.map f)]
    split
    · next rest' he =>
      rw [he] at hf
      cases hf
    · rfl

/-! ## Blocks -/

namespace JoinKind

/-- What is written in front of the text of a block. -/
def head : JoinKind → String
  | filter => "WHERE "
  | assign => "SET "

/-- What remains of the text of a block. -/
def remains (char : β → Char) (text : List β) : JoinKind → List β
  | filter => dropConnectors char (trimBy Text.isBlank char text)
  | assign => trimBy (fun c => c = ',' || c = ' ') char text

/-- What a block adds to the text that it is joined into. -/
def joined (char : β → Char) (lift : Char → β) (kind : JoinKind) (text : List β) : List β :=
  match kind.remains char text with
  | [] => []
  | rest => kind.head.toList.map lift ++ rest ++ [lift ' ']

variable {char : β → Char} {lift : Char → β}

theorem sheds_remains (char : β → Char) (text : List β) (kind : JoinKind) :
    Sheds char text (kind.remains char text) := by
  cases kind with
  | filter => exact (sheds_trimBy (by decide) char text).trans (sheds_dropConnectors char _)
  | assign => exact sheds_trimBy (by decide) char text

theorem map_remains {γ : Type} (char : γ → Char) (f : β → γ) (text : List β) (kind : JoinKind) :
    (kind.remains (char ∘ f) text).map f = kind.remains char (text.map f) := by
  cases kind with
  | filter => simp only [remains, map_dropConnectors, map_trimBy]
  | assign => exact map_trimBy _ char f text

/-- What the units of a text carry does not matter for how it is joined. -/
theorem map_joined (hlift : ∀ c, char (lift c) = c) (kind : JoinKind) (text : List β) :
    (kind.joined char lift text).map char = kind.joined id id (text.map char) := by
  unfold joined
  rw [← map_remains id char, Function.id_comp]
  cases kind.remains char text with
  | nil => rfl
  | cons x rest => simp [Function.comp_def, hlift]

/-- No `?` is dropped from the text of a block, and none is added. -/
theorem filter_joined {q : β → Bool} (hlift : ∀ c, char (lift c) = c)
    (hq : ∀ x, q x = true → char x = '?') (kind : JoinKind) (text : List β) :
    (kind.joined char lift text).filter q = text.filter q := by
  rw [← (sheds_remains char text kind).filter_eq hq]
  have hnone : ∀ cs : List Char, '?' ∉ cs → (cs.map lift).filter q = [] := by
    intro cs hcs
    refine List.filter_eq_nil_iff.2 fun x hx hqx => hcs ?_
    obtain ⟨c, hc, rfl⟩ := List.mem_map.1 hx
    rwa [← hq _ hqx, hlift]
  unfold joined
  cases kind.remains char text with
  | nil => rfl
  | cons x rest =>
    have hhead : '?' ∉ kind.head.toList := by cases kind <;> decide
    have hlast : [lift ' '].filter q = [] := hnone [' '] (by decide)
    simp only [List.filter_append, hnone _ hhead, hlast, List.nil_append, List.append_nil]

/-- Connectors at both ends are dropped, the placeholder stays. -/
example : filter.joined id id " AND a = ? or ".toList = "WHERE a = ? ".toList := by cbv

end JoinKind

end QueryGen
