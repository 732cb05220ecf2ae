import Mathlib.Data.List.Chain
import Mathlib.Data.List.DropRight
import QueryGen.Statement.Render

/-!
# What a SQL clause writes

The operands of a write are merged and trimmed. Unit by unit they are the text of the clause,
its blank ends apart.

- `Mark`, `Fragment.marks`: the units of SQL text: characters, bound values, quoted identifiers.
- `settled`: the units of a clause without the blanks at its ends, one space behind them.
- `Atom`, `Operand.atoms`, `Mark.atoms`: the units of operands, and those that a mark is written as.
- `atoms_operandsOf`: trimming operands is trimming marks, so no placeholder is lost.
-/

namespace QueryGen

open Template (BindStyle Options)

/-! ## Units of text -/

/-- A unit of SQL text. -/
inductive Mark where
  | char (c : Char)
  | bound (b : Binding)
  /-- A Go expression that is quoted as an identifier. -/
  | quoted (expr : String)
deriving DecidableEq, Repr

/-- A unit of a text that is written. -/
inductive Atom where
  | char (c : Char)
  | key (key : Key)
  | quote (receiver expr : String)
deriving DecidableEq, Repr

namespace Mark

def isBlank : Mark → Bool
  | char c => Text.isBlank c
  | _ => false

def binding? : Mark → Option Binding
  | bound b => some b
  | _ => none

def quote? : Mark → Option String
  | quoted expr => some expr
  | _ => none

/-- What a mark is written as. -/
def atoms (opts : Options) : Mark → List Atom
  | char c => [.char c]
  | bound b =>
    match opts.bindStyle, b.key.key with
    | .positional, _ => [.char '?']
    | .named, .plain name => .char '@' :: name.toList.map .char
    | .named, key => [.char '@', .key key]
  | quoted expr => [.quote opts.receiver expr]

end Mark

namespace Atom

def isBlank : Atom → Bool
  | char c => Text.isBlank c
  | _ => false

def quote? : Atom → Option String
  | quote _ expr => some expr
  | _ => none

end Atom

/-- The units of an operand. -/
def Operand.atoms : Operand → List Atom
  | text cs => cs.map .char
  | key k => [.key k]
  | quote receiver expr => [.quote receiver expr]

/-- The units of a fragment. -/
def Fragment.marks : Fragment → List Mark
  | text t => t.toList.map .char
  | bind b => [.bound b]
  | quote expr => [.quoted expr]

/-- The units of a SQL clause without the blanks at its ends. One space follows them, if there
are any. -/
def settled (fragments : List Fragment) : List Mark :=
  match ((fragments.flatMap Fragment.marks).dropWhile Mark.isBlank).rdropWhile Mark.isBlank with
  | [] => []
  | marks => marks ++ [.char ' ']

/-! ## Dropping at the ends of a list -/

section Lists

variable {α β : Type} {p : α → Bool}

theorem dropWhile_append_of_head {xs ys : List α} (h : ∀ y ∈ ys.head?, p y = false) :
    (xs ++ ys).dropWhile p = xs.dropWhile p ++ ys := by
  have hy : ys.dropWhile p = ys := by
    cases ys with
    | nil => rfl
    | cons y rest => simp [h y rfl]
  rw [List.dropWhile_append, hy]
  split
  · next he => simp [List.isEmpty_iff.1 he]
  · rfl

theorem rdropWhile_append_of_getLast {xs ys : List α} (h : ∀ x ∈ xs.getLast?, p x = false) :
    (xs ++ ys).rdropWhile p = xs ++ ys.rdropWhile p := by
  have hd : (ys.reverse ++ xs.reverse).dropWhile p = ys.reverse.dropWhile p ++ xs.reverse :=
    dropWhile_append_of_head (by rwa [List.head?_reverse])
  simp [List.rdropWhile, hd]

/-- Dropping units is dropping what they stand for, when each begins with what is not dropped. -/
theorem dropWhile_flatMap {q : β → Bool} {f : β → List α} {ms : List β}
    (hdrop : ∀ m ∈ ms, q m = true → ∀ a ∈ f m, p a = true)
    (hkeep : ∀ m ∈ ms, q m = false → ∃ a ∈ (f m).head?, p a = false) :
    (ms.flatMap f).dropWhile p = (ms.dropWhile q).flatMap f := by
  induction ms with
  | nil => rfl
  | cons m rest ih =>
    have ih := ih (fun m hm => hdrop m (List.mem_cons_of_mem _ hm))
      (fun m hm => hkeep m (List.mem_cons_of_mem _ hm))
    cases hq : q m with
    | true =>
      have hm := hdrop m List.mem_cons_self hq
      rw [List.flatMap_cons, List.dropWhile_append_of_pos hm, ih, List.dropWhile_cons_of_pos hq]
    | false =>
      obtain ⟨a, ha, hp⟩ := hkeep m List.mem_cons_self hq
      obtain ⟨as, hf⟩ := List.head?_eq_some_iff.1 ha
      rw [List.dropWhile_cons_of_neg (by simp [hq]), List.flatMap_cons, hf, List.cons_append,
        List.dropWhile_cons_of_neg (by simp [hp])]

theorem rdropWhile_flatMap {q : β → Bool} {f : β → List α} {ms : List β}
    (hdrop : ∀ m ∈ ms, q m = true → ∀ a ∈ f m, p a = true)
    (hkeep : ∀ m ∈ ms, q m = false → ∃ a ∈ (f m).getLast?, p a = false) :
    (ms.flatMap f).rdropWhile p = (ms.rdropWhile q).flatMap f := by
  have hd : (ms.reverse.flatMap (List.reverse ∘ f)).dropWhile p =
      (ms.reverse.dropWhile q).flatMap (List.reverse ∘ f) := by
    refine dropWhile_flatMap (fun m hm hq a ha => ?_) fun m hm hq => ?_
    · exact hdrop m (List.mem_reverse.1 hm) hq a (List.mem_reverse.1 ha)
    · simpa [List.head?_reverse] using hkeep m (List.mem_reverse.1 hm) hq
  rw [List.rdropWhile, List.reverse_flatMap, hd, List.rdropWhile, List.flatMap_reverse]

end Lists

/-! ## Operands unit by unit -/

namespace Operand

def isText : Operand → Bool
  | text _ => true
  | _ => false

/-- Two operands that may stand side by side: not both of them are texts. -/
def Apart (a b : Operand) : Prop := ¬(a.isText = true ∧ b.isText = true)

theorem head_atoms_of_not_isText {o : Operand} (h : o.isText = false) :
    ∃ a, o.atoms = [a] ∧ a.isBlank = false := by
  cases o with
  | text cs => simp [isText] at h
  | key k => exact ⟨.key k, rfl, rfl⟩
  | quote receiver expr => exact ⟨.quote receiver expr, rfl, rfl⟩

end Operand

theorem flatMap_atoms_addText (cs : List Char) (operands : List Operand) :
    (addText cs operands).flatMap Operand.atoms =
      operands.flatMap Operand.atoms ++ cs.map Atom.char := by
  fun_induction addText cs operands with
  | case1 => simp [Operand.atoms]
  | case2 last => simp [Operand.atoms]
  | case3 o rest _ ih => simp [ih]

theorem flatMap_atoms_addFragment (opts : Options) (operands : List Operand) (f : Fragment) :
    (addFragment opts operands f).flatMap Operand.atoms =
      operands.flatMap Operand.atoms ++ f.marks.flatMap (Mark.atoms opts) := by
  cases f with
  | text t =>
    simp [addFragment, flatMap_atoms_addText, Fragment.marks, List.flatMap_map, Mark.atoms,
      ← List.map_eq_flatMap]
  | bind b =>
    cases hs : opts.bindStyle with
    | positional =>
      simp [addFragment, addPlaceholder, flatMap_atoms_addText, Fragment.marks, Mark.atoms, hs]
    | named =>
      cases hk : b.key.key with
      | plain name | formatted name loopId indices =>
        simp [addFragment, addPlaceholder, flatMap_atoms_addText, Fragment.marks, Mark.atoms, hs,
          hk, Operand.atoms]
  | quote expr => simp [addFragment, Operand.atoms, Fragment.marks, Mark.atoms]

theorem flatMap_atoms_foldl (opts : Options) (fragments : List Fragment)
    (operands : List Operand) :
    (fragments.foldl (addFragment opts) operands).flatMap Operand.atoms =
      operands.flatMap Operand.atoms ++
        (fragments.flatMap Fragment.marks).flatMap (Mark.atoms opts) := by
  induction fragments generalizing operands with
  | nil => simp
  | cons f rest ih => simp [ih, flatMap_atoms_addFragment]

/-! ## No two texts side by side -/

theorem isChain_addText {cs : List Char} {operands : List Operand}
    (h : operands.IsChain Operand.Apart) : (addText cs operands).IsChain Operand.Apart := by
  fun_induction addText cs operands with
  | case1 => exact .singleton _
  | case2 last => exact .singleton _
  | case3 o rest hne ih =>
    rw [List.isChain_cons] at h ⊢
    refine ⟨fun d hd => ?_, ih h.2⟩
    -- What follows `o` is what followed it before, or the new text behind a text's neighbour.
    match rest with
    | [] =>
      cases o with
      | text last => exact absurd rfl (hne last rfl)
      | _ => simp [Operand.Apart, Operand.isText]
    | [.text last] =>
      obtain rfl : Operand.text (last ++ cs) = d := by simpa [addText] using hd
      exact h.1 (.text last) rfl
    | first :: second :: others =>
      obtain rfl : first = d := by simpa [addText] using hd
      exact h.1 first rfl
    | [.key k] | [.quote r e] =>
      exact h.1 d (by simpa [addText] using hd)

theorem isChain_append_singleton {operands : List Operand} {o : Operand}
    (h : operands.IsChain Operand.Apart) (ho : o.isText = false) :
    (operands ++ [o]).IsChain Operand.Apart := by
  rw [List.isChain_append]
  refine ⟨h, .singleton _, fun a _ b hb => ?_⟩
  obtain rfl : o = b := by simpa using hb
  simp [Operand.Apart, ho]

theorem isChain_foldl (opts : Options) (fragments : List Fragment) {operands : List Operand}
    (h : operands.IsChain Operand.Apart) :
    (fragments.foldl (addFragment opts) operands).IsChain Operand.Apart := by
  induction fragments generalizing operands with
  | nil => exact h
  | cons f rest ih =>
    refine ih ?_
    cases f with
    | text t => exact isChain_addText h
    | bind b =>
      simp only [addFragment, addPlaceholder]
      split
      · exact isChain_addText h
      · exact isChain_addText h
      · exact isChain_append_singleton (isChain_addText h) rfl
    | quote expr => exact isChain_append_singleton h rfl

/-! ## Trimming -/

theorem head_flatMap_atoms {o : Operand} {operands : List Operand}
    (h : (o :: operands).IsChain Operand.Apart) (ho : o.isText = true) :
    ∀ a ∈ (operands.flatMap Operand.atoms).head?, a.isBlank = false := by
  intro a ha
  match operands with
  | [] => simp at ha
  | d :: rest =>
    rw [List.isChain_cons] at h
    have hd : d.isText = false := by
      cases hd : d.isText with
      | false => rfl
      | true => exact absurd ⟨ho, hd⟩ (h.1 d rfl)
    obtain ⟨b, hb, hn⟩ := Operand.head_atoms_of_not_isText hd
    obtain rfl : b = a := by simpa [hb] using ha
    exact hn

theorem getLast_flatMap_atoms {o : Operand} {operands : List Operand}
    (h : (operands ++ [o]).IsChain Operand.Apart) (ho : o.isText = true) :
    ∀ a ∈ (operands.flatMap Operand.atoms).getLast?, a.isBlank = false := by
  intro a ha
  rcases List.eq_nil_or_concat operands with rfl | ⟨before, d, rfl⟩
  · simp at ha
  · rw [List.concat_eq_append, List.isChain_append] at h
    have hd : d.isText = false := by
      cases hd : d.isText with
      | false => rfl
      | true => exact absurd ⟨hd, ho⟩ (h.2.2 d (by simp) o rfl)
    obtain ⟨b, hb, hn⟩ := Operand.head_atoms_of_not_isText hd
    obtain rfl : b = a := by simpa [hb] using ha
    exact hn

theorem flatMap_atoms_trimFirst {operands : List Operand}
    (h : operands.IsChain Operand.Apart) :
    (trimFirst operands).flatMap Operand.atoms =
      (operands.flatMap Operand.atoms).dropWhile Atom.isBlank := by
  match operands with
  | [] => rfl
  | .text cs :: rest =>
    simp only [trimFirst, List.flatMap_cons, Operand.atoms]
    rw [dropWhile_append_of_head (head_flatMap_atoms h rfl), List.dropWhile_map]
    rfl
  | .key k :: rest => simp [trimFirst, Operand.atoms, Atom.isBlank]
  | .quote receiver expr :: rest => simp [trimFirst, Operand.atoms, Atom.isBlank]

theorem trimLast_append_singleton (operands : List Operand) (o : Operand) :
    trimLast (operands ++ [o]) = operands ++ trimLast [o] := by
  induction operands with
  | nil => rfl
  | cons first rest ih =>
    obtain ⟨second, others, hr⟩ := List.exists_cons_of_ne_nil (l := rest ++ [o]) (by simp)
    rw [List.cons_append, hr, trimLast.eq_3 _ _ (by simp), ← hr, ih, List.cons_append]

theorem flatMap_atoms_trimLast {operands : List Operand}
    (h : operands.IsChain Operand.Apart) :
    (trimLast operands).flatMap Operand.atoms =
      (operands.flatMap Operand.atoms).rdropWhile Atom.isBlank := by
  rcases List.eq_nil_or_concat operands with rfl | ⟨before, o, rfl⟩
  · rfl
  · rw [List.concat_eq_append] at h ⊢
    rw [trimLast_append_singleton]
    cases o with
    | text cs =>
      simp only [List.flatMap_append, trimLast, List.flatMap_cons, List.flatMap_nil,
        List.append_nil, Operand.atoms]
      rw [rdropWhile_append_of_getLast (getLast_flatMap_atoms h rfl)]
      simp [List.rdropWhile, Text.trimEnd, Text.dropEndWhile, ← List.map_reverse,
        List.dropWhile_map, Atom.isBlank, Function.comp_def]
    | key k | quote receiver expr =>
      rw [List.rdropWhile_eq_self_iff.2]
      · simp [trimLast]
      · simp [Operand.atoms, Atom.isBlank]

theorem isChain_trimFirst {operands : List Operand} (h : operands.IsChain Operand.Apart) :
    (trimFirst operands).IsChain Operand.Apart := by
  match operands with
  | .text cs :: rest =>
    rw [List.isChain_cons] at h
    exact List.isChain_cons.2 ⟨h.1, h.2⟩
  | [] | .key _ :: _ | .quote _ _ :: _ => exact h

theorem flatMap_atoms_filter (operands : List Operand) :
    (operands.filter (· ≠ .text [])).flatMap Operand.atoms = operands.flatMap Operand.atoms := by
  induction operands with
  | nil => rfl
  | cons o rest ih =>
    by_cases ho : o = .text []
    · simpa [ho, Operand.atoms] using ih
    · simpa [ho] using ih

theorem flatMap_atoms_eq_nil_iff {operands : List Operand} :
    operands.flatMap Operand.atoms = [] ↔ operands.filter (· ≠ .text []) = [] := by
  simp only [List.flatMap_eq_nil_iff, List.filter_eq_nil_iff]
  refine forall_congr' fun o => forall_congr' fun _ => ?_
  cases o <;> simp [Operand.atoms]

/-! ## Trimming marks -/

/-- The name of a key does not end in a blank. -/
def BindKey.TightEnd (k : BindKey) : Prop := ∀ c ∈ k.name.toList.getLast?, Text.isBlank c = false

namespace Mark

variable (opts : Options) {m : Mark}

theorem isBlank_of_mem_atoms (h : m.isBlank = true) :
    ∀ a ∈ m.atoms opts, a.isBlank = true := by
  cases m with
  | char c =>
    intro a ha
    obtain rfl : a = .char c := by simpa [atoms] using ha
    exact h
  | bound b => simp [isBlank] at h
  | quoted expr => simp [isBlank] at h

theorem head_atoms (h : m.isBlank = false) : ∃ a ∈ (m.atoms opts).head?, a.isBlank = false := by
  cases m with
  | char c => exact ⟨.char c, rfl, h⟩
  | bound b =>
    simp only [atoms]
    split
    · exact ⟨.char '?', rfl, by decide⟩
    · exact ⟨.char '@', rfl, by decide⟩
    · exact ⟨.char '@', rfl, by decide⟩
  | quoted expr => exact ⟨.quote opts.receiver expr, rfl, rfl⟩

/-- Placeholders end in no blank, as names do not. -/
theorem getLast_atoms (h : m.isBlank = false)
    (hm : ∀ b ∈ m.binding?, b.key.TightEnd) :
    ∃ a ∈ (m.atoms opts).getLast?, a.isBlank = false := by
  cases m with
  | char c => exact ⟨.char c, rfl, h⟩
  | bound b =>
    simp only [atoms]
    split
    · exact ⟨.char '?', rfl, by decide⟩
    · next name _ hk =>
      have hn : b.key.name = name := by
        unfold BindKey.key at hk
        split at hk
        · simpa using hk
        · simp at hk
      rcases List.eq_nil_or_concat name.toList with he | ⟨front, c, he⟩
      · exact ⟨.char '@', by simp [he], by decide⟩
      · refine ⟨.char c, ?_, hm b rfl c (by simp [hn, he])⟩
        simp [he, List.getLast?_cons]
    · next key _ _ => exact ⟨.key b.key.key, by simp, rfl⟩
  | quoted expr => exact ⟨.quote opts.receiver expr, rfl, rfl⟩

theorem atoms_ne_nil : m.atoms opts ≠ [] := by
  cases m with
  | char c => simp [atoms]
  | bound b =>
    simp only [atoms]
    split <;> simp
  | quoted expr => simp [atoms]

end Mark

theorem bindingsOf_text (t : String) (rest : List Fragment) :
    bindingsOf (.text t :: rest) = bindingsOf rest := rfl

theorem bindingsOf_bind (b : Binding) (rest : List Fragment) :
    bindingsOf (.bind b :: rest) = b :: bindingsOf rest := rfl

theorem bindingsOf_quote (expr : String) (rest : List Fragment) :
    bindingsOf (.quote expr :: rest) = bindingsOf rest := rfl

theorem filterMap_binding_marks (fragments : List Fragment) :
    (fragments.flatMap Fragment.marks).filterMap Mark.binding? = bindingsOf fragments := by
  induction fragments with
  | nil => rfl
  | cons f rest ih =>
    rw [List.flatMap_cons, List.filterMap_append, ih]
    cases f with
    | text t =>
      have ht : (t.toList.map Mark.char).filterMap Mark.binding? = [] := by
        simp [Mark.binding?, Function.comp_def]
      rw [Fragment.marks, ht]
      rfl
    | bind b | quote expr => rfl

/-- Only blanks are trimmed. -/
theorem filterMap_trim {α : Type} {f : Mark → Option α}
    (hf : ∀ c, Text.isBlank c = true → f (.char c) = none) (marks : List Mark) :
    ((marks.dropWhile Mark.isBlank).rdropWhile Mark.isBlank).filterMap f = marks.filterMap f := by
  have hblank : ∀ m : Mark, m.isBlank = true → f m = none := by
    intro m hm
    cases m with
    | char c => exact hf c hm
    | bound b | quoted expr => cases hm
  have hdrop : ∀ ms : List Mark, (ms.dropWhile Mark.isBlank).filterMap f = ms.filterMap f := by
    intro ms
    induction ms with
    | nil => rfl
    | cons m rest ih =>
      rw [List.dropWhile_cons]
      split
      · next hm => rw [ih, List.filterMap_cons_none (hblank m hm)]
      · rfl
  rw [List.rdropWhile, List.filterMap_reverse, hdrop, List.filterMap_reverse,
    List.reverse_reverse, hdrop]

theorem filterMap_settled {α : Type} {f : Mark → Option α}
    (hf : ∀ c, Text.isBlank c = true → f (.char c) = none) (fragments : List Fragment) :
    (settled fragments).filterMap f = (fragments.flatMap Fragment.marks).filterMap f := by
  rw [← filterMap_trim hf (fragments.flatMap Fragment.marks)]
  unfold settled
  split
  · next h => rw [h]
  · simp [List.filterMap_append, hf ' ' Text.isBlank_space]

theorem bindings_settled (fragments : List Fragment) :
    (settled fragments).filterMap Mark.binding? = bindingsOf fragments := by
  rw [filterMap_settled (fun _ _ => rfl), filterMap_binding_marks]

/-- Trimming what marks are written as is trimming the marks. -/
theorem trim_flatMap_atoms (opts : Options) {fragments : List Fragment}
    (h : ∀ b ∈ bindingsOf fragments, b.key.TightEnd) :
    (((fragments.flatMap Fragment.marks).flatMap (Mark.atoms opts)).dropWhile
      Atom.isBlank).rdropWhile Atom.isBlank =
      (((fragments.flatMap Fragment.marks).dropWhile Mark.isBlank).rdropWhile
        Mark.isBlank).flatMap (Mark.atoms opts) := by
  have hm : ∀ m ∈ fragments.flatMap Fragment.marks, ∀ b ∈ m.binding?, b.key.TightEnd := by
    intro m hm b hb
    refine h b ?_
    rw [← filterMap_binding_marks]
    exact List.mem_filterMap.2 ⟨m, hm, hb⟩
  rw [dropWhile_flatMap (fun m _ => Mark.isBlank_of_mem_atoms opts)
      (fun m _ => Mark.head_atoms opts),
    rdropWhile_flatMap (fun m _ => Mark.isBlank_of_mem_atoms opts)
      (fun m hd hq => Mark.getLast_atoms opts hq (hm m ((List.dropWhile_suffix _).subset hd)))]

/-- What is written for a SQL clause is its text without blanks at the ends, every placeholder in
its place. -/
theorem atoms_operandsOf (opts : Options) {fragments : List Fragment}
    (h : ∀ b ∈ bindingsOf fragments, b.key.TightEnd) :
    (operandsOf opts fragments).flatMap Operand.atoms =
      (settled fragments).flatMap (Mark.atoms opts) := by
  have hchain : (fragments.foldl (addFragment opts) []).IsChain Operand.Apart :=
    isChain_foldl opts fragments .nil
  have htrim : (trimLast (trimFirst (fragments.foldl (addFragment opts) []))).flatMap
      Operand.atoms = (((fragments.flatMap Fragment.marks).dropWhile Mark.isBlank).rdropWhile
        Mark.isBlank).flatMap (Mark.atoms opts) := by
    rw [flatMap_atoms_trimLast (isChain_trimFirst hchain), flatMap_atoms_trimFirst hchain,
      flatMap_atoms_foldl, List.flatMap_nil, List.nil_append, trim_flatMap_atoms opts h]
  unfold operandsOf settled
  simp only []
  split
  · next hn =>
    rw [← flatMap_atoms_eq_nil_iff, htrim] at hn
    split
    · rfl
    · next marks hmarks =>
      obtain ⟨m, rest, hr⟩ := List.exists_cons_of_ne_nil hmarks
      rw [hr] at hn
      simp [Mark.atoms_ne_nil] at hn
  · next hn =>
    rw [flatMap_atoms_addText, flatMap_atoms_filter, htrim]
    split
    · next hmarks =>
      rw [← flatMap_atoms_eq_nil_iff, htrim, hmarks] at hn
      simp at hn
    · simp [Mark.atoms]

/-- Nothing is written exactly for a clause of blanks alone. -/
theorem settled_eq_nil_iff (opts : Options) {fragments : List Fragment}
    (h : ∀ b ∈ bindingsOf fragments, b.key.TightEnd) :
    settled fragments = [] ↔ operandsOf opts fragments = [] := by
  have ho := atoms_operandsOf opts h
  constructor
  · intro hs
    rw [hs, List.flatMap_nil] at ho
    unfold operandsOf at ho ⊢
    simp only [] at ho ⊢
    split at ho
    · rfl
    · rw [flatMap_atoms_addText] at ho
      simp at ho
  · intro hn
    rw [hn, List.flatMap_nil, eq_comm, List.flatMap_eq_nil_iff] at ho
    exact List.eq_nil_iff_forall_not_mem.2 fun m hm => Mark.atoms_ne_nil opts (ho m hm)

/-- Where nothing is written, nothing is bound. -/
theorem bindingsOf_eq_nil {opts : Options} {fragments : List Fragment}
    (h : ∀ b ∈ bindingsOf fragments, b.key.TightEnd)
    (ho : operandsOf opts fragments = []) : bindingsOf fragments = [] := by
  rw [← bindings_settled, (settled_eq_nil_iff opts h).2 ho, List.filterMap_nil]

end QueryGen
