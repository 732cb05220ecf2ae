import QueryGen.Proofs.Execution.Names
import QueryGen.Proofs.Go.Quoting
import QueryGen.Proofs.Template.Selectors
import QueryGen.Statement.Render

/-!
# Keys that are printed

The key of a value outside loops is a literal. Inside loops it is a call that prints the index
variables into a format, so what key it gives depends on the run.

- `Go.sprintf?`: a format, its verbs replaced by texts.
- `Go.keyText?`: the value of the expression of a key, read off its Go code.
- `keyText?_expr`: it is the key that a run uses.
- `IsPath`: names with dots between them, as selectors are (`isPath_of_isSelector`).
- `keys_decodable`: a key of a loop tells its path, the loop and the numbers of its turn, and is no
  path itself.
-/

namespace QueryGen

/-! ## Calls -/

namespace Go

open Template (closeQuote? closeQuote?_cons not_isSeparator_of_isIdentChar onto
  trimmed_of_not_isSeparator)

variable {cs front : List Char} {names : List String} {value : String → List Char}

/-- A format, its verbs `%v` replaced by texts. There must be one verb for each text, and no
other. -/
def sprintf? : List Char → List (List Char) → Option (List Char)
  | [], [] => some []
  | [], _ :: _ => none
  | '%' :: 'v' :: rest, arg :: args => (sprintf? rest args).map (arg ++ ·)
  | c :: rest, args => if c = '%' then none else (sprintf? rest args).map (c :: ·)

/-- Names with commas between them. There may be none. -/
def listed (cs : List Char) : List (List Char) :=
  if cs = [] then [] else (Text.splitOn ',' cs).map Text.trim

/-- The variables that stand behind the first argument of a call, read through its end. -/
def variables? (cs : List Char) : Option (List String) := do
  let inner ← [',', ' '].isPrefixOf? cs
  let names := listed inner.dropLast
  if inner.getLast? = some ')' ∧ names.all isIdentifierText = true then
    some (names.map String.ofList)
  else none

/-- The value of the expression of a key: a literal, or a call that prints variables into a format.
`value` gives what `%v` prints for a variable. -/
def keyText? (value : String → List Char) (expr : String) : Option (List Char) :=
  match "fmt.Sprintf(\"".toList.isPrefixOf? expr.toList with
  | none => unquote? expr.toList
  | some rest => do
    let (literal, after) ← closeQuote? '"' rest
    let format ← literalBody? literal
    let names ← variables? after
    sprintf? format (names.map value)

/-! ## The literal of a call -/

theorem closeQuote?_append_of_ne (h : ∀ c ∈ front, c ≠ '"' ∧ c ≠ '\\') (rest : List Char) :
    closeQuote? '"' (front ++ rest) = onto front (closeQuote? '"' rest) := by
  induction front with
  | nil => simp [onto]
  | cons c more ih =>
    obtain ⟨⟨hquote, hback⟩, hmore⟩ := List.forall_mem_cons.1 h
    rw [List.cons_append, closeQuote?_cons hback, if_neg hquote, ih hmore, onto, onto, onto,
      Option.map_map]
    rfl

/-- A quoted character does not end the literal. -/
theorem closeQuote?_quoteChar (c : Char) (rest : List Char) :
    closeQuote? '"' (quoteChar c ++ rest) = onto (quoteChar c) (closeQuote? '"' rest) := by
  rcases quoteChar_cases c with ⟨he, hquote, hback, -⟩ | ⟨d, -, he⟩ | he
  · rw [he]
    exact closeQuote?_append_of_ne (by simp [hquote, hback]) rest
  · rw [he]
    rfl
  · have hhex := closeQuote?_append_of_ne (fun d hd => ne_of_mem_hex4 (n := c.toNat) hd) rest
    rw [he, List.cons_append, List.cons_append, closeQuote?, hhex, onto, onto, onto, Option.map_map]
    rfl

/-- The closing quote of a quoted text is found, whatever stands behind it. -/
theorem closeQuote?_flatMap (cs rest : List Char) :
    closeQuote? '"' (cs.flatMap quoteChar ++ '"' :: rest) =
      some (cs.flatMap quoteChar ++ ['"'], rest) := by
  induction cs with
  | nil => rfl
  | cons c more ih =>
    rw [List.flatMap_cons, List.append_assoc, closeQuote?_quoteChar, ih, onto, Option.map_some,
      List.append_assoc]

/-! ## The format -/

theorem sprintf?_cons {c : Char} (hc : c ≠ '%') (rest : List Char) (args : List (List Char)) :
    sprintf? (c :: rest) args = (sprintf? rest args).map (c :: ·) := by
  rw [sprintf?, if_neg hc]
  exact fun _ _ _ _ hverb _ => hc hverb

theorem sprintf?_append (h : '%' ∉ front) (rest : List Char) (args : List (List Char)) :
    sprintf? (front ++ rest) args = (sprintf? rest args).map (front ++ ·) := by
  induction front with
  | nil => simp
  | cons c more ih =>
    rw [List.mem_cons, not_or] at h
    rw [List.cons_append, sprintf?_cons (Ne.symm h.1), ih h.2, Option.map_map]
    rfl

/-- Verbs behind each other, each with an underscore in front. -/
theorem sprintf?_verbs (args : List (List Char)) :
    sprintf? (args.flatMap fun _ => ['_', '%', 'v']) args = some (args.flatMap ('_' :: ·)) := by
  induction args with
  | nil => rfl
  | cons arg rest ih =>
    rw [List.flatMap_cons, List.flatMap_cons, List.cons_append, sprintf?_cons (by decide)]
    simp [sprintf?, ih]

theorem toList_format (name : String) (loopId : Nat) (names : List String) :
    (Key.format name loopId names).toList =
      (name.toList ++ '.' :: loopId.repr.toList) ++ names.flatMap fun _ => ['_', '%', 'v'] := by
  have hverbs : (String.join (names.map fun _ => "_%v")).toList =
      names.flatMap fun _ => ['_', '%', 'v'] := by
    induction names with
    | nil => rfl
    | cons v rest ih => rw [List.map_cons, String.join_cons, String.toList_append, ih]; rfl
  rw [Key.format, String.toList_append, String.toList_append, String.toList_append, hverbs,
    List.append_assoc name.toList]
  rfl

/-- A format is printed with a text for each variable. -/
theorem sprintf?_format {name : String} (h : '%' ∉ name.toList) (loopId : Nat)
    (names : List String) (value : String → List Char) :
    sprintf? (Key.format name loopId names).toList (names.map value) =
      some (name.toList ++
        '.' :: (loopId.repr.toList ++ names.flatMap fun v => '_' :: value v)) := by
  have hfront : '%' ∉ name.toList ++ '.' :: loopId.repr.toList := by
    rw [List.mem_append, List.mem_cons, not_or, not_or]
    exact ⟨h, by decide, notMem_repr_int rfl (by decide) loopId⟩
  have hverbs := sprintf?_verbs (names.map value)
  rw [List.flatMap_map, List.flatMap_map] at hverbs
  rw [toList_format, sprintf?_append hfront, hverbs, Option.map_some, List.append_assoc]
  rfl

/-! ## The variables -/

theorem trim_of_isIdentChar (h : ∀ c ∈ cs, isIdentChar c = true) : Text.trim cs = cs :=
  (trimmed_of_not_isSeparator fun c hc => not_isSeparator_of_isIdentChar (h c hc)).trim_eq

/-- Names with commas between them are read back. -/
theorem listed_join {ls : List (List Char)} (h : ∀ l ∈ ls, isIdentifierText l = true) :
    listed (Text.join [',', ' '] ls) = ls := by
  cases ls with
  | nil => rfl
  | cons l rest =>
    have hchars : ∀ part ∈ l :: rest, ∀ c ∈ part, isIdentChar c = true := fun part hp =>
      Template.isIdentChar_of_isIdentifierText (h part hp)
    have hcomma : ∀ part ∈ l :: rest, ',' ∉ part := fun part hp hmem =>
      absurd (hchars part hp ',' hmem) (by decide)
    have hspaced : ∀ part ∈ l :: rest.map (' ' :: ·), ',' ∉ part := by
      obtain ⟨hl, hrest⟩ := List.forall_mem_cons.1 hcomma
      refine List.forall_mem_cons.2 ⟨hl, List.forall_mem_map.2 fun part hp => ?_⟩
      rw [List.mem_cons, not_or]
      exact ⟨by decide, hrest part hp⟩
    have hjoin : Text.join [',', ' '] (l :: rest) =
        Text.join [','] (l :: rest.map (' ' :: ·)) := by
      rw [Text.join_cons_eq, Text.join_cons_eq, List.flatMap_map]
      rfl
    have hne : Text.join [',', ' '] (l :: rest) ≠ [] := by
      rw [Text.join_cons_eq]
      exact List.append_ne_nil_of_left_ne_nil (fun hl => by simp [hl, isIdentifierText] at h) _
    obtain ⟨hl, hrest⟩ := List.forall_mem_cons.1 hchars
    have htrim : ∀ part ∈ rest, Text.trim (' ' :: part) = part := fun part hp => by
      rw [trim_space_cons, trim_of_isIdentChar (hrest part hp)]
    rw [listed, if_neg hne, hjoin, Text.splitOn_join hspaced (List.cons_ne_nil _ _), List.map_cons,
      trim_of_isIdentChar hl, List.map_map]
    exact congrArg (l :: ·) ((List.map_congr_left htrim).trans (List.map_id' rest))

theorem variables?_intercalate (h : ∀ v ∈ names, isIdentifier v = true) :
    variables? (", " ++ ", ".intercalate names ++ ")").toList = some names := by
  have hnames : ∀ l ∈ names.map String.toList, isIdentifierText l = true :=
    List.forall_mem_map.2 h
  have htext : (", " ++ ", ".intercalate names ++ ")").toList =
      [',', ' '] ++ (Text.join [',', ' '] (names.map String.toList) ++ [')']) := by
    rw [String.toList_append, String.toList_append, String.toList_intercalate, List.append_assoc]
    rfl
  rw [htext, variables?, Reserved.isPrefixOf?_append, Option.bind_eq_bind, Option.bind_some,
    List.dropLast_concat, listed_join hnames, List.getLast?_concat,
    if_pos ⟨rfl, List.all_eq_true.2 hnames⟩, List.map_map]
  simp

/-! ## The key -/

/-- The expression of a key has the key for its value that a run uses. -/
theorem keyText?_expr {α : Type} (w : World α) (m : Machine α) {k : Key}
    (h : ∀ name loopId names, k = .formatted name loopId names →
      '%' ∉ name.toList ∧ ∀ v ∈ names, isIdentifier v = true) :
    keyText? (fun v => w.format (m.read v)) k.expr = some (m.key w k) := by
  cases k with
  | plain name =>
    have hliteral : (quote name).toList = quoteText name.toList := String.toList_ofList
    have hcall : "fmt.Sprintf(\"".toList.isPrefixOf? (quoteText name.toList) = none := rfl
    rw [Key.expr_plain, keyText?, hliteral, hcall]
    exact unquote?_quoteText name.toList
  | formatted name loopId names =>
    obtain ⟨hname, hnames⟩ := h name loopId names rfl
    have htext : (Key.formatted name loopId names).expr.toList = "fmt.Sprintf(\"".toList ++
        ((Key.format name loopId names).toList.flatMap quoteChar ++
          '"' :: (", " ++ ", ".intercalate names ++ ")").toList) := by
      simp [Key.expr_formatted, quote, quoteText]
    have hlist := literalBody?_flatMap (Key.format name loopId names).toList
    rw [keyText?, htext, Reserved.isPrefixOf?_append]
    simp only [closeQuote?_flatMap, Option.bind_eq_bind, Option.bind_some, hlist,
      variables?_intercalate hnames]
    rw [sprintf?_format hname, Machine.key, World.printKey, List.flatMap_map]

end Go

/-! ## Keys of loops -/

section Keys

variable {α : Type} {w : World α} {m m' : Machine α} {p q : String} {names names' : List String}
  {is js : List Nat}

/-- Names with dots between them. None is empty or begins with a digit. -/
def IsPath (path : String) : Prop :=
  ∀ part ∈ Text.splitOn '.' path.toList,
    part.head?.any (!·.isDigit) = true ∧ part.all Go.isIdentChar = true

instance (path : String) : Decidable (IsPath path) := inferInstanceAs (Decidable (∀ _ ∈ _, _))

theorem IsPath.percent_notMem (h : IsPath p) : '%' ∉ p.toList := by
  intro hmem
  rw [← Text.join_splitOn '.' p.toList] at hmem
  rcases Text.mem_join hmem with hdot | ⟨part, hpart, hc⟩
  · cases List.mem_singleton.1 hdot
  · exact absurd (List.all_eq_true.1 (h part hpart).2 '%' hc) (by decide)

theorem not_isDigit_of_isIdentStart {c : Char} (hs : Go.isIdentStart c = true) :
    c.isDigit = false := by
  refine Bool.eq_false_iff.2 fun h => ?_
  have hline : c ≠ '_' := by
    rintro rfl
    cases h
  have hcode : 48 ≤ c.toNat ∧ c.toNat ≤ 57 := by
    simpa [Char.isDigit, UInt32.le_iff_toNat_le] using h
  have halpha : c.isAlpha = false := by
    simp [Char.isAlpha, Char.isUpper, Char.isLower, UInt32.le_iff_toNat_le]
    omega
  have hlt : c.toNat < 0x80 := by omega
  simp [Go.isIdentStart, Text.isLetter, hlt, halpha, hline] at hs

/-- Selectors are paths. -/
theorem isPath_of_isSelector (h : Template.IsSelector p) : IsPath p := by
  intro part hpart
  have hid := h part hpart
  refine ⟨?_, List.all_eq_true.2 (Template.isIdentChar_of_isIdentifierText hid)⟩
  cases part with
  | nil => cases hid
  | cons c rest =>
    rw [Go.isIdentifierText, Bool.and_eq_true] at hid
    rw [List.head?_cons, Option.any_some, not_isDigit_of_isIdentStart hid.1]
    rfl

/-- The index variables of a turn are variables with numbers for values. -/
structure Machine.Counts (m : Machine α) (names : List String) (numbers : List Nat) : Prop where
  identifiers : ∀ v ∈ names, Go.isIdentifier v = true
  values : names.map m.read = numbers.map fun n => .int n

/-- The key that the code of a binding gives. -/
def BindKey.value? (w : World α) (m : Machine α) (k : BindKey) : Option (List Char) :=
  Go.keyText? (fun v => w.format (m.read v)) k.key.expr

theorem BindKey.value?_plain (w : World α) (m : Machine α) (name : String) :
    BindKey.value? w m ⟨name, none⟩ = some name.toList :=
  Go.keyText?_expr w m nofun

theorem BindKey.value?_loop (w : World α) (hp : IsPath p) (hm : m.Counts names is) (loopId : Nat) :
    BindKey.value? w m ⟨p, some ⟨loopId, names⟩⟩ =
      some (printNumbers p loopId (is.map Int.ofNat)) := by
  have hkey : m.key w (.formatted p loopId names) = printNumbers p loopId (is.map Int.ofNat) := by
    rw [Machine.key, hm.values, ← printKey_int w, List.map_map]
    rfl
  rw [← hkey]
  refine Go.keyText?_expr w m fun name id vars he => ?_
  cases he
  exact ⟨hp.percent_notMem, hm.identifiers⟩

/-- The part behind the last dot of a key of a loop begins with a digit. -/
theorem not_isPath_printNumbers (loopId : Nat) (numbers : List Int) :
    ¬IsPath (.ofList (printNumbers p loopId numbers)) := by
  intro h
  have hlast : loopId.repr.toList ++ numbers.flatMap (fun n => '_' :: n.repr.toList) ∈
      Text.splitOn '.' (printNumbers p loopId numbers) := by
    rw [printNumbers, Text.splitOn_append_cons,
      Text.splitOn_of_notMem (dot_notMem_numbers loopId numbers)]
    exact List.mem_append_right _ (List.mem_singleton_self _)
  have hhead := (h _ (by rwa [String.toList_ofList])).1
  have hne : loopId.repr.toList ≠ [] := by simp [Nat.toList_repr]
  rw [List.head?_append_of_ne_nil _ hne, Option.any_eq_true] at hhead
  obtain ⟨c, hc, hdigit⟩ := hhead
  rw [isDigit_of_mem_repr (List.mem_of_mem_head? hc)] at hdigit
  cases hdigit

/-- A key of a loop tells its path, the loop and the numbers of its turn, and is no path itself. -/
theorem keys_decodable (w : World α) (hp : IsPath p) (hq : IsPath q) (hm : m.Counts names is)
    (hm' : m'.Counts names' js) (loopId loopId' : Nat) :
    ∃ key key', BindKey.value? w m ⟨p, some ⟨loopId, names⟩⟩ = some key ∧
      BindKey.value? w m' ⟨q, some ⟨loopId', names'⟩⟩ = some key' ∧
      (key = key' ↔ p = q ∧ loopId = loopId' ∧ is = js) ∧
      ∀ r, IsPath r → BindKey.value? w m' ⟨r, none⟩ = some r.toList ∧ key ≠ r.toList := by
  refine ⟨_, _, BindKey.value?_loop w hp hm loopId, BindKey.value?_loop w hq hm' loopId',
    ⟨fun h => ?same, ?back⟩, fun r hr => ⟨BindKey.value?_plain w m' r, fun h => ?plain⟩⟩
  case same =>
    obtain ⟨hname, hid, hnumbers⟩ := printNumbers_inj h
    exact ⟨hname, hid, List.map_injective_iff.2 (fun _ _ => Int.ofNat.inj) hnumbers⟩
  case back =>
    rintro ⟨rfl, rfl, rfl⟩
    rfl
  case plain =>
    rw [← String.ofList_toList (s := r), ← h] at hr
    exact not_isPath_printNumbers loopId _ hr

end Keys

namespace Roles

/-- Code that prints nothing but integers. -/
def world : World Unit where
  print _ := []
  field v _ := v
  quote _ := []
  join _ cs := cs

/-- A turn of a loop over roles inside one over users. -/
def turn (user role : Nat) : Machine Unit where
  globals _ := .other ()
  locals := [("role", .other ()), ("forIndex1", .int role), ("user", .other ()), ("i", .int user)]
  choices := []

theorem counts_turn (user role : Nat) :
    (turn user role).Counts ["i", "forIndex1"] [user, role] where
  identifiers := by decide
  values := rfl

/-- Turns whose numbers have the same digits. -/
theorem decodable_roles :
    ∃ key key',
      BindKey.value? world (turn 1 12) ⟨"role.id_1", some ⟨2, ["i", "forIndex1"]⟩⟩ = some key ∧
      BindKey.value? world (turn 11 2) ⟨"role.id_1", some ⟨2, ["i", "forIndex1"]⟩⟩ = some key' ∧
      (key = key' ↔ "role.id_1" = "role.id_1" ∧ 2 = 2 ∧ [1, 12] = [11, 2]) ∧
      ∀ r, IsPath r → BindKey.value? world (turn 11 2) ⟨r, none⟩ = some r.toList ∧
        key ≠ r.toList :=
  keys_decodable world (by decide) (by decide) (counts_turn 1 12) (counts_turn 11 2) 2 2

end Roles

end QueryGen
