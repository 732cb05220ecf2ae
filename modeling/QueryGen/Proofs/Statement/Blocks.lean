import QueryGen.Statement.Render

/-!
# Blocks of lines

The lines of statements are read back by their braces alone: a line that ends with an opening brace
begins a block, and a line that starts with a closing one ends it.

- `tabs`, `opens`, `closes`: what is seen of a line.
- `depths?`: the depth of every line, by the braces in front of it.
- `Block`, `readBlocks?`: lines as chains of blocks. A line that closes one block and opens the next
  goes on with the chain.
- `Laid`: lines at a depth, with the blocks that are read from them. Lines side by side, plain lines
  and whole chains are laid (`Laid.append`, `Laid.line`, `Laid.chain`).
- `Statement.laid`: the lines of every statement are, if no expression in it looks like a brace.
-/

namespace QueryGen

/-! ## Lines by their braces -/

/-- How many tabs a line begins with. -/
def tabs (line : String) : Nat := (line.toList.takeWhile (· == '\t')).length

/-- A line without the tabs at its start. -/
def untabbed (line : String) : String := .ofList (line.toList.dropWhile (· == '\t'))

/-- The line ends with an opening brace. -/
def opens (line : String) : Bool := line.toList.getLast? == some '{'

/-- The line starts, behind its tabs, with a closing brace. -/
def closes (line : String) : Bool := (untabbed line).toList.head? == some '}'

/-- The depth at each line and behind the last one. There is none where a block is closed that was
not opened. -/
def depths? (depth : Nat) : List String → Option (List Nat × Nat)
  | [] => some ([], depth)
  | line :: rest =>
    if closes line ∧ depth = 0 then none
    else
      let here := if closes line then depth - 1 else depth
      (depths? (if opens line then here + 1 else here) rest).map fun (ds, last) =>
        (here :: ds, last)

/-- A text without tabs in front. -/
def Untabbed (text : String) : Prop := text.toList.head? ≠ some '\t'

instance (text : String) : Decidable (Untabbed text) :=
  inferInstanceAs (Decidable (text.toList.head? ≠ some '\t'))

theorem toList_indent (depth : Nat) (text : String) :
    (indent depth text).toList = List.replicate depth '\t' ++ text.toList := by
  simp [indent]

section Indent

variable {text : String}

theorem takeWhile_indent (h : Untabbed text) (depth : Nat) :
    (indent depth text).toList.takeWhile (· == '\t') = List.replicate depth '\t' ∧
      (indent depth text).toList.dropWhile (· == '\t') = text.toList := by
  have htake : text.toList.takeWhile (· == '\t') = [] ∧
      text.toList.dropWhile (· == '\t') = text.toList := by
    cases ht : text.toList with
    | nil => simp
    | cons c rest =>
      have hc : c ≠ '\t' := fun he => h (by rw [ht, he]; rfl)
      simp [hc]
  rw [toList_indent, List.takeWhile_append_of_pos (by simp), List.dropWhile_append_of_pos (by simp),
    htake.1, htake.2, List.append_nil]
  exact ⟨rfl, rfl⟩

theorem tabs_indent (h : Untabbed text) (depth : Nat) : tabs (indent depth text) = depth := by
  rw [tabs, (takeWhile_indent h depth).1, List.length_replicate]

theorem untabbed_indent (h : Untabbed text) (depth : Nat) :
    untabbed (indent depth text) = text := by
  rw [untabbed, (takeWhile_indent h depth).2, String.ofList_toList]

theorem closes_indent (h : Untabbed text) (depth : Nat) :
    closes (indent depth text) = (text.toList.head? == some '}') := by
  rw [closes, untabbed_indent h]

theorem opens_indent (text : String) (depth : Nat) :
    opens (indent depth text) = (text.toList.getLast? == some '{') := by
  rw [opens, toList_indent]
  cases ht : text.toList with
  | nil => cases depth <;> simp [List.getLast?_replicate]
  | cons c rest => simp [List.getLast?_append, List.getLast?_cons]

end Indent

/-! ## Texts of lines -/

/-- The text of a line that neither opens nor closes a block. -/
structure IsPlain (text : String) : Prop where
  untabbed : Untabbed text
  closes : text.toList.head? ≠ some '}'
  opens : text.toList.getLast? ≠ some '{'

/-- The text of a line that opens a block. -/
structure IsOpening (text : String) : Prop where
  untabbed : Untabbed text
  closes : text.toList.head? ≠ some '}'
  opens : text.toList.getLast? = some '{'

/-- The text of a line that closes a block and opens the next one. -/
structure IsBetween (text : String) : Prop where
  closes : text.toList.head? = some '}'
  opens : text.toList.getLast? = some '{'

theorem IsBetween.untabbed {text : String} (h : IsBetween text) : Untabbed text := by
  rw [Untabbed, h.closes]
  decide

theorem getLast?_append_text (front back : String) {c : Char}
    (h : back.toList.getLast? = some c) : (front ++ back).toList.getLast? = some c := by
  rw [String.toList_append, List.getLast?_append, h]
  rfl

theorem isOpening_if (cond : String) : IsOpening ("if " ++ cond ++ " \x7b") :=
  ⟨by simp [Untabbed], by simp, getLast?_append_text _ _ rfl⟩

theorem isOpening_loopHead (index value range : String) :
    IsOpening (loopHead index value range) := by
  unfold loopHead
  split <;> exact ⟨by simp [Untabbed], by simp, getLast?_append_text _ _ rfl⟩

theorem isBetween_alternativeHead (cond : Option String) : IsBetween (alternativeHead cond) := by
  cases cond with
  | none => exact ⟨rfl, rfl⟩
  | some cond => exact ⟨by simp [alternativeHead], getLast?_append_text _ _ rfl⟩

/-! ## Blocks -/

mutual

/-- What lines are made of. -/
inductive Block where
  | line (text : String)
  /-- Blocks that are closed and opened in one line each. -/
  | chain (arms : List Arm)

/-- A block behind the line that opens it. -/
inductive Arm where
  | mk (head : String) (body : List Block)

end

/-- A chain whose last block is open. -/
structure OpenChain where
  /-- The blocks before it, the latest first. -/
  arms : List Arm
  /-- The line that opened it. -/
  head : String
  /-- What was read before the chain, the latest first. -/
  before : List Block

/-- What has been read of lines. -/
structure BlockReading where
  /-- The open chains, the innermost first. -/
  chains : List OpenChain := []
  /-- The open block, the latest first. -/
  reversed : List Block := []

namespace BlockReading

/-- Reads a line by its braces. -/
def step (r : BlockReading) (line : String) : Option BlockReading :=
  if closes line then
    match r.chains with
    | [] => none
    | c :: more =>
      let arms := .mk c.head r.reversed.reverse :: c.arms
      if opens line then some ⟨⟨arms, untabbed line, c.before⟩ :: more, []⟩
      else some ⟨more, .chain arms.reverse :: c.before⟩
  else if opens line then some ⟨⟨[], untabbed line, r.reversed⟩ :: r.chains, []⟩
  else some { r with reversed := .line (untabbed line) :: r.reversed }

/-- The reading with further blocks. -/
def extend (r : BlockReading) (blocks : List Block) : BlockReading :=
  { r with reversed := blocks.reverse ++ r.reversed }

end BlockReading

/-- The blocks of lines, if every block is opened and closed. -/
def readBlocks? (lines : List String) : Option (List Block) := do
  let r ← lines.foldlM BlockReading.step {}
  if r.chains.isEmpty then some r.reversed.reverse else none

/-! ## Lines that are laid out -/

/-- Lines that stand at a depth and leave it as it is, and the blocks that are read from them. -/
structure Laid (depth : Nat) (lines : List String) (blocks : List Block) : Prop where
  depths : depths? depth lines = some (lines.map tabs, depth)
  read : ∀ r : BlockReading, lines.foldlM BlockReading.step r = some (r.extend blocks)

/-- Lines from the end of a block to the end of its chain, and the blocks in between. -/
structure LaidTail (depth : Nat) (lines : List String) (arms : List Arm) : Prop where
  depths : depths? (depth + 1) lines = some (lines.map tabs, depth)
  read : ∀ c more current, lines.foldlM BlockReading.step ⟨c :: more, current⟩ =
    some ⟨more, .chain (c.arms.reverse ++ .mk c.head current.reverse :: arms) :: c.before⟩

variable {depth : Nat} {lines others : List String} {blocks more : List Block} {arms : List Arm}
  {text : String}

theorem depths?_append {last : Nat} {ds : List Nat} (h : depths? depth lines = some (ds, last)) :
    depths? depth (lines ++ others) =
      (depths? last others).map fun (es, end_) => (ds ++ es, end_) := by
  induction lines generalizing depth ds with
  | nil =>
    cases h
    simp
  | cons line rest ih =>
    rw [depths?] at h
    rw [List.cons_append, depths?]
    split at h
    · cases h
    · next hn =>
      obtain ⟨⟨es, end_⟩, hrest, he⟩ := Option.map_eq_some_iff.1 h
      cases he
      rw [if_neg hn]
      simp only [ih hrest, Option.map_map]
      rfl

namespace Laid

theorem nil : Laid depth [] [] := ⟨rfl, fun _ => rfl⟩

theorem append (h : Laid depth lines blocks) (h' : Laid depth others more) :
    Laid depth (lines ++ others) (blocks ++ more) := by
  constructor
  · rw [depths?_append h.depths, h'.depths, List.map_append]
    rfl
  · intro r
    simp [List.foldlM_append, h.read, h'.read, BlockReading.extend]

theorem line (h : IsPlain text) : Laid depth [indent depth text] [.line text] := by
  have hc : closes (indent depth text) = false := by simp [closes_indent h.untabbed, h.closes]
  have ho : opens (indent depth text) = false := by simp [opens_indent, h.opens]
  constructor
  · simp [depths?, hc, ho, tabs_indent h.untabbed]
  · intro r
    simp [BlockReading.step, hc, ho, untabbed_indent h.untabbed, BlockReading.extend]

/-- A chain of blocks. -/
theorem chain (h : IsOpening text) (hb : Laid (depth + 1) lines blocks)
    (ht : LaidTail depth others arms) :
    Laid depth (indent depth text :: (lines ++ others)) [.chain (.mk text blocks :: arms)] := by
  have hc : closes (indent depth text) = false := by simp [closes_indent h.untabbed, h.closes]
  have ho : opens (indent depth text) = true := by simp [opens_indent, h.opens]
  constructor
  · simp [depths?, hc, ho, tabs_indent h.untabbed, depths?_append hb.depths, ht.depths]
  · intro r
    simp [List.foldlM_append, BlockReading.step, hc, ho, untabbed_indent h.untabbed, hb.read,
      ht.read, BlockReading.extend]

end Laid

namespace LaidTail

theorem close : LaidTail depth [indent depth "\x7d"] [] := by
  have hu : Untabbed "\x7d" := by decide
  have hc : closes (indent depth "\x7d") = true := by rw [closes_indent hu]; decide
  have ho : opens (indent depth "\x7d") = false := by rw [opens_indent]; decide
  constructor
  · simp [depths?, hc, ho, tabs_indent hu]
  · intro c more current
    simp [BlockReading.step, hc, ho]

/-- A further block of the chain. -/
theorem arm (h : IsBetween text) (hb : Laid (depth + 1) lines blocks)
    (ht : LaidTail depth others arms) :
    LaidTail depth (indent depth text :: (lines ++ others)) (.mk text blocks :: arms) := by
  have hc : closes (indent depth text) = true := by simp [closes_indent h.untabbed, h.closes]
  have ho : opens (indent depth text) = true := by simp [opens_indent, h.opens]
  constructor
  · simp [depths?, hc, ho, tabs_indent h.untabbed, depths?_append hb.depths, ht.depths]
  · intro c more current
    simp [List.foldlM_append, BlockReading.step, hc, ho, untabbed_indent h.untabbed, hb.read,
      ht.read, BlockReading.extend]

end LaidTail

/-- Lines at depth zero are blocks. -/
theorem Laid.readBlocks?_eq (h : Laid depth lines blocks) : readBlocks? lines = some blocks := by
  simp [readBlocks?, h.read, BlockReading.extend]

/-! ## Blocks of statements -/

mutual

/-- The blocks of a statement. -/
def Statement.blocks : Statement → List Block
  | .branch cond body alternatives =>
    [.chain (.mk ("if " ++ cond ++ " \x7b") (Statement.blocksAll body) ::
      Alternative.arms alternatives)]
  | .loop index value range body =>
    [.chain [.mk (loopHead index value range) (Statement.blocksAll body)]]
  | s => (s.lines 0).map .line

/-- The blocks of statements. -/
def Statement.blocksAll : List Statement → List Block
  | [] => []
  | s :: rest => s.blocks ++ Statement.blocksAll rest

/-- The blocks of alternatives. -/
def Alternative.arms : List Alternative → List Arm
  | [] => []
  | .mk cond body :: rest =>
    .mk (alternativeHead cond) (Statement.blocksAll body) :: Alternative.arms rest

end

theorem Statement.blocksAll_append (a b : List Statement) :
    Statement.blocksAll (a ++ b) = Statement.blocksAll a ++ Statement.blocksAll b := by
  induction a with
  | nil => simp [Statement.blocksAll]
  | cons s rest ih => simp [Statement.blocksAll, ih]

mutual

/-- No line of a statement looks like a brace but for those of its blocks. -/
def Statement.Tidy : Statement → Prop
  | .branch _ body alternatives => Statement.AllTidy body ∧ Alternative.AllTidy alternatives
  | .loop _ _ _ body => Statement.AllTidy body
  | s => ∀ text ∈ s.lines 0, IsPlain text

def Statement.AllTidy : List Statement → Prop
  | [] => True
  | s :: rest => s.Tidy ∧ Statement.AllTidy rest

def Alternative.AllTidy : List Alternative → Prop
  | [] => True
  | .mk _ body :: rest => Statement.AllTidy body ∧ Alternative.AllTidy rest

end

theorem Statement.allTidy_append {a b : List Statement} (ha : Statement.AllTidy a)
    (hb : Statement.AllTidy b) : Statement.AllTidy (a ++ b) := by
  induction a with
  | nil => exact hb
  | cons s rest ih => exact ⟨ha.1, ih ha.2⟩

mutual

/-- The lines of a statement are laid out at every depth. -/
theorem Statement.laid (depth : Nat) {s : Statement} (h : s.Tidy) :
    Laid depth (s.lines depth) s.blocks := by
  match s with
  | .branch cond body alternatives =>
    rw [Statement.lines, Statement.blocks, List.append_assoc]
    exact .chain (isOpening_if cond) (Statement.laidAll (depth + 1) h.1)
      (Alternative.laidTail depth h.2)
  | .loop index value range body =>
    exact .chain (isOpening_loopHead index value range) (Statement.laidAll (depth + 1) h) .close
  | .declareMap | .declareList | .declareBuilder _ | .put _ _ | .append _ | .write _ _
  | .join _ _ _ | .startCounter _ | .stepCounter _ =>
    exact .line (by simpa [Statement.Tidy, Statement.lines, indent] using h)

/-- The lines of statements are laid out at every depth. -/
theorem Statement.laidAll (depth : Nat) {ss : List Statement} (h : Statement.AllTidy ss) :
    Laid depth (Statement.linesAll depth ss) (Statement.blocksAll ss) := by
  match ss with
  | [] => exact .nil
  | s :: rest => exact (Statement.laid depth h.1).append (Statement.laidAll depth h.2)

theorem Alternative.laidTail (depth : Nat) {as : List Alternative} (h : Alternative.AllTidy as) :
    LaidTail depth (Alternative.linesAll depth as ++ [indent depth "\x7d"])
      (Alternative.arms as) := by
  match as with
  | [] => exact .close
  | .mk cond body :: rest =>
    rw [Alternative.linesAll, Alternative.lines, List.cons_append, List.cons_append,
      List.append_assoc]
    exact .arm (isBetween_alternativeHead cond) (Statement.laidAll (depth + 1) h.1)
      (Alternative.laidTail depth h.2)

end

end QueryGen
