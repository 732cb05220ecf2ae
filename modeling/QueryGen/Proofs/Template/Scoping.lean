import Mathlib
import QueryGen.Proofs.Clause.Number
import QueryGen.Proofs.Template.Reading

/-!
# Scopes of a template

While a template is read, names are looked up among the blocks that are open then. The clause tree
finds the nesting later. Both agree on which loops stand around every section.

- `Clause.scopes`: the loops around each section of a clause, by the tree.
- `scopesOf`: the same by the sections alone, with a stack of open blocks. On a flattened clause
  both are equal (`scopesOf_flatten`).
- `ForRange.Binds`, `FieldPath`, `ParamRef.ResolvedIn`, `Section.ResolvedIn`: what a name, a path
  of fields, a reference and a section mean inside given loops.
- `resolvedIn_of_resolve`: lookup gives that meaning.
- `InStep`: the reading's blocks are those of its sections, and all of these are resolved. Every
  piece keeps it (`InStep.isRead`).
-/

namespace QueryGen

/-! ## Loops around a section -/

mutual

/-- The loops around each section of a clause, the innermost first. -/
def Clause.scopes (around : List ForRange) : Clause → List (List ForRange)
  | .sql _ fragments => fragments.map fun _ => around
  | .branch _ _ body otherwise =>
    around :: (Clause.scopesAll around body ++ (Branch.scopesAll around otherwise ++ [around]))
  | .join _ _ _ body => around :: (Clause.scopesAll around body ++ [around])
  | .loop _ _ range _ body =>
    around :: (Clause.scopesAll (range :: around) body ++ [range :: around])

/-- The loops around each section of clauses, the innermost first. -/
def Clause.scopesAll (around : List ForRange) : List Clause → List (List ForRange)
  | [] => []
  | c :: rest => c.scopes around ++ Clause.scopesAll around rest

/-- The loops around each section of branches, the innermost first. -/
def Branch.scopesAll (around : List ForRange) : List Branch → List (List ForRange)
  | [] => []
  | .mk _ body :: rest => around :: Clause.scopesAll around body ++ Branch.scopesAll around rest

end

/-- The open blocks behind a section; a loop with its range. -/
def Section.blocks (blocks : List (Option ForRange)) : Section → List (Option ForRange)
  | branch _ => none :: blocks
  | join _ => none :: blocks
  | loop range => some range :: blocks
  | close => blocks.tail
  | _ => blocks

/-- The loops among blocks. -/
def loopsOf (blocks : List (Option ForRange)) : List ForRange := blocks.filterMap id

/-- The loops around each section, by a stack of open blocks. -/
def scopesOf (blocks : List (Option ForRange)) : List Section → List (List ForRange)
  | [] => []
  | s :: rest => loopsOf blocks :: scopesOf (s.blocks blocks) rest

/-- The open blocks behind sections. -/
def blocksAfter (blocks : List (Option ForRange)) (sections : List Section) :
    List (Option ForRange) := sections.foldl Section.blocks blocks

@[simp] theorem loopsOf_none (blocks : List (Option ForRange)) :
    loopsOf (none :: blocks) = loopsOf blocks := rfl

@[simp] theorem loopsOf_some (range : ForRange) (blocks : List (Option ForRange)) :
    loopsOf (some range :: blocks) = range :: loopsOf blocks := rfl

theorem scopesOf_append (blocks : List (Option ForRange)) (a b : List Section) :
    scopesOf blocks (a ++ b) = scopesOf blocks a ++ scopesOf (blocksAfter blocks a) b := by
  induction a generalizing blocks with
  | nil => rfl
  | cons s rest ih => simp [scopesOf, blocksAfter, ih]

theorem blocks_bare (blocks : List (Option ForRange)) (s : Section) :
    s.bare.blocks blocks = s.blocks blocks := by
  cases s <;> rfl

theorem scopesOf_bare (blocks : List (Option ForRange)) (sections : List Section) :
    scopesOf blocks (sections.map Section.bare) = scopesOf blocks sections := by
  induction sections generalizing blocks with
  | nil => rfl
  | cons s rest ih => simp [scopesOf, blocks_bare, ih]

theorem scopesOf_fragments (blocks : List (Option ForRange)) (fragments : List Fragment)
    (rest : List Section) :
    scopesOf blocks (fragments.map Fragment.section ++ rest) =
      (fragments.map fun _ => loopsOf blocks) ++ scopesOf blocks rest := by
  induction fragments with
  | nil => rfl
  | cons f fs ih =>
    have hf : f.section.blocks blocks = blocks := by cases f <;> rfl
    simp [scopesOf, hf, ih]

mutual

/-- The stack of open blocks finds the loops of the tree, and is the same behind a clause. -/
theorem scopesOf_flatten (blocks : List (Option ForRange)) (c : Clause) (rest : List Section) :
    scopesOf blocks (c.flatten ++ rest) = c.scopes (loopsOf blocks) ++ scopesOf blocks rest := by
  match c with
  | .sql _ fragments => exact scopesOf_fragments blocks fragments rest
  | .branch _ cond body otherwise =>
    simp [Clause.flatten, Clause.scopes, scopesOf, Section.blocks, scopesOf_flattenAll,
      Branch.scopesOf_flattenAll]
  | .join kind _ _ body =>
    simp [Clause.flatten, Clause.scopes, scopesOf, Section.blocks, scopesOf_flattenAll]
  | .loop _ _ range _ body =>
    simp [Clause.flatten, Clause.scopes, scopesOf, Section.blocks, scopesOf_flattenAll]

theorem scopesOf_flattenAll (blocks : List (Option ForRange)) (cs : List Clause)
    (rest : List Section) :
    scopesOf blocks (Clause.flattenAll cs ++ rest) =
      Clause.scopesAll (loopsOf blocks) cs ++ scopesOf blocks rest := by
  match cs with
  | [] => rfl
  | c :: others =>
    simp [Clause.flattenAll, Clause.scopesAll, scopesOf_flatten, scopesOf_flattenAll]

theorem Branch.scopesOf_flattenAll (blocks : List (Option ForRange)) (bs : List Branch)
    (rest : List Section) :
    scopesOf blocks (Branch.flattenAll bs ++ rest) =
      Branch.scopesAll (loopsOf blocks) bs ++ scopesOf blocks rest := by
  match bs with
  | [] => rfl
  | .mk guard body :: others =>
    simp [Branch.flattenAll, Branch.flatten, Branch.scopesAll, scopesOf, Section.blocks,
      QueryGen.scopesOf_flattenAll, Branch.scopesOf_flattenAll]

end

/-- The loops around the sections that a tree was built from. -/
theorem scopesOf_of_buildClauses {sections : List Section} {source : String}
    {tree : List Clause} (h : buildClauses sections source = .ok tree) :
    scopesOf [] sections = Clause.scopesAll [] tree := by
  have hf := scopesOf_flattenAll [] tree []
  rw [List.append_nil, flattenAll_of_buildClauses h, scopesOf_bare] at hf
  simpa [scopesOf, loopsOf] using hf

/-! ## What names mean -/

/-- The loop has a variable of that name. `_` is none. -/
def ForRange.Binds (r : ForRange) (name : String) : Prop :=
  name ≠ "_" ∧ (r.value = name ∨ r.index = name)

/-- The types of the index and the value of a loop. -/
def ForRange.varTypes (r : ForRange) : GoType × GoType :=
  r.type.rangeTypes?.getD (.unknown, .unknown)

/-- The type of a variable of the loop. The value comes before the index. -/
def ForRange.typeOf (r : ForRange) (name : String) : GoType :=
  if r.value = name then r.varTypes.2 else r.varTypes.1

/-- The fields behind the first name of the path. -/
def ParamRef.fields (ref : ParamRef) : List String :=
  ((Text.splitOn '.' ref.path.toList).map String.ofList).tail

namespace Template

/-- The type at the end of a path of fields. Known structs give the types of their fields; a type
that may be a struct that is not known has fields of unknown type. -/
inductive FieldPath (scope : Scope) : GoType → List String → GoType → Prop where
  | nil (type : GoType) : FieldPath scope type [] type
  | known {type last : GoType} {field : String} {fields : List String} {shape : StructShape}
      {found : Param} (hs : scope.structs.lookup type = some shape)
      (hf : shape.field? field = some found) (h : FieldPath scope found.type fields last) :
      FieldPath scope type (field :: fields) last
  | foreign {type last : GoType} {field : String} {fields : List String}
      (hs : scope.structs.lookup type = none)
      (hb : (type.deref.isScalar || type.deref.isArray || type.deref.isMap ||
        type.deref.isInterface) = false)
      (h : FieldPath scope .unknown fields last) : FieldPath scope type (field :: fields) last

/-- The type of a name inside loops: that of a variable of the innermost loop that has one, or
else that of the first parameter of the name. -/
inductive RootType (scope : Scope) (loops : List ForRange) (name : String) :
    ParamSource → GoType → Prop where
  | loop {inner outer : List ForRange} {r : ForRange} (hl : loops = inner ++ r :: outer)
      (hn : ∀ q ∈ inner, ¬q.Binds name) (hr : r.Binds name) :
      RootType scope loops name .loop (r.typeOf name)
  | method {p : Param} (hn : ∀ q ∈ loops, ¬q.Binds name) (hp : scope.param? name = some p) :
      RootType scope loops name .method p.type

/-- What a reference means inside loops. -/
structure ParamRefResolved (scope : Scope) (loops : List ForRange) (ref : ParamRef) : Prop where
  source_eq_loop_iff : ref.source = .loop ↔ ∃ r ∈ loops, r.Binds ref.root
  type : ∃ root, RootType scope loops ref.root ref.source root ∧
    FieldPath scope root ref.fields ref.type

/-- What the range of a loop means inside the loops around it: its leading path is a reference
there, and the range has the type of that reference if it is nothing but the path. -/
def RangeResolved (scope : Scope) (loops : List ForRange) (r : ForRange) : Prop :=
  ∃ ref, ParamRefResolved scope loops ref ∧
    ref.path = .ofList (Text.dropEndWhile (· == '.') (rangePath r.range)) ∧
    r.type = rangeType r.range ref

/-- What a section means inside loops. -/
def SectionResolved (scope : Scope) (loops : List ForRange) : Section → Prop
  | .data ref => ParamRefResolved scope loops ref
  | .quoted ref => ParamRefResolved scope loops ref
  | .loop range => RangeResolved scope loops range
  | _ => True

/-! ## Looking names up -/

theorem RootType.source_eq_loop_iff {scope : Scope} {loops : List ForRange} {name : String}
    {source : ParamSource} {type : GoType} (h : RootType scope loops name source type) :
    source = .loop ↔ ∃ r ∈ loops, r.Binds name := by
  cases h with
  | @loop inner outer r hl hn hr =>
    simp only [true_iff]
    exact ⟨r, by simp [hl], hr⟩
  | method hn hp =>
    simp only [reduceCtorEq, false_iff, not_exists, not_and]
    exact hn

theorem type?_ofRange (r : ForRange) {name : String} (h : name ≠ "_") :
    (∀ type, (LoopVars.ofRange r).type? name = some type → r.Binds name ∧ r.typeOf name = type) ∧
      ((LoopVars.ofRange r).type? name = none → ¬r.Binds name) := by
  by_cases hv : r.value = name
  · simp [LoopVars.ofRange, LoopVars.type?, ForRange.Binds, ForRange.typeOf, ForRange.varTypes,
      hv, h]
  · by_cases hi : r.index = name <;>
      simp [LoopVars.ofRange, LoopVars.type?, ForRange.Binds, ForRange.typeOf, ForRange.varTypes,
        hv, hi, h]

/-- The blocks of a reading, by the blocks of its sections. -/
def blockVars (blocks : List (Option ForRange)) : List (Option LoopVars) :=
  blocks.map (Option.map LoopVars.ofRange)

theorem loopType?_blockVars {r : Reading} {blocks : List (Option ForRange)}
    (hb : r.blocks = blockVars blocks) (name : String) :
    r.loopType? name = (loopsOf blocks).findSome? fun q => (LoopVars.ofRange q).type? name := by
  unfold Reading.loopType?
  rw [hb]
  clear hb
  induction blocks with
  | nil => rfl
  | cons b rest ih =>
    cases b with
    | none => simpa [blockVars] using ih
    | some q =>
      simp only [blockVars] at ih
      simp [blockVars, List.findSome?_cons, ih]

theorem rootType_of_rootType? {scope : Scope} {r : Reading} {blocks : List (Option ForRange)}
    {name : String} {source : ParamSource} {type : GoType} (hb : r.blocks = blockVars blocks)
    (hname : name ≠ "_") (h : rootType? scope r name = some (source, type)) :
    RootType scope (loopsOf blocks) name source type := by
  unfold rootType? at h
  rw [loopType?_blockVars hb] at h
  split at h
  · next found hf =>
    cases h
    obtain ⟨inner, q, outer, hl, hq, hn⟩ := List.findSome?_eq_some_iff.1 hf
    obtain ⟨hbinds, rfl⟩ := (type?_ofRange q hname).1 _ hq
    exact .loop hl (fun p hp => (type?_ofRange p hname).2 (hn p hp)) hbinds
  · next hf =>
    obtain ⟨p, hp, he⟩ := Option.map_eq_some_iff.1 h
    cases he
    exact .method (fun q hq => (type?_ofRange q hname).2 (List.findSome?_eq_none_iff.1 hf q hq)) hp

theorem fieldPath_of_fieldsType {scope : Scope} {source path : String} {type last : GoType}
    {fields : List String} (h : fieldsType scope source path type fields = .ok last) :
    FieldPath scope type fields last := by
  induction fields generalizing type with
  | nil =>
    cases h
    exact .nil _
  | cons field rest ih =>
    unfold fieldsType at h
    split at h
    · cases h
    · obtain ⟨next, hn, h⟩ := bind_eq_ok_iff.1 h
      unfold fieldType at hn
      split at hn
      · next shape hs =>
        split at hn
        · next found hf =>
          cases hn
          exact .known hs hf (ih h)
        · cases hn
      · next hs =>
        simp only [] at hn
        split at hn
        · cases hn
        · next hb =>
          cases hn
          exact .foreign hs (by simpa using hb) (ih h)

theorem root_eq_of_splitOn {path : List Char} {root : String} {fields : List String}
    (h : (Text.splitOn '.' path).map String.ofList = root :: fields) (source : ParamSource)
    (type : GoType) :
    (⟨.ofList path, source, type⟩ : ParamRef).root = root ∧
      (⟨.ofList path, source, type⟩ : ParamRef).fields = fields := by
  obtain ⟨parts, hp⟩ := splitWith_eq_cons (· == '.') path
  have hs : (fun c : Char => !(c == '.')) = fun c => decide (c ≠ '.') := by
    funext c
    by_cases hc : c = '.' <;> simp [hc]
  unfold Text.splitOn at h
  rw [hp, hs] at h
  simp only [List.map_cons, List.cons.injEq] at h
  refine ⟨by simpa [ParamRef.root] using h.1, ?_⟩
  simp [ParamRef.fields, Text.splitOn, hp, h.2]

/-- Lookup gives a reference its meaning inside the loops that are open. -/
theorem resolved_of_resolve {scope : Scope} {source : String} {r : Reading}
    {blocks : List (Option ForRange)} {path : List Char} {ref : ParamRef}
    (hb : r.blocks = blockVars blocks) (h : resolve scope source r path = .ok ref) :
    ParamRefResolved scope (loopsOf blocks) ref ∧ ref.path = .ofList path := by
  obtain ⟨root, fields, origin, type, last, hs, hroot, ht, hl, rfl⟩ := found_of_resolve h
  obtain ⟨hr, hf⟩ := root_eq_of_splitOn hs origin last
  have hrt := rootType_of_rootType? hb hroot ht
  refine ⟨⟨?_, type, ?_, ?_⟩, rfl⟩
  · rw [hr]
    exact hrt.source_eq_loop_iff
  · rw [hr]
    exact hrt
  · rw [hf]
    exact fieldPath_of_fieldsType hl

/-! ## Reading and scopes go together -/

/-- The blocks of a reading are those of its sections, and all its sections are resolved. -/
structure Reading.InStep (scope : Scope) (r : Reading) : Prop where
  blocks : r.blocks = blockVars (blocksAfter [] r.reversed.reverse)
  resolved : List.Forall₂ (SectionResolved scope) (scopesOf [] r.reversed.reverse)
    r.reversed.reverse

namespace Reading.InStep

variable {scope : Scope} {r : Reading}

theorem start : InStep scope {} := ⟨rfl, .nil⟩

/-- A resolved section keeps the reading in step when the blocks move with it. -/
theorem add (h : InStep scope r) {s : Section} {next : Reading}
    (hr : next.reversed = s :: r.reversed)
    (hb : next.blocks = blockVars (s.blocks (blocksAfter [] r.reversed.reverse)))
    (hs : SectionResolved scope (loopsOf (blocksAfter [] r.reversed.reverse)) s) :
    InStep scope next := by
  refine ⟨?_, ?_⟩
  · rw [hb, hr]
    simp [blocksAfter]
  · rw [hr, List.reverse_cons, scopesOf_append]
    exact List.rel_append h.resolved (.cons hs .nil)

theorem flush (h : InStep scope r) (keepBlank : Bool) : InStep scope (r.flush keepBlank) := by
  rcases reversed_flush r keepBlank with hr | ⟨text, hr⟩
  · exact ⟨by rw [blocks_flush, hr, h.blocks], by rw [hr]; exact h.resolved⟩
  · exact h.add hr (by rw [blocks_flush, h.blocks]; rfl) trivial

theorem isRead (h : InStep scope r) {source : String} {p : Piece} {next : Reading}
    (hn : p.IsRead scope source r next) : InStep scope next := by
  cases hn with
  | text buffer => exact ⟨h.blocks, h.resolved⟩
  | data hp hr =>
    have hf := h.flush true
    exact hf.add rfl hf.blocks (resolved_of_resolve hf.blocks hr).1
  | quoted hp hr hs =>
    have hf := h.flush true
    exact hf.add rfl hf.blocks (resolved_of_resolve hf.blocks hr).1
  | branch cond | join kind =>
    have hf := h.flush false
    exact hf.add rfl (congrArg (List.cons none) hf.blocks) trivial
  | otherwise cond =>
    have hf := h.flush false
    exact hf.add rfl hf.blocks trivial
  | close =>
    have hf := h.flush false
    exact hf.add rfl ((congrArg List.tail hf.blocks).trans List.map_tail.symm) trivial
  | @loop body index value range found hc hr =>
    have hf := h.flush false
    obtain ⟨hres, hpath⟩ := resolved_of_resolve hf.blocks hr
    exact hf.add rfl (congrArg (List.cons _) hf.blocks) ⟨found, hres, hpath, rfl⟩

end Reading.InStep

/-- Every section of a template means what the scopes of its sections say. -/
theorem resolved_of_tokenize {template : String} {scope : Scope} {receiver : Option String}
    {sections : List Section} (h : tokenize template scope receiver = .ok sections) :
    List.Forall₂ (SectionResolved scope) (scopesOf [] sections) sections := by
  obtain ⟨r, hr, rfl⟩ := tokenize_induction (P := Reading.InStep scope) .start
    (fun r p next _ hr hn => hr.isRead hn) h
  exact (hr.flush false).resolved

/-- The blocks that are open while a template is read are the loops of its clause tree: every
reference and every range means what the loops around it in the tree say. -/
theorem resolved_in_tree {template source : String} {scope : Scope} {receiver : Option String}
    {sections : List Section} {tree : List Clause}
    (ht : tokenize template scope receiver = .ok sections)
    (hb : buildClauses sections source = .ok tree) :
    Clause.flattenAll tree = sections.map Section.bare ∧
      List.Forall₂ (SectionResolved scope) (Clause.scopesAll [] tree) sections := by
  refine ⟨flattenAll_of_buildClauses hb, ?_⟩
  rw [← scopesOf_of_buildClauses hb]
  exact resolved_of_tokenize ht

/-- A loop variable hides a parameter of its name, inside the loop only. -/
theorem resolved_in_tree_hidden :
    ∃ sections tree,
      tokenize "@v{{for i, v := range xs}}@v{{end}}"
        ⟨[⟨"xs", .slice (.simple "string"), false⟩, ⟨"v", .simple "int", false⟩], "t", .empty⟩ =
          .ok sections ∧
      buildClauses sections "" = .ok tree ∧
      Clause.scopesAll [] tree =
        [[], [], [⟨"i", "v", "xs", .slice (.simple "string")⟩],
          [⟨"i", "v", "xs", .slice (.simple "string")⟩]] ∧
      List.Forall₂ (SectionResolved
        ⟨[⟨"xs", .slice (.simple "string"), false⟩, ⟨"v", .simple "int", false⟩], "t", .empty⟩)
        (Clause.scopesAll [] tree) sections := by
  refine ⟨[.data ⟨"v", .method, .simple "int"⟩,
      .loop ⟨"i", "v", "xs", .slice (.simple "string")⟩,
      .data ⟨"v", .loop, .simple "string"⟩, .close],
    [.sql "generateSQL" [.bind ⟨"v", ⟨"v", none⟩⟩],
      .loop 0 "generateSQL" ⟨"i", "v", "xs", .slice (.simple "string")⟩ (.declared "i")
        [.sql "generateSQL" [.bind ⟨"v", ⟨"v", some ⟨0, ["i"]⟩⟩⟩]]],
    ?tokens, ?tree, rfl, (resolved_in_tree ?tokens ?tree).2⟩
  case tokens =>
    rw [tokenize_ofList]
    decide +kernel
  case tree => rfl

end Template

end QueryGen
