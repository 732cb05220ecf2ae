import QueryGen.Go.Source.Statement
import QueryGen.Proofs.Go.Rests

/-!
# Passing over expressions and statements

Expressions, specifications and statements leave rests of what they are read from. Blocks stand in
expressions and expressions in blocks, so the bound of one goes into the induction on the other.

- `exprRests`: expressions do, if the blocks in them do.
- `suffix_of_mem_specsAt`, `suffix_of_mem_typeSpecAt`: specifications do.
- `statementRests`: statements do.
-/

namespace QueryGen.Go

/-! ## Expressions -/

@[grind →]
theorem suffix_of_place_mark? {p : Place} {ts : List Token} {r : Read String}
    (h : p.mark? ts = some r) : r.2 <:+ ts := by
  unfold Place.mark? at h
  grind

@[grind →]
theorem mem_of_mem_distinctEnds {ends : List (List Token)} {ts : List Token}
    (h : ts ∈ distinctEnds ends) : ts ∈ ends := by
  induction ends with
  | nil => simp [distinctEnds] at h
  | cons first ends ih =>
    simp only [distinctEnds, List.foldr_cons] at h ih
    grind

/-- Expressions with the bound `n` leave rests. -/
structure ExprRests (block : Pass) (n : Nat) : Prop where
  expr : ∀ p ts, ∀ rest ∈ exprAt block n p ts, rest <:+ ts
  unary : ∀ p ts, ∀ rest ∈ unaryAt block n p ts, rest <:+ ts
  operand : ∀ p ts, ∀ rest ∈ operandAt block n p ts, rest <:+ ts
  functionLiteral : ∀ p ts, ∀ rest ∈ functionLiteralAt block n p ts, rest <:+ ts
  bracketed : ∀ p ts, ∀ rest ∈ bracketedAt block n p ts, rest <:+ ts
  name : ∀ p ts, ∀ rest ∈ nameAt block n p ts, rest <:+ ts
  typed : ∀ p ts, ∀ rest ∈ typedAt block n p ts, rest <:+ ts
  typedEnd : ∀ p literal calls before ts, ∀ rest ∈ typedEndAt block n p literal calls before ts,
    rest <:+ ts
  typeUse : ∀ p calls ts, ∀ rest ∈ typeUseAt block n p calls ts, rest <:+ ts
  conversion : ∀ ts, ∀ rest ∈ conversionAt block n ts, rest <:+ ts
  suffixes : ∀ p ts, ∀ rest ∈ suffixesAt block n p ts, rest <:+ ts
  arguments : ∀ ts, ∀ rest ∈ argumentsAt block n ts, rest <:+ ts
  list : ∀ p ts, ∀ rest ∈ listAt block n p ts, rest <:+ ts
  allocation : ∀ ts, ∀ rest ∈ allocationAt block n ts, rest <:+ ts
  index : ∀ ts, ∀ rest ∈ indexAt block n ts, rest <:+ ts
  bounds : ∀ ts, ∀ rest ∈ boundsAt block n ts, rest <:+ ts
  elements : ∀ ts, ∀ rest ∈ elementsAt block n ts, rest <:+ ts
  elementList : ∀ ts, ∀ rest ∈ elementListAt block n ts, rest <:+ ts
  literalElement : ∀ ts, ∀ rest ∈ literalElementAt block n ts, rest <:+ ts

attribute [grind →] ExprRests.expr ExprRests.unary ExprRests.operand ExprRests.functionLiteral
  ExprRests.bracketed ExprRests.name ExprRests.typed ExprRests.typedEnd ExprRests.typeUse
  ExprRests.conversion ExprRests.suffixes ExprRests.arguments ExprRests.list ExprRests.allocation
  ExprRests.index ExprRests.bounds ExprRests.elements ExprRests.elementList
  ExprRests.literalElement

namespace ExprRests

attribute [grind →] List.exists_of_findSome?_eq_some

variable {block : Pass} {n : Nat} {p : Place} {ts rest : List Token}

/-- Types in expressions hold expressions in turn. -/
theorem types (ih : ExprRests block n) : TypeRests (exprAt block n .brackets) n :=
  typeRests (ih.expr .brackets) n

theorem expr_succ (ih : ExprRests block n) (h : rest ∈ exprAt block (n + 1) p ts) :
    rest <:+ ts := by
  simp only [exprAt] at h
  grind

theorem unary_succ (ih : ExprRests block n) (h : rest ∈ unaryAt block (n + 1) p ts) :
    rest <:+ ts := by
  simp only [unaryAt] at h
  grind

theorem operand_succ (ih : ExprRests block n) (h : rest ∈ operandAt block (n + 1) p ts) :
    rest <:+ ts := by
  cases ts with
  | nil => simp [operandAt] at h
  | cons t more =>
    simp only [operandAt] at h
    grind

theorem functionLiteral_succ (hb : block.Leaves) (ih : ExprRests block n)
    (h : rest ∈ functionLiteralAt block (n + 1) p ts) : rest <:+ ts := by
  have ht := ih.types
  simp only [functionLiteralAt, Pass.Leaves] at h hb
  grind

theorem bracketed_succ (ih : ExprRests block n) (h : rest ∈ bracketedAt block (n + 1) p ts) :
    rest <:+ ts := by
  have ht := ih.types
  simp only [bracketedAt, List.mem_append] at h
  rcases h with h | h
  · grind
  · split at h
    · split at h
      · grind
      · simp at h
    · simp at h

theorem name_succ (ih : ExprRests block n) (h : rest ∈ nameAt block (n + 1) p ts) :
    rest <:+ ts := by
  have ht := ih.types
  cases ts with
  | nil => simp [nameAt] at h
  | cons t more =>
    simp only [nameAt] at h
    grind

theorem typed_succ (ih : ExprRests block n) (h : rest ∈ typedAt block (n + 1) p ts) :
    rest <:+ ts := by
  have ht := ih.types
  simp only [typedAt] at h
  grind

theorem typedEnd_succ (ih : ExprRests block n) {literal calls : Bool} {before : List Token}
    (h : rest ∈ typedEndAt block (n + 1) p literal calls before ts) : rest <:+ ts := by
  simp only [typedEndAt] at h
  grind

theorem typeUse_succ (ih : ExprRests block n) {calls : Bool}
    (h : rest ∈ typeUseAt block (n + 1) p calls ts) : rest <:+ ts := by
  have ht := ih.types
  simp only [typeUseAt] at h
  grind

theorem conversion_succ (ih : ExprRests block n) (h : rest ∈ conversionAt block (n + 1) ts) :
    rest <:+ ts := by
  have hcomma := suffix_getD_mark? ","
  simp only [conversionAt] at h
  grind

theorem suffixes_succ (ih : ExprRests block n) (h : rest ∈ suffixesAt block (n + 1) p ts) :
    rest <:+ ts := by
  have ht := ih.types
  simp only [suffixesAt] at h
  grind

theorem arguments_succ (ih : ExprRests block n) (h : rest ∈ argumentsAt block (n + 1) ts) :
    rest <:+ ts := by
  simp only [argumentsAt] at h
  grind

theorem list_succ (ih : ExprRests block n) (h : rest ∈ listAt block (n + 1) p ts) :
    rest <:+ ts := by
  have hdots := suffix_getD_mark? "..."
  simp only [listAt] at h
  grind

theorem allocation_succ (ih : ExprRests block n) (h : rest ∈ allocationAt block (n + 1) ts) :
    rest <:+ ts := by
  have ht := ih.types
  simp only [allocationAt] at h
  split at h
  · grind
  · split at h
    · simp at h
    · split at h
      · split at h <;> grind
      · grind

theorem index_succ (ih : ExprRests block n) (h : rest ∈ indexAt block (n + 1) ts) :
    rest <:+ ts := by
  simp only [indexAt] at h
  grind

theorem bounds_succ (ih : ExprRests block n) (h : rest ∈ boundsAt block (n + 1) ts) :
    rest <:+ ts := by
  simp only [boundsAt] at h
  grind

theorem elements_succ (ih : ExprRests block n) (h : rest ∈ elementsAt block (n + 1) ts) :
    rest <:+ ts := by
  have hcomma := suffix_getD_mark? ","
  simp only [elementsAt] at h
  grind

theorem elementList_succ (ih : ExprRests block n)
    (h : rest ∈ elementListAt block (n + 1) ts) : rest <:+ ts := by
  simp only [elementListAt] at h
  grind

theorem literalElement_succ (ih : ExprRests block n)
    (h : rest ∈ literalElementAt block (n + 1) ts) : rest <:+ ts := by
  simp only [literalElementAt] at h
  grind

end ExprRests

/-- Expressions leave rests, if the blocks in them do. -/
theorem exprRests {block : Pass} (hb : block.Leaves) (n : Nat) : ExprRests block n := by
  induction n with
  | zero =>
    constructor
    all_goals
      intros
      simp_all [exprAt, unaryAt, operandAt, functionLiteralAt, bracketedAt, nameAt, typedAt,
        typedEndAt, typeUseAt, conversionAt, suffixesAt, argumentsAt, listAt, allocationAt,
        indexAt, boundsAt, elementsAt, elementListAt, literalElementAt]
  | succ n ih =>
    exact {
      expr := fun _ _ _ => ih.expr_succ
      unary := fun _ _ _ => ih.unary_succ
      operand := fun _ _ _ => ih.operand_succ
      functionLiteral := fun _ _ _ => ih.functionLiteral_succ hb
      bracketed := fun _ _ _ => ih.bracketed_succ
      name := fun _ _ _ => ih.name_succ
      typed := fun _ _ _ => ih.typed_succ
      typedEnd := fun _ _ _ _ _ _ => ih.typedEnd_succ
      typeUse := fun _ _ _ _ => ih.typeUse_succ
      conversion := fun _ _ => ih.conversion_succ
      suffixes := fun _ _ _ => ih.suffixes_succ
      arguments := fun _ _ => ih.arguments_succ
      list := fun _ _ _ => ih.list_succ
      allocation := fun _ _ => ih.allocation_succ
      index := fun _ _ => ih.index_succ
      bounds := fun _ _ => ih.bounds_succ
      elements := fun _ _ => ih.elements_succ
      elementList := fun _ _ => ih.elementList_succ
      literalElement := fun _ _ => ih.literalElement_succ }

theorem suffix_of_mem_exprsAt {block : Pass} (hb : block.Leaves) {n : Nat} {p : Place}
    {ts rest : List Token} (h : rest ∈ exprsAt block n p ts) : rest <:+ ts := by
  induction n generalizing ts with
  | zero => simp [exprsAt] at h
  | succ n ih =>
    have hexpr := exprRests hb n
    simp only [exprsAt] at h
    grind

theorem suffix_of_mem_typesAt {value : Pass} (hv : value.Leaves) {n : Nat}
    {ts rest : List Token} (h : rest ∈ typesAt value n ts) : rest <:+ ts := by
  induction n generalizing ts with
  | zero => simp [typesAt] at h
  | succ n ih =>
    have htypes := typeRests hv n
    simp only [typesAt] at h
    grind

/-! ## Specifications -/

theorem suffix_of_mem_specsAt {α : Type} {spec : List Token → List (Read α)}
    (hs : ∀ ts, ∀ r ∈ spec ts, r.2 <:+ ts) {closed : Bool} {n : Nat} {ts : List Token}
    {r : Read (List α)} (h : r ∈ specsAt spec closed n ts) : r.2 <:+ ts := by
  unfold specsAt at h
  split at h
  · next rest hmark =>
    refine (suffix_of_partsFrom (fun _ _ => suffix_of_mark?) (fun ts r hr => ?_)
      (Option.mem_toList.1 h)).trans (suffix_of_mark? hmark)
    unfold groupedAt at hr
    grind
  · grind

theorem suffix_of_typeParamsAt {value : Pass} (hv : value.Leaves) {n : Nat} {ts : List Token}
    {r : Read Unit} (h : typeParamsAt value n ts = some r) : r.2 <:+ ts := by
  induction n generalizing ts with
  | zero => simp [typeParamsAt] at h
  | succ n ih =>
    have htypes := typeRests hv n
    simp only [typeParamsAt, Option.bind_eq_bind, Option.pure_def] at h
    grind

theorem suffix_of_declaredTypeAt {value : Pass} (hv : value.Leaves) {n : Nat} {name : String}
    {ts : List Token} {r : Read TypeSpec} (h : declaredTypeAt value n name ts = some r) :
    r.2 <:+ ts := by
  have htypes := typeRests hv n
  unfold declaredTypeAt at h
  simp only [Option.bind_eq_bind, Option.pure_def] at h
  grind

theorem suffix_of_definitionAt {value : Pass} (hv : value.Leaves) {n : Nat} {name : String}
    {ts : List Token} {r : Read TypeSpec} (h : definitionAt value n name ts = some r) :
    r.2 <:+ ts := by
  have htypes := typeRests hv n
  have hdeclared := @suffix_of_declaredTypeAt value hv
  unfold definitionAt at h
  grind

theorem suffix_of_genericSpecAt {value : Pass} (hv : value.Leaves) {n : Nat} {name : String}
    {ts : List Token} {r : Read TypeSpec × Bool} (h : genericSpecAt value n name ts = some r) :
    r.1.2 <:+ ts := by
  have hparams := @suffix_of_typeParamsAt value hv
  have hdefinition := @suffix_of_definitionAt value hv
  unfold genericSpecAt at h
  simp only [Option.bind_eq_bind, Option.pure_def] at h
  grind

theorem suffix_of_mem_typeSpecAt {value : Pass} (hv : value.Leaves) {n : Nat} {ts : List Token}
    {r : Read TypeSpec} (h : r ∈ typeSpecAt value n ts) : r.2 <:+ ts := by
  have hgeneric := @suffix_of_genericSpecAt value hv
  have hdefinition := @suffix_of_definitionAt value hv
  unfold typeSpecAt at h
  grind

theorem suffix_of_mem_constSpecAt {value values : Pass} (hv : value.Leaves) (hvs : values.Leaves)
    {n : Nat} {ts : List Token} {r : Read Unit} (h : r ∈ constSpecAt value values n ts) :
    r.2 <:+ ts := by
  have htypes := typeRests hv n
  unfold constSpecAt at h
  unfold Pass.Leaves at hvs
  grind

theorem suffix_of_mem_varSpecAt {value values : Pass} (hv : value.Leaves) (hvs : values.Leaves)
    {n : Nat} {ts : List Token} {r : Read Unit} (h : r ∈ varSpecAt value values n ts) :
    r.2 <:+ ts := by
  have htypes := typeRests hv n
  unfold varSpecAt at h
  unfold Pass.Leaves at hvs
  split at h
  · simp at h
  · split at h
    · grind
    · grind

/-! ## Simple statements and heads -/

section Heads

variable {block : Pass} {n : Nat} {left right : Place} {ranges : Bool} {ts rest : List Token}

theorem suffix_of_mem_rightSideAt (hb : block.Leaves) {mark : String} {r : Read SimpleForm}
    (h : r ∈ rightSideAt block n right ranges mark ts) : r.2 <:+ ts := by
  have hexpr := exprRests hb n
  have hexprs := @suffix_of_mem_exprsAt block hb
  unfold rightSideAt at h
  grind

theorem suffix_of_mem_simpleAt (hb : block.Leaves) {r : Read SimpleForm}
    (h : r ∈ simpleAt block n left right ranges ts) : r.2 <:+ ts := by
  have hexpr := exprRests hb n
  have hexprs := @suffix_of_mem_exprsAt block hb
  have hright := @suffix_of_mem_rightSideAt block n right ranges
  unfold simpleAt at h
  obtain ⟨rest, hrest, h⟩ := List.mem_flatMap.1 h
  grind

theorem suffix_of_mem_simpleStatementAt (hb : block.Leaves)
    (h : rest ∈ simpleStatementAt block n ts) : rest <:+ ts := by
  have hsimple := @suffix_of_mem_simpleAt block n .statement .line false
  unfold simpleStatementAt at h
  grind

theorem suffix_of_mem_conditionAt (hb : block.Leaves) (h : rest ∈ conditionAt block n ts) :
    rest <:+ ts := by
  have hexpr := exprRests hb n
  have hsimple := @suffix_of_mem_simpleAt block n .head .brackets false
  unfold conditionAt at h
  grind

theorem suffix_of_mem_loopPartsAt (hb : block.Leaves) (h : rest ∈ loopPartsAt block n ts) :
    rest <:+ ts := by
  have hexpr := exprRests hb n
  obtain ⟨mid, hmid, h⟩ := List.mem_flatMap.1 h
  obtain ⟨first, hfirst, hmark⟩ := List.mem_filterMap.1 hmid
  have hmid : mid <:+ ts := by
    refine (suffix_of_mark? hmark).trans ?_
    split at hfirst
    · exact List.mem_singleton.1 hfirst ▸ List.suffix_rfl
    · exact hexpr.expr _ _ _ hfirst
  split at h
  · exact List.mem_singleton.1 h ▸ hmid
  · obtain ⟨r, hr, rfl⟩ := List.mem_map.1 h
    exact (suffix_of_mem_simpleAt hb hr).trans hmid

theorem suffix_of_mem_loopHeadAt (hb : block.Leaves) (h : rest ∈ loopHeadAt block n ts) :
    rest <:+ ts := by
  have hexpr := exprRests hb n
  have hsimple := @suffix_of_mem_simpleAt block n .head .brackets true
  have hparts := @suffix_of_mem_loopPartsAt block n
  unfold loopHeadAt at h
  grind

theorem suffix_of_mem_switchKindAt {form : SimpleForm} {r : Read SwitchKind}
    (h : r ∈ switchKindAt form ts) : r.2 <:+ ts := by
  unfold switchKindAt typeGuard? at h
  simp only [Option.bind_eq_bind] at h
  grind

theorem suffix_of_mem_switchHeadAt (hb : block.Leaves) {r : Read SwitchKind}
    (h : r ∈ switchHeadAt block n ts) : r.2 <:+ ts := by
  have hsimple := @suffix_of_mem_simpleAt block n
  have hkind := @suffix_of_mem_switchKindAt
  unfold switchHeadAt at h
  grind

theorem suffix_of_mem_communicationAt (hb : block.Leaves)
    (h : rest ∈ communicationAt block n ts) : rest <:+ ts := by
  have hexpr := exprRests hb n
  have hexprs := @suffix_of_mem_exprsAt block hb
  unfold communicationAt at h
  grind

end Heads

/-! ## Statements -/

@[grind →]
theorem suffix_of_label? {ts rest : List Token} (h : label? ts = some rest) : rest <:+ ts := by
  unfold label? at h
  simp only [Option.bind_eq_bind] at h
  grind

@[grind →]
theorem suffix_of_mem_optionalNameAt {ts rest : List Token} (h : rest ∈ optionalNameAt ts) :
    rest <:+ ts := by
  unfold optionalNameAt at h
  grind

/-- Statements with the bound `n` leave rests. -/
structure StatementRests (n : Nat) : Prop where
  block : ∀ ts, ∀ rest ∈ blockAt n ts, rest <:+ ts
  body : ∀ cases places origin, (∀ place ∈ places, place <:+ origin) →
    ∀ rest ∈ bodyAt n cases places, rest <:+ origin
  line : ∀ cases ts, ∀ r ∈ lineAt n cases ts, r.2 <:+ ts
  statement : ∀ ts, ∀ rest ∈ statementAt n ts, rest <:+ ts
  ifs : ∀ ts, ∀ rest ∈ ifAt n ts, rest <:+ ts
  cases : ∀ label : Pass, label.Leaves → ∀ ts, ∀ rest ∈ casesAt label n ts, rest <:+ ts

attribute [grind →] StatementRests.block StatementRests.line StatementRests.statement
  StatementRests.ifs StatementRests.cases

namespace StatementRests

variable {n : Nat} {cases : Bool} {ts rest origin : List Token} {places : List (List Token)}

theorem block_succ (ih : StatementRests n) (h : rest ∈ blockAt (n + 1) ts) : rest <:+ ts := by
  simp only [blockAt] at h
  split at h
  · next inner hmark =>
    obtain ⟨last, hlast, hclose⟩ := List.mem_filterMap.1 h
    have hin := ih.body false [inner] inner (by simp) last hlast
    exact ((suffix_of_mark? hclose).trans hin).trans (suffix_of_mark? hmark)
  · simp at h

theorem body_succ (ih : StatementRests n) (hp : ∀ place ∈ places, place <:+ origin)
    (h : rest ∈ bodyAt (n + 1) cases places) : rest <:+ origin := by
  simp only [bodyAt, Option.mem_toList] at h
  obtain ⟨r, hr, rfl⟩ := Option.map_eq_some_iff.1 h
  refine (partsFrom_induction (P := fun _ => True) (fun ts rest he => ?_)
    (fun ts _ r hr => ⟨fun _ _ => trivial, ih.line cases ts r hr⟩) (fun p hp' => ?_) hr).2
  · unfold bodyEnd? at he
    grind
  · rcases mem_foldl_addProgress hp' with hm | hm
    · obtain ⟨place, hplace, rfl⟩ := List.mem_map.1 hm
      exact ⟨fun x hx => absurd hx List.not_mem_nil, hp place hplace⟩
    · exact absurd hm List.not_mem_nil

theorem line_succ (ih : StatementRests n) {r : Read (List Unit)}
    (h : r ∈ lineAt (n + 1) cases ts) : r.2 <:+ ts := by
  simp only [lineAt] at h
  grind

theorem statement_succ (ih : StatementRests n) (h : rest ∈ statementAt (n + 1) ts) :
    rest <:+ ts := by
  cases ts with
  | nil => simp [statementAt] at h
  | cons t more =>
    have hblock : (blockAt n).Leaves := ih.block
    have hexpr := exprRests hblock n
    have hmore : more <:+ t :: more := List.suffix_cons t more
    have hvalue : (exprAt (blockAt n) n .brackets).Leaves := hexpr.expr .brackets
    have hvalues : (exprsAt (blockAt n) n .line).Leaves :=
      fun _ _ => suffix_of_mem_exprsAt hblock
    simp only [statementAt] at h
    split at h
    case h_1 => grind
    case h_2 => grind
    case h_3 =>
      obtain ⟨r, hr, rfl⟩ := List.mem_map.1 h
      exact (suffix_of_mem_specsAt (fun _ _ => suffix_of_mem_typeSpecAt hvalue) hr).trans hmore
    case h_4 =>
      obtain ⟨r, hr, rfl⟩ := List.mem_map.1 h
      exact (suffix_of_mem_specsAt (fun _ _ => suffix_of_mem_constSpecAt hvalue hvalues) hr).trans
        hmore
    case h_5 =>
      obtain ⟨r, hr, rfl⟩ := List.mem_map.1 h
      exact (suffix_of_mem_specsAt (fun _ _ => suffix_of_mem_varSpecAt hvalue hvalues) hr).trans
        hmore
    case h_6 =>
      unfold Pass.Leaves at hvalues
      grind
    case h_7 => grind
    case h_8 => grind
    case h_9 => grind
    case h_10 => grind
    case h_11 => grind
    case h_12 => grind
    case h_13 => grind
    case h_14 =>
      obtain ⟨head, hhead, h⟩ := List.mem_flatMap.1 (mem_of_mem_distinctEnds h)
      exact ((ih.block _ _ h).trans (suffix_of_mem_loopHeadAt hblock hhead)).trans hmore
    case h_15 =>
      obtain ⟨⟨kind, rest⟩, hhead, h⟩ := List.mem_flatMap.1 (mem_of_mem_distinctEnds h)
      refine List.IsSuffix.trans ?_ ((suffix_of_mem_switchHeadAt hblock hhead).trans hmore)
      split at h
      · next hmark _ =>
        exact (ih.cases _ (fun _ _ => suffix_of_mem_exprsAt hblock) _ _ h).trans
          (suffix_of_mark? hmark)
      · next hmark _ =>
        exact (ih.cases _ (fun _ _ => suffix_of_mem_typesAt hvalue) _ _ h).trans
          (suffix_of_mark? hmark)
      · simp at h
    case h_16 =>
      split at h
      · next hmark =>
        exact ((ih.cases _ (fun _ _ => suffix_of_mem_communicationAt hblock) _ _ h).trans
          (suffix_of_mark? hmark)).trans hmore
      · simp at h
    case h_17 =>
      split at h
      · grind
      · exact suffix_of_mem_simpleStatementAt hblock (mem_of_mem_distinctEnds h)

theorem ifs_succ (ih : StatementRests n) (h : rest ∈ ifAt (n + 1) ts) : rest <:+ ts := by
  have hcondition := @suffix_of_mem_conditionAt (blockAt n) n
  have hblock : (blockAt n).Leaves := ih.block
  simp only [ifAt] at h
  grind

theorem cases_succ (ih : StatementRests n) {label : Pass} (hl : label.Leaves)
    (h : rest ∈ casesAt label (n + 1) ts) : rest <:+ ts := by
  simp only [casesAt] at h
  split at h
  · grind
  · obtain ⟨last, hlast, h⟩ := List.mem_flatMap.1 h
    refine (ih.cases label hl last rest h).trans (ih.body true _ ts (fun place hp => ?_) last hlast)
    obtain ⟨head, hhead, hmark⟩ := List.mem_filterMap.1 hp
    refine (suffix_of_mark? hmark).trans ?_
    split at hhead
    · next hcase => exact (hl _ _ hhead).trans (suffix_of_word? hcase)
    · exact suffix_of_word? (Option.mem_toList.1 hhead)

end StatementRests

/-- Statements leave rests. -/
theorem statementRests (n : Nat) : StatementRests n := by
  induction n with
  | zero =>
    constructor
    all_goals
      intros
      simp_all [blockAt, bodyAt, lineAt, statementAt, ifAt, casesAt]
  | succ n ih =>
    exact {
      block := fun _ _ => ih.block_succ
      body := fun _ _ _ hp _ => ih.body_succ hp
      line := fun _ _ _ => ih.line_succ
      statement := fun _ _ => ih.statement_succ
      ifs := fun _ _ => ih.ifs_succ
      cases := fun _ hl _ _ => ih.cases_succ hl }

end QueryGen.Go
