import QueryGen.Proofs.Statement.Hygiene
import QueryGen.Proofs.Template.TableNames

/-!
# Clause trees without their texts

What a clause tree is but for its literal texts, and that building it, counting what it binds and
finding the packages of its statements look at nothing else.

- `Clause.textless`: a clause without its literal texts. Building a tree commutes with dropping
  them (`Assembly.step_outline`, `buildClauses_outline`).
- `Compiled.AlikeFor`, `compile_table`: a template is compiled for two tables to the same tree, but
  for the names in its texts.
-/

namespace QueryGen

open Template (IsTableName Options literalText literals pieces)

/-! ## Trees without texts -/

def Fragment.textless : Fragment → Fragment
  | text _ => text ""
  | f => f

mutual

/-- The clause without its literal texts. -/
def Clause.textless : Clause → Clause
  | .sql builder fragments => .sql builder (fragments.map Fragment.textless)
  | .branch builder cond body otherwise =>
    .branch builder cond (Clause.textlessAll body) (Branch.textlessAll otherwise)
  | .join kind builder target body => .join kind builder target (Clause.textlessAll body)
  | .loop id builder range index body => .loop id builder range index (Clause.textlessAll body)

/-- Clauses without their literal texts. -/
def Clause.textlessAll : List Clause → List Clause
  | [] => []
  | c :: rest => c.textless :: Clause.textlessAll rest

/-- Branches without their literal texts. -/
def Branch.textlessAll : List Branch → List Branch
  | [] => []
  | .mk cond body :: rest => .mk cond (Clause.textlessAll body) :: Branch.textlessAll rest

end

def Branch.textless (b : Branch) : Branch := .mk b.cond (Clause.textlessAll b.body)

theorem Clause.textlessAll_eq_map (cs : List Clause) :
    Clause.textlessAll cs = cs.map Clause.textless := by
  induction cs with
  | nil => rfl
  | cons c rest ih => rw [Clause.textlessAll, ih, List.map_cons]

theorem Branch.textlessAll_eq_map (bs : List Branch) :
    Branch.textlessAll bs = bs.map Branch.textless := by
  induction bs with
  | nil => rfl
  | cons b rest ih =>
    obtain ⟨cond, body⟩ := b
    rw [Branch.textlessAll, ih, List.map_cons]
    rfl

/-! ## Building without texts -/

def Opener.textless : Opener → Opener
  | otherwise cond body closed guard =>
    otherwise cond (Clause.textlessAll body) (Branch.textlessAll closed) guard
  | opener => opener

def Level.textless (l : Level) : Level := ⟨l.opener.textless, Clause.textlessAll l.before⟩

theorem Opener.clause_textless (builder : String) (body : List Clause) (opener : Opener) :
    opener.textless.clause builder (Clause.textlessAll body) =
      (opener.clause builder body).textless := by
  cases opener with
  | otherwise cond first closed guard =>
    simp only [clause, textless, Clause.textless, Branch.textlessAll_eq_map, List.reverse_cons,
      List.map_append, List.map_reverse]
    rfl
  | branch cond | join kind own | loop id range index =>
    simp [clause, textless, Clause.textless, Branch.textlessAll]

theorem Opener.builder?_textless (opener : Opener) :
    opener.textless.builder? = opener.builder? := by
  cases opener <;> rfl

theorem Opener.isNarrow_textless (opener : Opener) :
    opener.textless.isNarrow = opener.isNarrow := by
  cases opener <;> rfl

theorem Opener.kind_textless (opener : Opener) : opener.textless.kind = opener.kind := by
  cases opener <;> rfl

theorem builderOf_textless (levels : List Level) :
    builderOf (levels.map Level.textless) = builderOf levels := by
  unfold builderOf
  rw [List.findSome?_map]
  exact congrArg (fun own => (levels.findSome? own).getD Reserved.sqlBuilder)
    (funext fun l => l.opener.builder?_textless)

theorem any_isNarrow_textless (levels : List Level) :
    (levels.map Level.textless).any (·.opener.isNarrow) = levels.any (·.opener.isNarrow) := by
  rw [List.any_map]
  exact congrArg (List.any levels) (funext fun l => l.opener.isNarrow_textless)

theorem kindOf_textless (levels : List Level) :
    kindOf (levels.map Level.textless) = kindOf levels := by
  cases levels with
  | nil => rfl
  | cons l rest => exact l.opener.kind_textless

namespace Assembly

def textless (a : Assembly) : Assembly where
  numbering := a.numbering
  levels := a.levels.map Level.textless
  reversed := Clause.textlessAll a.reversed

theorem addFragment_textless (a : Assembly) (f : Fragment) :
    a.textless.addFragment f.textless = (a.addFragment f).textless := by
  obtain ⟨numbering, levels, reversed⟩ := a
  cases reversed with
  | nil =>
    simp [addFragment, textless, Clause.textlessAll, Clause.textless, builderOf_textless]
  | cons c rest =>
    cases c with
    | sql builder fragments =>
      simp [addFragment, textless, Clause.textlessAll, Clause.textless]
    | branch builder cond body otherwise | join kind builder target body
    | loop id builder range index body =>
      simp [addFragment, textless, Clause.textlessAll, Clause.textless, builderOf_textless]

theorem pop_textless (a : Assembly) (level : Level) (levels : List Level) :
    a.textless.pop level.textless (levels.map Level.textless) = (a.pop level levels).textless := by
  have hclause : level.opener.textless.clause (builderOf levels)
      (Clause.textlessAll a.reversed).reverse =
        (level.opener.clause (builderOf levels) a.reversed.reverse).textless := by
    rw [← Opener.clause_textless, Clause.textlessAll_eq_map, Clause.textlessAll_eq_map,
      List.map_reverse]
  unfold pop
  simp only [textless, Level.textless, builderOf_textless, hclause]
  cases level.opener <;> rfl

theorem nextBranch_textless (source : String) (a : Assembly) (guard : Option String) :
    a.textless.nextBranch source guard = (a.nextBranch source guard).map textless := by
  obtain ⟨numbering, levels, reversed⟩ := a
  cases levels with
  | nil => rfl
  | cons level levels =>
    obtain ⟨opener, before⟩ := level
    have hreverse : (Clause.textlessAll reversed).reverse =
        Clause.textlessAll reversed.reverse := by
      rw [Clause.textlessAll_eq_map, Clause.textlessAll_eq_map, List.map_reverse]
    cases opener with
    | branch cond =>
      simp [nextBranch, textless, Level.textless, Opener.textless, hreverse, Except.map,
        Clause.textlessAll, Branch.textlessAll]
    | otherwise cond first closed current =>
      cases current with
      | none => rfl
      | some current =>
        simp [nextBranch, textless, Level.textless, Opener.textless, hreverse, Except.map,
          Clause.textlessAll, Branch.textlessAll]
    | join kind builder | loop id range index => rfl

/-- A section is read the same way without the texts. -/
theorem step_outline (source : String) (a : Assembly) (s : Section) :
    a.textless.step source s.outline = (a.step source s).map textless := by
  cases s with
  | literal text => exact congrArg Except.ok (a.addFragment_textless (.text text))
  | data ref => exact congrArg Except.ok (a.addFragment_textless (.bind _))
  | quoted ref => exact congrArg Except.ok (a.addFragment_textless (.quote ref.path))
  | branch cond => rfl
  | otherwise guard => exact a.nextBranch_textless source guard
  | loop range => rfl
  | join kind =>
    change (if (a.levels.map Level.textless).any (·.opener.isNarrow) then _ else _) = _
    rw [any_isNarrow_textless, textless, kindOf_textless, step]
    split <;> rfl
  | close =>
    obtain ⟨numbering, levels, reversed⟩ := a
    cases levels with
    | nil => rfl
    | cons level levels =>
      exact congrArg Except.ok (pop_textless ⟨numbering, _, reversed⟩ level levels)

theorem run_outline (source : String) (a : Assembly) (sections : List Section) :
    (a.textless.run source (sections.map Section.outline)).1 =
      (a.run source sections).1.map Clause.textlessAll := by
  induction sections generalizing a with
  | nil =>
    obtain ⟨numbering, levels, reversed⟩ := a
    cases levels with
    | nil =>
      refine congrArg Except.ok ?_
      rw [textless, Clause.textlessAll_eq_map, Clause.textlessAll_eq_map, List.map_reverse]
    | cons level levels =>
      exact congrArg (fun kind => Except.error (TemplateError.notEnd kind source))
        level.opener.kind_textless
  | cons s rest ih =>
    rw [List.map_cons, run, step_outline, run]
    cases a.step source s with
    | error e => rfl
    | ok next => exact ih next

end Assembly

/-- A tree is built the same way without the texts. -/
theorem buildClauses_outline (sections : List Section) (source : String) :
    buildClauses (sections.map Section.outline) source =
      (buildClauses sections source).map Clause.textlessAll :=
  Assembly.run_outline (trimmed source) ⟨{}, [], []⟩ sections

/-! ## What a tree binds, and its texts -/

theorem bindingsOf_textless (fragments : List Fragment) :
    bindingsOf (fragments.map Fragment.textless) = bindingsOf fragments := by
  rw [bindingsOf, List.filterMap_map]
  exact List.filterMap_congr fun f _ => by cases f <;> rfl

mutual

theorem Clause.bindings_textless (c : Clause) : c.textless.bindings = c.bindings := by
  match c with
  | .sql builder fragments => exact bindingsOf_textless fragments
  | .branch builder cond body otherwise =>
    rw [Clause.textless, Clause.bindings, Clause.bindings, Clause.bindingsAll_textless body,
      Branch.bindingsAll_textless otherwise]
  | .join _ _ _ body | .loop _ _ _ _ body => exact Clause.bindingsAll_textless body

/-- Texts bind nothing. -/
theorem Clause.bindingsAll_textless (cs : List Clause) :
    Clause.bindingsAll (Clause.textlessAll cs) = Clause.bindingsAll cs := by
  match cs with
  | [] => rfl
  | c :: rest =>
    rw [Clause.textlessAll, Clause.bindingsAll, Clause.bindingsAll, Clause.bindings_textless c,
      Clause.bindingsAll_textless rest]

theorem Branch.bindingsAll_textless (bs : List Branch) :
    Branch.bindingsAll (Branch.textlessAll bs) = Branch.bindingsAll bs := by
  match bs with
  | [] => rfl
  | .mk cond body :: rest =>
    rw [Branch.textlessAll, Branch.bindingsAll, Branch.bindingsAll, Branch.bindings,
      Branch.bindings, Clause.bindingsAll_textless body, Branch.bindingsAll_textless rest]

end

/-! ## Compiled templates -/

/-- Two compiled forms of a template, for two tables: the trees are the same but for their texts,
and the texts are those of the template with the name of the one table or of the other. -/
structure Compiled.AlikeFor (template table other : String) (c c' : Compiled) : Prop where
  shape : Clause.textlessAll c.clauses = Clause.textlessAll c'.clauses
  texts : Clause.textsAll c.clauses =
    (literals [] (pieces template.toList)).map (literalText table)
  others : Clause.textsAll c'.clauses =
    (literals [] (pieces template.toList)).map (literalText other)
  bindCount : c.bindCount = c'.bindCount
  imports : c.imports = c'.imports

/-- The name of the table does not influence how a template is understood: it fails for two tables
with the same error, or it is compiled to trees of the same shape, whose texts have the one name
where the others have the other. -/
theorem compile_table {table other : String} (ht : IsTableName table) (ho : IsTableName other)
    (template : String) (params : List Param) (structs : StructRegistry) (opts : Options) :
    Agree (Compiled.AlikeFor template table other) (compile template ⟨params, table, structs⟩ opts)
      (compile template ⟨params, other, structs⟩ opts) := by
  unfold compile
  split
  · exact .error _
  · refine (Template.agree_tokenize template ht ho).bind ?_
    rintro sections sections' ⟨houtline, htexts, hothers⟩
    have hbuild : (buildClauses sections template).map Clause.textlessAll =
        (buildClauses sections' template).map Clause.textlessAll := by
      rw [← buildClauses_outline, houtline, buildClauses_outline]
    refine (Agree.of_map_eq hbuild).bind ?_
    rintro tree tree' ⟨htree, htree', hshape⟩
    have hbindings : Clause.bindingsAll tree = Clause.bindingsAll tree' := by
      rw [← Clause.bindingsAll_textless tree, hshape, Clause.bindingsAll_textless]
    refine .ok {
      shape := hshape
      texts := (texts_of_buildClauses htree).symm.trans htexts
      others := (texts_of_buildClauses htree').symm.trans hothers
      bindCount := congrArg List.length hbindings
      imports := ?imports }
    have hformat : (render opts tree).needsFormat = (render opts tree').needsFormat := by
      rw [Bool.eq_iff_iff, needsFormat_render, needsFormat_render, hbindings]
    unfold Compiled.imports
    rw [hformat]

namespace OddName

def template : String := "select * from @@table where id = @id"

/-- A name with signs that a template gives a meaning to. -/
def name : String := "\x7b\x7b '@x"

def params : List Param := [⟨"id", .simple "int", false⟩]

/-- The name is put in as it is. -/
theorem compile_odd :
    IsTableName "users" ∧ IsTableName name ∧
      Agree (Compiled.AlikeFor template "users" name)
        (compile template ⟨params, "users", .empty⟩ ⟨.named, "u"⟩)
        (compile template ⟨params, name, .empty⟩ ⟨.named, "u"⟩) ∧
      compile template ⟨params, name, .empty⟩ ⟨.named, "u"⟩ =
        .ok (render ⟨.named, "u"⟩ [.sql "generateSQL"
          [.text "select * from \x7b\x7b '@x where id = ", .bind ⟨"id", ⟨"id", none⟩⟩]]) := by
  have ht : IsTableName "users" :=
    ⟨by decide, fun c hc => by cases hc; decide, fun c hc => by cases hc; decide⟩
  have ho : IsTableName name :=
    ⟨by decide, fun c hc => by cases hc; decide, fun c hc => by cases hc; decide⟩
  refine ⟨ht, ho, compile_table ht ho _ _ _ _, ?_⟩
  refine compile_ofList [.literal "select * from \x7b\x7b '@x where id = ",
    .data ⟨"id", .method, .simple "int"⟩] rfl ?tokens ?tree
  case tokens => decide +kernel
  case tree => rfl

end OddName

end QueryGen
