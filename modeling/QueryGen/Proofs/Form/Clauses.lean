import QueryGen.Form.Clause
import QueryGen.Proofs.Form.Types

/-!
# Clause trees as JSON and back

Clauses nest in two ways: bodies hold lists of clauses, and each branch holds the next one. Reading
goes at most so many levels down; `read_eq_of_depth_le` lifts that limit from both at once.

- `Clause.read_toJson`, `Branch.orNull_chain`: what was written is read back, at any number of
  levels that is large enough.
- `Clause.tolerates_ofJson?`, `Branch.tolerates_readChain`: a missing `otherwise` or `cond` and
  unknown fields make no difference.
- `forms_lossless`: types, sections and clauses all together.
-/

namespace QueryGen

open Json (str)

/-! ## Keys and fragments -/

@[simp] theorem LoopKey.ofJson?_toJson (k : LoopKey) : ofJson? k.toJson = some k := by
  simp [ofJson?, toJson, Tree.fields?_written]

theorem LoopKey.tolerates_ofJson? : Json.Tolerates ["for_id", "indices"] [] ofJson? where
  unknown name hname before after t := by simp only [ofJson?, Tree.fields?_unknown hname]
  missing := by simp

@[simp] theorem BindKey.ofJson?_toJson (k : BindKey) : ofJson? k.toJson = some k := by
  simp [ofJson?, toJson, Tree.fields?_written,
    Json.orNull_ofOption (fun _ : LoopKey => rfl) LoopKey.ofJson?_toJson]

/-- A key outside of loops need not say so. -/
theorem BindKey.mayMiss_ofJson? : Json.MayMiss "scope" Json.null ofJson? := by
  intro before after hfresh
  have hknown : "scope" ∈ ["name", "scope"] := by simp
  rcases Tree.fields?_fresh Json.null hknown hfresh with ⟨hf, hg⟩ | ⟨f, g, hf, hg, hd⟩
  · simp [ofJson?, hf, hg]
  · simp [ofJson?, hf, hg, hd.required_eq, hd.optional_eq rfl]

theorem BindKey.tolerates_ofJson? :
    Json.Tolerates ["name", "scope"] [("scope", Json.null)] ofJson? where
  unknown name hname before after t := by simp only [ofJson?, Tree.fields?_unknown hname]
  missing := by simpa using mayMiss_ofJson?

@[simp] theorem Binding.ofJson?_toJson (b : Binding) : ofJson? b.toJson = some b := by
  simp [ofJson?, toJson, Tree.fields?_written]

theorem Binding.tolerates_ofJson? : Json.Tolerates ["expr", "key"] [] ofJson? where
  unknown name hname before after t := by simp only [ofJson?, Tree.fields?_unknown hname]
  missing := by simp

@[simp] theorem Fragment.ofJson?_toJson (f : Fragment) : ofJson? f.toJson = some f := by
  cases f <;> simp [ofJson?, toJson, Json.adjacent?_written]

theorem Fragment.tolerates_ofJson? : Json.Tolerates ["kind", "value"] [] ofJson? where
  unknown name hname before after t := by
    simp only [ofJson?, Json.adjacent?, Tree.fields?_unknown hname]
  missing := by simp

@[simp] theorem LoopIndex.ofJson?_toJson (i : LoopIndex) : ofJson? i.toJson = some i := by
  cases i <;> simp [ofJson?, toJson, Json.adjacent?_written]

theorem LoopIndex.tolerates_ofJson? : Json.Tolerates ["kind", "name"] [] ofJson? where
  unknown name hname before after t := by
    simp only [ofJson?, Json.adjacent?, Tree.fields?_unknown hname]
  missing := by simp

/-! ## Clauses -/

theorem read_eq_of_depth_le {n m : Nat} {t : Json} (hn : t.depth ≤ n) (hm : t.depth ≤ m) :
    (∀ nested, Clause.read n nested t = Clause.read m nested t) ∧
      Branch.readChain n t = Branch.readChain m t := by
  induction n generalizing m t with
  | zero => exact absurd hn (Nat.not_le.2 t.depth_pos)
  | succ n ih =>
    obtain _ | m := m
    · exact absurd hm (Nat.not_le.2 t.depth_pos)
    have hbody : ∀ {u : Json} {names f}, u.depth ≤ t.depth → u.fields? names = some f → ∀ name,
        f.required name (Tree.listOf (Clause.read n true)) =
          f.required name (Tree.listOf (Clause.read m true)) := by
      intro u names f hu hf name
      refine Fields.required_congr (Tree.within_of_fields? (n := t.depth - 1) hf (by omega))
        (fun v hv => Tree.listOf_congr hv fun w hw => (ih ?_ ?_).1 true) name
      · omega
      · omega
    have hrest : ∀ {u : Json} {names f}, u.depth ≤ t.depth → u.fields? names = some f → ∀ name,
        f.optional name (Branch.readChain n) = f.optional name (Branch.readChain m) := by
      intro u names f hu hf name
      refine Fields.optional_congr (Tree.within_of_fields? (n := t.depth - 1) hf (by omega))
        (fun v hv => (ih ?_ ?_).2) name
      · omega
      · omega
    constructor
    · intro nested
      simp only [Clause.read]
      refine Option.bind_congr fun ⟨kind, u⟩ hu => ?_
      have hdepth := Json.depth_of_tagged? hu
      simp only
      split
      · rfl
      · refine Option.bind_congr fun f hf => ?_
        rw [hbody hdepth hf, hrest hdepth hf]
      · refine Option.bind_congr fun f hf => ?_
        rw [hbody hdepth hf]
      · refine Option.bind_congr fun f hf => ?_
        rw [hbody hdepth hf]
      · refine Option.bind_congr fun f hf => ?_
        rw [hbody hdepth hf]
      · rfl
    · simp only [Branch.readChain]
      refine Option.bind_congr fun f hf => ?_
      rw [hbody (Nat.le_refl _) hf, hrest (Nat.le_refl _) hf]

theorem Clause.read_of_depth_le {n : Nat} {nested : Bool} {t : Json} (h : t.depth ≤ n) :
    Clause.read n nested t = Clause.read t.depth nested t :=
  (read_eq_of_depth_le h (Nat.le_refl _)).1 nested

mutual

theorem Clause.read_toJson (c : Clause) {n : Nat} (nested : Bool) (h : c.toJson.depth ≤ n) :
    Clause.read n nested c.toJson = some c := by
  rw [Clause.read_of_depth_le h]
  match c with
  | .sql builder fragments =>
    rw [Clause.toJson, Tree.depth, Clause.read, Json.tagged?_written (by simp)]
    simp [Tree.fields?_written, Json.listOf_array]
  | .branch builder cond body otherwise =>
    rw [Clause.toJson, Tree.depth, Clause.read, Json.tagged?_written (by simp)]
    simp [Tree.fields?_written,
      Clause.mapM_toJsonAll body (Tree.depthAll_le_depthFields "body" _),
      Branch.orNull_chain otherwise (Tree.depth_le_depthFields "otherwise" _)]
    cases otherwise <;> simp
  | .join kind builder target body =>
    rw [Clause.toJson, Tree.depth, Clause.read, Json.tagged?_written (by simp)]
    cases kind <;>
      simp [JoinKind.keyword, Clause.readJoin, Tree.fields?_written,
        Clause.mapM_toJsonAll body (Tree.depthAll_le_depthFields "body" _)]
  | .loop id builder range index body =>
    rw [Clause.toJson, Tree.depth, Clause.read, Json.tagged?_written (by simp)]
    simp [Tree.fields?_written,
      Clause.mapM_toJsonAll body (Tree.depthAll_le_depthFields "body" _)]

theorem Clause.mapM_toJsonAll (cs : List Clause) {n : Nat}
    (h : Tree.depthAll (Clause.toJsonAll cs) ≤ n) :
    (Clause.toJsonAll cs).mapM (Clause.read n true) = some cs := by
  match cs with
  | [] => rfl
  | c :: rest =>
    rw [Clause.toJsonAll, Tree.depthAll] at h
    rw [Clause.toJsonAll, List.mapM_cons, Clause.read_toJson c true (Nat.max_le.1 h).1,
      Clause.mapM_toJsonAll rest (Nat.max_le.1 h).2]
    rfl

theorem Branch.orNull_chain (bs : List Branch) {n : Nat} (h : (Branch.chain bs).depth ≤ n) :
    (Branch.chain bs).orNull (Branch.readChain n) = some (if bs = [] then none else some bs) := by
  match bs with
  | [] => rfl
  | .mk cond body :: rest =>
    rw [Tree.orNull, (read_eq_of_depth_le h (Nat.le_refl _)).2, Branch.chain, Branch.toJson,
      Tree.depth, Branch.readChain]
    simp [Tree.fields?_written,
      Clause.mapM_toJsonAll body (Tree.depthAll_le_depthFields "body" _),
      Branch.orNull_chain rest (Tree.depth_le_depthFields "otherwise" _)]
    cases rest <;> simp

end

theorem Clause.lossless : Json.Lossless Clause.ofJson? Clause.toJson :=
  .of_read_form fun c => Clause.read_toJson c false (Nat.le_refl _)

/-! ## Fields that make no difference -/

/-- The fields that some form of clauses knows. -/
def Clause.fieldNames : List String :=
  ["type", "builder", "fragments", "cond", "body", "otherwise", "target", "id", "range",
    "key_index"]

theorem Clause.dropsUnknown_read (n : Nat) (nested : Bool) :
    Json.DropsUnknown Clause.fieldNames (Clause.read n nested) := by
  intro name hname before after t
  simp only [Clause.fieldNames, List.mem_cons, List.not_mem_nil, or_false, not_or] at hname
  obtain _ | n := n
  · rfl
  obtain ⟨b, a, -, hwith, hwithout⟩ :=
    Json.tagged?_beside nested Clause.forms hname.1 before after t
  rw [Clause.read, Clause.read, hwith, hwithout]
  cases Json.tagForm? nested Clause.forms "type" (before ++ after) with
  | none => rfl
  | some kind =>
    simp only [Option.map_some, Option.bind_eq_bind, Option.bind_some]
    split <;> simp [Clause.readJoin, Tree.fields?_unknown, hname]

/-- A block without an `else` need not say so. -/
theorem Clause.mayMiss_read (n : Nat) (nested : Bool) :
    Json.MayMiss "otherwise" Json.null (Clause.read n nested) := by
  intro before after hfresh
  obtain _ | n := n
  · rfl
  have hbeside : "otherwise" ≠ "type" := by simp
  obtain ⟨b, a, hsub, hwith, hwithout⟩ :=
    Json.tagged?_beside nested Clause.forms hbeside before after Json.null
  rw [Clause.read, Clause.read, hwith, hwithout]
  cases Json.tagForm? nested Clause.forms "type" (before ++ after) with
  | none => rfl
  | some kind =>
    simp only [Option.map_some, Option.bind_eq_bind, Option.bind_some]
    have hfresh' : "otherwise" ∉ (b ++ a).map Prod.fst := fun h =>
      hfresh (List.map_subset _ hsub h)
    have hknown : "otherwise" ∈ ["builder", "cond", "body", "otherwise"] := by simp
    split
    case h_2 =>
      rcases Tree.fields?_fresh Json.null hknown hfresh' with ⟨hf, hg⟩ | ⟨f, g, hf, hg, hd⟩
      · rw [hf, hg]
      · simp [hf, hg, hd.optional_eq rfl, hd.required_eq]
    all_goals simp [Clause.readJoin, Tree.fields?_unknown]

theorem Clause.tolerates_read (n : Nat) (nested : Bool) :
    Json.Tolerates Clause.fieldNames [("otherwise", Json.null)] (Clause.read n nested) :=
  ⟨Clause.dropsUnknown_read n nested, by simpa using Clause.mayMiss_read n nested⟩

theorem Clause.tolerates_ofJson? :
    Json.Tolerates Clause.fieldNames [("otherwise", Json.null)] Clause.ofJson? :=
  .of_levels (fun _ _ h => Clause.read_of_depth_le h) fun n => Clause.tolerates_read n false

theorem Branch.mayMiss_readChain {name : String} (n : Nat)
    (h : name = "cond" ∨ name = "otherwise") :
    Json.MayMiss name Json.null (Branch.readChain n) := by
  intro before after hfresh
  obtain _ | n := n
  · rfl
  have hknown : name ∈ ["cond", "body", "otherwise"] := by rcases h with rfl | rfl <;> simp
  rcases Tree.fields?_fresh Json.null hknown hfresh with ⟨hf, hg⟩ | ⟨f, g, hf, hg, hd⟩
  · simp only [Branch.readChain, hf, hg]
  · have hbody : "body" ≠ name := by rcases h with rfl | rfl <;> simp
    simp [Branch.readChain, hf, hg, hd.optional_eq rfl, hd.required_eq hbody]

theorem Branch.tolerates_readChain (n : Nat) :
    Json.Tolerates ["cond", "body", "otherwise"] [("cond", Json.null), ("otherwise", Json.null)]
      (Branch.readChain n) where
  unknown name hname before after t := by
    cases n <;> simp only [Branch.readChain, Tree.fields?_unknown hname]
  missing := by
    simpa using ⟨Branch.mayMiss_readChain n (.inl rfl), Branch.mayMiss_readChain n (.inr rfl)⟩

/-! ## All forms -/

/-- Types, lists of sections and clause trees are read back from what was written for them, and what
is read and written once stays as it is. Besides null for a missing field, a missing `range_ty` and
fields of other names there is nothing to settle. -/
theorem forms_lossless :
    (∀ nested, Json.Lossless (GoType.ofNested? nested) GoType.toJson) ∧
    Json.Lossless (Tree.listOf Section.ofJson?) (Json.array Section.toJson) ∧
    Json.Lossless Clause.ofJson? Clause.toJson ∧
    Json.Lossless (Tree.listOf Clause.ofJson?) (Json.array Clause.toJson) ∧
    (∀ nested, Json.Tolerates GoType.fieldNames [("package", Json.null)]
      (GoType.ofNested? nested)) ∧
    Json.Tolerates ["path", "source", "ty"] [] ParamRef.ofJson? ∧
    (∀ nested, Json.Tolerates ["index", "value", "range", "range_ty"]
      [("range_ty", GoType.unknown.toJson)] (ForRange.ofNested? nested)) ∧
    Json.Tolerates ["kind", "value"] [("value", Json.null)] Section.ofJson? ∧
    Json.Tolerates ["for_id", "indices"] [] LoopKey.ofJson? ∧
    Json.Tolerates ["name", "scope"] [("scope", Json.null)] BindKey.ofJson? ∧
    Json.Tolerates ["expr", "key"] [] Binding.ofJson? ∧
    Json.Tolerates ["kind", "value"] [] Fragment.ofJson? ∧
    Json.Tolerates ["kind", "name"] [] LoopIndex.ofJson? ∧
    Json.Tolerates Clause.fieldNames [("otherwise", Json.null)] Clause.ofJson? ∧
    (∀ n nested, Json.Tolerates Clause.fieldNames [("otherwise", Json.null)]
      (Clause.read n nested)) ∧
    ∀ n, Json.Tolerates ["cond", "body", "otherwise"]
      [("cond", Json.null), ("otherwise", Json.null)] (Branch.readChain n) :=
  ⟨fun nested => .of_read_form fun ty => GoType.ofNested?_toJson ty nested,
    (Json.Lossless.of_read_form Section.ofJson?_toJson).listOf,
    Clause.lossless,
    Clause.lossless.listOf,
    GoType.tolerates_ofNested?,
    ParamRef.tolerates_ofJson?,
    ForRange.tolerates_ofNested?,
    Section.tolerates_ofJson?,
    LoopKey.tolerates_ofJson?,
    BindKey.tolerates_ofJson?,
    Binding.tolerates_ofJson?,
    Fragment.tolerates_ofJson?,
    LoopIndex.tolerates_ofJson?,
    Clause.tolerates_ofJson?,
    Clause.tolerates_read,
    Branch.tolerates_readChain⟩

end QueryGen
