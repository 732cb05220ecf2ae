import QueryGen.Plan.Files
import QueryGen.Proofs.Template.Words

/-!
# Where the files of a run go

- `Path.place`: where a path leads. Paths of one place name the same file.
- `Path.place_join`: the place of a path inside a directory.
- `Path.exists_parts_append`: a file name with an ending keeps it in its last part.
- `Config.nodup_places_iff`: when all files of a plan have places of their own.
- `Config.nodup_places_of_plain_iff`: the same where no table name has a slash.
-/

namespace QueryGen

namespace Path

/-- Where a path leads, apart from links and parts that lead upwards. -/
def place (path : String) : Bool × List String := (isAbsolute path, parts path)

/-- The parts of a text that lead somewhere. -/
def partsOf (cs : List Char) : List String :=
  ((Text.splitOn '/' cs).filter (!isVoid ·)).map String.ofList

theorem partsOf_append_slash (a b : List Char) :
    partsOf (a ++ '/' :: b) = partsOf a ++ partsOf b := by
  have hslash : ('/' == '/') = true := rfl
  rw [partsOf, Text.splitOn, Text.splitWith_eq_splitOnP,
    List.splitOnP_append_cons (p := (· == '/')) a b hslash, List.filter_append, List.map_append]
  simp only [partsOf, Text.splitOn, Text.splitWith_eq_splitOnP]

theorem partsOf_of_notMem {cs : List Char} (h : '/' ∉ cs) (hv : isVoid cs = false) :
    partsOf cs = [.ofList cs] := by
  have hplain : ∀ c ∈ cs, (c == '/') = false := fun c hc => beq_false_of_ne fun he => h (he ▸ hc)
  simp [partsOf, Text.splitOn, Text.splitWith_eq_splitOnP, List.splitOnP_eq_singleton hplain, hv]

/-- A path inside a directory: the directory is nothing, ends with a slash, or gets one. -/
theorem join_cases {path : String} (h : isAbsolute path = false) (base : String) :
    (base = "" ∧ join base path = path) ∨
      (∃ init, base.toList = init ++ ['/'] ∧ join base path = base ++ path) ∨
      (base ≠ "" ∧ join base path = base ++ "/" ++ path) := by
  rw [join, if_neg (by simp [h])]
  cases hl : base.toList.getLast? with
  | none => exact .inl ⟨String.toList_eq_nil_iff.1 (List.getLast?_eq_none_iff.1 hl), rfl⟩
  | some last =>
    have hne : base ≠ "" := by
      rintro rfl
      simp at hl
    by_cases hs : last = '/'
    · obtain ⟨init, hinit⟩ := List.getLast?_eq_some_iff.1 hl
      exact .inr (.inl ⟨init, hs ▸ hinit, if_pos hs⟩)
    · exact .inr (.inr ⟨hne, if_neg hs⟩)

theorem parts_join {path : String} (h : isAbsolute path = false) (base : String) :
    parts (join base path) = parts base ++ parts path := by
  change partsOf _ = partsOf _ ++ partsOf _
  rcases join_cases h base with ⟨rfl, hj⟩ | ⟨init, hb, hj⟩ | ⟨-, hj⟩
  · rw [hj]
    rfl
  · -- the slash at the end of the base leads nowhere of its own
    have hend : partsOf (init ++ ['/']) = partsOf init :=
      (partsOf_append_slash init []).trans (List.append_nil _)
    rw [hj, String.toList_append, hb, hend, List.append_assoc, List.singleton_append,
      partsOf_append_slash]
  · have hcut : (base ++ "/" ++ path).toList = base.toList ++ '/' :: path.toList := by
      simp [String.toList_append]
    rw [hj, hcut, partsOf_append_slash]

theorem isAbsolute_join {path : String} (h : isAbsolute path = false) (base : String) :
    isAbsolute (join base path) = isAbsolute base := by
  have hhead {xs : List Char} (hxs : xs ≠ []) (more : List Char) :
      (xs ++ more).head? = xs.head? := by
    cases xs with
    | nil => exact absurd rfl hxs
    | cons x rest => rfl
  rcases join_cases h base with ⟨rfl, hj⟩ | ⟨init, hb, hj⟩ | ⟨hne, hj⟩
  · rw [hj, h]
    rfl
  · rw [hj, isAbsolute, String.toList_append, hhead (by simp [hb]), isAbsolute]
  · rw [hj, isAbsolute, String.append_assoc, String.toList_append,
      hhead (by simpa using hne), isAbsolute]

theorem place_join {path : String} (h : isAbsolute path = false) (base : String) :
    place (join base path) = ((place base).1, (place base).2 ++ parts path) := by
  rw [place, isAbsolute_join h, parts_join h, place]

theorem parts_of_notMem {name : String} (h : '/' ∉ name.toList)
    (hv : isVoid name.toList = false) : parts name = [name] := by
  change partsOf name.toList = [name]
  rw [partsOf_of_notMem h hv, String.ofList_toList]

/-- A path with an ending keeps it in its last part. -/
theorem exists_parts_append (path ending : String) (h : '/' ∉ ending.toList)
    (hlen : 1 < ending.toList.length) :
    ∃ before last, parts (path ++ ending) = before ++ [last ++ ending] := by
  have hvoid (name : List Char) : isVoid (name ++ ending.toList) = false := by
    have hl : (name ++ ending.toList).length ≠ 0 ∧ (name ++ ending.toList).length ≠ 1 := by
      rw [List.length_append]
      omega
    rw [isVoid, beq_false_of_ne (fun he => hl.1 (by rw [he]; rfl)),
      beq_false_of_ne (fun he => hl.2 (by rw [he]; rfl))]
    rfl
  have hplain {name : List Char} (hn : '/' ∉ name) :
      partsOf (name ++ ending.toList) = [.ofList name ++ ending] := by
    rw [partsOf_of_notMem (by simp [hn, h]) (hvoid name), String.ofList_append,
      String.ofList_toList]
  change ∃ before last, partsOf (path ++ ending).toList = _
  rw [String.toList_append]
  by_cases hp : '/' ∈ path.toList
  · obtain ⟨dir, name, hpath, hn⟩ : ∃ dir name, path.toList = dir ++ '/' :: name ∧ '/' ∉ name := by
      obtain ⟨as, bs, hab, ha⟩ := List.eq_append_cons_of_mem (List.mem_reverse.2 hp)
      refine ⟨bs.reverse, as.reverse, ?_, by simpa using ha⟩
      rw [← List.reverse_reverse path.toList, hab]
      simp
    exact ⟨partsOf dir, .ofList name, by
      rw [hpath, List.append_assoc, List.cons_append, partsOf_append_slash, hplain hn]⟩
  · exact ⟨[], .ofList path.toList, by rw [hplain hp, List.nil_append]⟩

end Path

/-! ## Files of a plan -/

namespace TablePlan

/-- Where the file of a table goes. -/
def placeIn (t : TablePlan) (dir : String) : Bool × List String :=
  Path.place (Path.join dir t.fileName)

theorem exists_placeIn (t : TablePlan) (dir : String) :
    ∃ root before last, t.placeIn dir = (root, before ++ [last ++ ".gen.go"]) := by
  obtain ⟨before, last, hparts⟩ :=
    Path.exists_parts_append t.table ".gen.go" (by decide) (by decide)
  rw [placeIn]
  cases h : Path.isAbsolute t.fileName with
  | true => exact ⟨_, before, last, by rw [Path.join_of_isAbsolute h, Path.place, fileName, hparts]⟩
  | false =>
    exact ⟨_, _ ++ before, last, by rw [Path.place_join h, fileName, hparts, List.append_assoc]⟩

/-- A name without a slash is one part of the path. -/
theorem placeIn_of_notMem {t : TablePlan} (h : '/' ∉ t.table.toList) (dir : String) :
    t.placeIn dir = ((Path.place dir).1, (Path.place dir).2 ++ [t.fileName]) := by
  have hplain : '/' ∉ t.fileName.toList := by
    rw [fileName, String.toList_append, List.mem_append, not_or]
    exact ⟨h, by decide⟩
  have hvoid : Path.isVoid t.fileName.toList = false := by
    have hmem : 'g' ∈ t.fileName.toList := by
      rw [fileName, String.toList_append]
      exact List.mem_append_right _ (by decide)
    refine Bool.eq_false_iff.2 fun hv => ?_
    rcases Bool.or_eq_true_iff.1 hv with he | he <;> simp [eq_of_beq he] at hmem
  have habs : Path.isAbsolute t.fileName = false := by
    refine Bool.eq_false_iff.2 fun ha => hplain ?_
    exact List.mem_of_mem_head? (eq_of_beq ha)
  rw [placeIn, Path.place_join habs, Path.parts_of_notMem hplain hvoid]

theorem placeIn_inj {t u : TablePlan} (ht : '/' ∉ t.table.toList) (hu : '/' ∉ u.table.toList)
    {dir dir' : String} :
    t.placeIn dir = u.placeIn dir' ↔ Path.place dir = Path.place dir' ∧ t.table = u.table := by
  rw [placeIn_of_notMem ht, placeIn_of_notMem hu, Prod.mk.injEq, Prod.ext_iff, and_assoc]
  refine and_congr_right fun _ => ?_
  constructor
  · intro h
    obtain ⟨hdir, hname⟩ := List.append_inj' h rfl
    simp only [fileName, List.cons.injEq, and_true] at hname
    exact ⟨hdir, String.append_left_inj _ |>.1 hname⟩
  · rintro ⟨hdir, hname⟩
    rw [hdir, fileName, fileName, hname]

end TablePlan

namespace Config

variable {c : Config} {p : Plan}

/-- The directory of generated models, if they are written. -/
def modelFilesDir? (c : Config) : Option String :=
  match c.modelDir, c.modelSource with
  | some dir, none => some dir
  | _, _ => none

theorem places_files (t : TablePlan) :
    (t.files c).map (Path.place ·.path) =
      (c.modelFilesDir?.map t.placeIn).toList ++ [t.placeIn c.outDir] := by
  rw [TablePlan.files, modelFilesDir?]
  cases c.modelDir <;> cases c.modelSource <;> rfl

/-- The shared file is never the file of a table. -/
theorem place_sharedFile_ne (t : TablePlan) (dir : String) :
    t.placeIn dir ≠ Path.place c.sharedFile.path := by
  obtain ⟨root, before, last, ht⟩ := t.exists_placeIn dir
  have hparts : Path.parts Output.helperFileName = [Output.helperFileName] := by decide
  rw [sharedFile, Path.place_join (by decide), hparts, ht]
  intro h
  have hlast : last ++ ".gen.go" = Output.helperFileName := by
    simpa using (List.append_inj' (Prod.mk.inj h).2 rfl).2
  have hsuffix : ".gen.go".toList <:+ Output.helperFileName.toList :=
    ⟨last.toList, by rw [← hlast, String.toList_append]⟩
  revert hsuffix
  decide

theorem nodup_flatMap_pair {α β : Type} {f g : α → β} {xs : List α} :
    (xs.flatMap fun x => [f x, g x]).Nodup ↔
      (xs.map f).Nodup ∧ (xs.map g).Nodup ∧ ∀ x ∈ xs, ∀ y ∈ xs, f x ≠ g y := by
  have hperm : (xs.flatMap fun x => [f x, g x]).Perm (xs.map f ++ xs.map g) := by
    induction xs with
    | nil => exact .refl _
    | cons x rest ih =>
      rw [List.flatMap_cons, List.map_cons, List.map_cons]
      exact .cons _ ((ih.cons _).trans List.perm_middle.symm)
  rw [hperm.nodup_iff, List.nodup_append]
  simp only [List.forall_mem_map]

/-- All files of a plan have places of their own if this holds of the query files, of the models,
and of both together. -/
theorem nodup_places_iff :
    ((c.files p).map (Path.place ·.path)).Nodup ↔
      (p.tables.map (·.placeIn c.outDir)).Nodup ∧
        ∀ dir, c.modelFilesDir? = some dir → (p.tables.map (·.placeIn dir)).Nodup ∧
          ∀ t ∈ p.tables, ∀ u ∈ p.tables, t.placeIn dir ≠ u.placeIn c.outDir := by
  have hfiles : (p.tables.flatMap (TablePlan.files c)).map (Path.place ·.path) =
      p.tables.flatMap fun t =>
        (c.modelFilesDir?.map t.placeIn).toList ++ [t.placeIn c.outDir] := by
    rw [List.map_flatMap]
    exact List.flatMap_congr fun t _ => places_files t
  have hshared : ((c.files p).map (Path.place ·.path)).Nodup ↔
      (p.tables.flatMap fun t =>
        (c.modelFilesDir?.map t.placeIn).toList ++ [t.placeIn c.outDir]).Nodup := by
    have hfresh : ∀ x ∈ p.tables.flatMap fun t =>
        (c.modelFilesDir?.map t.placeIn).toList ++ [t.placeIn c.outDir],
        x ≠ Path.place c.sharedFile.path := by
      intro x hx
      obtain ⟨t, -, hx⟩ := List.mem_flatMap.1 hx
      rcases List.mem_append.1 hx with hx | hx
      · obtain ⟨dir, -, rfl⟩ := Option.map_eq_some_iff.1 (Option.mem_toList.1 hx)
        exact place_sharedFile_ne t dir
      · rw [List.mem_singleton.1 hx]
        exact place_sharedFile_ne t c.outDir
    rw [files, List.map_append, hfiles]
    split
    · simp
    · rw [List.map_singleton, List.nodup_append]
      refine and_iff_left ⟨List.pairwise_singleton _ _, fun x hx y hy => ?_⟩
      rw [List.mem_singleton.1 hy]
      exact hfresh x hx
  rw [hshared]
  cases c.modelFilesDir? with
  | none => simp [List.map_eq_flatMap]
  | some dir =>
    refine nodup_flatMap_pair.trans ?_
    simp [and_left_comm]

/-- For table names without slashes, each table may be planned once, and models may not go where the
queries go. -/
theorem nodup_places_of_plain_iff (hplain : ∀ t ∈ p.tables, '/' ∉ t.table.toList) :
    ((c.files p).map (Path.place ·.path)).Nodup ↔
      (p.tables.map (·.table)).Nodup ∧
        ∀ dir, c.modelFilesDir? = some dir → p.tables ≠ [] →
          Path.place dir ≠ Path.place c.outDir := by
  have hnodup (dir : String) :
      (p.tables.map (·.placeIn dir)).Nodup ↔ (p.tables.map (·.table)).Nodup := by
    simp only [List.Nodup, List.pairwise_map]
    refine ⟨fun h => ?_, fun h => ?_⟩
    · refine h.imp_of_mem fun ht hu hne he => hne ?_
      exact (TablePlan.placeIn_inj (hplain _ ht) (hplain _ hu)).2 ⟨rfl, he⟩
    · refine h.imp_of_mem fun ht hu hne he => hne ?_
      exact ((TablePlan.placeIn_inj (hplain _ ht) (hplain _ hu)).1 he).2
  rw [nodup_places_iff, hnodup]
  refine and_congr_right fun htables => forall₂_congr fun dir hdir => ?_
  rw [hnodup, and_iff_right htables]
  constructor
  · intro h hne hplace
    obtain ⟨t, ht⟩ := List.exists_mem_of_ne_nil _ hne
    exact h t ht t ht ((TablePlan.placeIn_inj (hplain t ht) (hplain t ht)).2 ⟨hplace, rfl⟩)
  · intro h t ht u hu he
    exact h (List.ne_nil_of_mem ht) ((TablePlan.placeIn_inj (hplain t ht) (hplain u hu)).1 he).1

end Config

end QueryGen
