import QueryGen.Proofs.Output.ImportBlock
import QueryGen.Proofs.Plan.Account
import QueryGen.Plan.Files

/-!
# What a query file imports

The signatures of a query file may come from several interface files, and each of these gives its
packages names of its own. The import block keeps one line for each path.

- `GoType.mentions`: the packages that a type names, also in parts that are kept as written.
- `Config.needs`: the packages that a query file needs, with their paths.
- `Output.Covers`: the block binds what is needed, and gives no name two meanings.
- `Config.ImportsAgree`: what has to hold of the interface files for that.
- `Config.imports_cover_iff`: it covers the needs exactly then.
-/

namespace QueryGen

/-! ## Packages that a signature names -/

/-- Whether tokens name a package: a word in front of a single dot, and behind none. `dots` counts
those right before the tokens. The dots of `...` are not single. -/
def Go.namesPackage (q : String) : Nat → List Go.Token → Bool
  | _, [] => false
  | dots, t :: rest =>
    (dots ≠ 1 && t.isWord q && (Go.mark? "." rest).any (!Go.startsWith "." ·)) ||
      Go.namesPackage q (if t.isMark "." then dots + 1 else 0) rest

/-- Whether a text names a package. -/
def Go.mentions (q text : String) : Bool := (Go.tokens? text.toList).any (Go.namesPackage q 0)

namespace GoType

/-- Whether a type names a package, also in a part that is kept as it is written. -/
def mentions (q : String) : GoType → Bool
  | named package _ => package == some q
  | pointer elem => elem.mentions q
  | slice elem => elem.mentions q
  | array len elem => Go.mentions q len || elem.mentions q
  | map key value => key.mentions q || value.mentions q
  | interface text => Go.mentions q text
  | verbatim text => Go.mentions q text
  | unknown => false

end GoType

/-- Whether the signature of a method names a package. -/
def QueryMethod.mentions (m : QueryMethod) (q : String) : Bool := m.types.any (·.mentions q)

/-- The path that a file imports by a name. -/
def GoFile.path? (f : GoFile) (q : String) : Option String :=
  (f.imports.reverse.find? (·.qualifier == q)).map (·.path)

namespace Config

/-- The packages that a signature names and the file of its interface imports, with the paths that
the file gives them. Those of the query objects and of the models are left out. -/
def packagesOf (c : Config) (file : GoFile) (m : QueryMethod) : List (String × String) :=
  (file.imports.map (·.qualifier)).filterMap fun q =>
    if q ≠ c.genPackage ∧ q ≠ c.modelPackage ∧ m.mentions q then (file.path? q).map (q, ·) else none

/-- The packages that the query file of a table needs, with their paths: that of the query objects,
that of the models, and those that signatures name. -/
def needs (c : Config) (read : FileReader) (structs : StructRegistry) (t : TablePlan) :
    List (String × String) :=
  (c.genPackage, c.genImport) :: (c.modelPackage, c.modelImport) ::
    (c.units read t.table).flatMap fun u => match c.outcome structs t u with
      | .ok g => c.packagesOf u.1.file g.method
      | .error _ => []

end Config

/-- The names and the paths that the imports of a query file bind to each other. -/
def QueryFile.bindings (f : QueryFile) : List (String × String) := f.imports.map (·.binding)

/-- The names and the paths that the import block of a query file binds to each other. -/
def QueryFile.bound (f : QueryFile) : List (String × String) :=
  (Output.importBlock f.imports).map (·.binding)

/-- The bindings are those that are needed, and perhaps others. No name is bound to two paths. -/
structure Output.Covers (bound needs : List (String × String)) : Prop where
  needed : needs ⊆ bound
  onePath : ∀ a ∈ bound, ∀ b ∈ bound, a.1 = b.1 → a.2 = b.2

namespace Config

/-- A package that a signature names only where a type is kept as written is imported all the
same. -/
def ImportsHidden (c : Config) (read : FileReader) (structs : StructRegistry) (t : TablePlan) :
    Prop :=
  ∀ u ∈ c.units read t.table, ∀ g, c.outcome structs t u = .ok g →
    ∀ n ∈ c.packagesOf u.1.file g.method, n.1 ∉ g.method.packages → n ∈ (t.queryFile c).bindings

/-- The interface files that give a table its methods agree on the names of packages, among each
other and with the configuration. -/
structure ImportsAgree (c : Config) (read : FileReader) (structs : StructRegistry) (t : TablePlan) :
    Prop where
  hidden : c.ImportsHidden read structs t
  /-- A path that is needed is bound first to the name by which it is needed. -/
  names : ∀ n ∈ c.needs read structs t, ∀ name,
    Output.IsFirst (t.queryFile c).bindings (name, n.2) → name = n.1
  /-- No name is bound first to two paths. -/
  paths : ∀ name path path', Output.IsFirst (t.queryFile c).bindings (name, path) →
    Output.IsFirst (t.queryFile c).bindings (name, path') → path = path'

variable {c : Config} {catalog : Catalog} {read : FileReader} {source : Option GoFile} {p : Plan}
  {structs : StructRegistry} {t : TablePlan}

theorem mem_needs {n : String × String} : n ∈ c.needs read structs t ↔
    n = (c.genPackage, c.genImport) ∨ n = (c.modelPackage, c.modelImport) ∨
      ∃ u ∈ c.units read t.table, ∃ g, c.outcome structs t u = .ok g ∧
        n ∈ c.packagesOf u.1.file g.method := by
  simp only [needs, List.mem_cons, List.mem_flatMap]
  refine or_congr_right (or_congr_right (exists_congr fun u => and_congr_right fun _ => ?_))
  cases c.outcome structs t u <;> simp

theorem path?_mem_bindings {file : GoFile} {q path : String} (h : file.path? q = some path) :
    (q, path) ∈ file.imports.map (·.binding) := by
  obtain ⟨i, hi, rfl⟩ := Option.map_eq_some_iff.1 h
  have hmem : i ∈ file.imports := List.mem_reverse.1 (List.mem_of_find?_eq_some hi)
  obtain rfl : i.qualifier = q := by simpa using List.find?_some hi
  exact List.mem_map_of_mem hmem

theorem findInterface_of_mem_units {table : String} {u : FoundInterface × Method}
    (h : u ∈ c.units read table) : ∃ i ∈ c.interfaces, findInterface read i = .ok u.1 := by
  obtain ⟨i, hi, hu⟩ := List.mem_flatMap.1 h
  refine ⟨i, hi, ?_⟩
  cases hfound : findInterface read i with
  | error f => simp [hfound, unitsOf] at hu
  | ok found =>
    rw [hfound, unitsOf, FoundInterface.units] at hu
    split at hu
    · obtain ⟨m, -, rfl⟩ := List.mem_map.1 hu
      rfl
    · cases hu

theorem mem_packagesOf {file : GoFile} {m : QueryMethod} {n : String × String} :
    n ∈ c.packagesOf file m ↔ n.1 ≠ c.genPackage ∧ n.1 ≠ c.modelPackage ∧ m.mentions n.1 = true ∧
      file.path? n.1 = some n.2 := by
  obtain ⟨q, path⟩ := n
  rw [packagesOf, List.mem_filterMap]
  constructor
  · rintro ⟨q', -, h⟩
    split at h
    · next hq =>
      obtain ⟨path', hpath, h⟩ := Option.map_eq_some_iff.1 h
      cases h
      exact ⟨hq.1, hq.2.1, hq.2.2, hpath⟩
    · cases h
  · rintro ⟨hgen, hmodel, hm, hpath⟩
    obtain ⟨i, hi, hbinding⟩ := List.mem_map.1 (path?_mem_bindings hpath)
    refine ⟨q, List.mem_map.2 ⟨i, hi, congrArg Prod.fst hbinding⟩, ?_⟩
    rw [if_pos ⟨hgen, hmodel, hm⟩, hpath]
    rfl

/-- A package that a signature names outright is imported by the path that the file gives it. -/
theorem mem_methodImports {file : GoFile} {m : QueryMethod} {n : String × String}
    (hn : n ∈ c.packagesOf file m) (hnamed : n.1 ∈ m.packages) :
    n ∈ (c.methodImports file m).map (·.binding) := by
  obtain ⟨hgen, hmodel, -, hpath⟩ := mem_packagesOf.1 hn
  rw [methodImports, List.map_map, List.mem_map]
  refine ⟨n.1, List.mem_filter.2 ⟨hnamed, by simpa using hgen⟩, ?_⟩
  have hknown : (file.imports.reverse.find? (·.qualifier == n.1)).map (·.path) = some n.2 := hpath
  simp [hmodel, hknown]

theorem gen_mem_bindings : (c.genPackage, c.genImport) ∈ (t.queryFile c).bindings := by
  rw [QueryFile.bindings, QueryFile.imports]
  simp [TablePlan.queryFile]

theorem model_mem_bindings : (c.modelPackage, c.modelImport) ∈ (t.queryFile c).bindings := by
  rw [QueryFile.bindings, QueryFile.imports]
  simp [TablePlan.queryFile, importOfModels]

theorem mem_bindings_of_mem {g : GeneratedMethod} {b : String × String} (hg : g ∈ t.methods)
    (hb : b ∈ g.imports.map (·.binding)) : b ∈ (t.queryFile c).bindings := by
  obtain ⟨i, hi, rfl⟩ := List.mem_map.1 hb
  have hmethods : i ∈ (t.queryFile c).methods.flatMap (·.imports) :=
    List.mem_flatMap.2 ⟨g, hg, hi⟩
  exact List.mem_map_of_mem (List.mem_append.2 (.inr (List.mem_cons_of_mem _ hmethods)))

/-- All that is needed is imported, apart from what is hidden where a type is kept as written. -/
theorem mem_bindings_of_mem_needs
    (hmethods : t.methods = successes ((c.units read t.table).map (c.outcome structs t)))
    (hidden : c.ImportsHidden read structs t) {n : String × String}
    (hn : n ∈ c.needs read structs t) : n ∈ (t.queryFile c).bindings := by
  rcases mem_needs.1 hn with rfl | rfl | ⟨u, hu, g, hg, hn⟩
  · exact gen_mem_bindings
  · exact model_mem_bindings
  by_cases hnamed : n.1 ∈ g.method.packages
  · have hmem : g ∈ t.methods := by
      rw [hmethods, mem_successes, ← hg]
      exact List.mem_map_of_mem hu
    obtain ⟨m, k, -, -, rfl⟩ := outcome_eq_ok.1 hg
    exact mem_bindings_of_mem hmem (mem_methodImports hn hnamed)
  · exact hidden u hu g hg n hn hnamed

theorem methods_of_plan (h : c.plan catalog read = .ok p)
    (hsource : c.modelSource.mapM (GoFile.load read) = .ok source) (ht : t ∈ p.tables) :
    t.methods = successes ((c.units read t.table).map (c.outcome (c.structsOf source p) t)) := by
  obtain ⟨source', hsource', rfl⟩ := plan_eq_ok.1 h
  obtain rfl : source = source' := Except.ok.inj (hsource.symm.trans hsource')
  exact methods_of_mem ht

theorem covers_iff_importsAgree
    (hmethods : t.methods = successes ((c.units read t.table).map (c.outcome structs t))) :
    Output.Covers (t.queryFile c).bound (c.needs read structs t) ↔
      c.ImportsAgree read structs t := by
  have hbound {b : String × String} :
      b ∈ (t.queryFile c).bound ↔ Output.IsFirst (t.queryFile c).bindings b :=
    Output.mem_bindings_importBlock
  constructor
  · intro covers
    refine ⟨fun u hu g hg n hn _ => ?_, fun n hn name hname => ?_, fun name path path' h h' => ?_⟩
    · exact (hbound.1 (covers.needed (mem_needs.2 (.inr (.inr ⟨u, hu, g, hg, hn⟩))))).mem
    · exact congrArg Prod.fst (hname.eq_of_path (hbound.1 (covers.needed hn)) rfl)
    · exact covers.onePath _ (hbound.2 h) _ (hbound.2 h') rfl
  · intro agree
    refine ⟨fun n hn => hbound.2 ?_, fun a ha b hb h => ?_⟩
    · have himported := mem_bindings_of_mem_needs hmethods agree.hidden hn
      obtain ⟨name, hname⟩ := Output.exists_isFirst himported
      rw [agree.names n hn name hname] at hname
      exact hname
    · exact agree.paths a.1 a.2 b.2 (hbound.1 ha) (h ▸ hbound.1 hb)

/-- Where the imports bind names and paths one to one, only hidden packages can be missing. -/
theorem ImportsAgree.of_oneToOne
    (hmethods : t.methods = successes ((c.units read t.table).map (c.outcome structs t)))
    (hidden : c.ImportsHidden read structs t)
    (oneToOne : ∀ a ∈ (t.queryFile c).bindings, ∀ b ∈ (t.queryFile c).bindings,
      a.1 = b.1 ↔ a.2 = b.2) : c.ImportsAgree read structs t where
  hidden := hidden
  names _ hn _ hname :=
    (oneToOne _ hname.mem _ (mem_bindings_of_mem_needs hmethods hidden hn)).2 rfl
  paths _ _ _ h h' := (oneToOne _ h.mem _ h'.mem).1 rfl

/-- The import block of every query file spells the first binding of each path. It covers what the
signatures need exactly if the interface files agree on the names of packages. That of the query
objects is bound in any case. -/
theorem imports_cover_iff (h : c.plan catalog read = .ok p) :
    ∃ source, c.modelSource.mapM (GoFile.load read) = .ok source ∧ ∀ t ∈ p.tables,
      (∃ block rest, Output.Spells (Output.importBlock (t.queryFile c).imports) block ∧
        (t.queryFile c).source = Output.unlines
          ([Output.header, "", "package " ++ c.queryPackage, ""] ++ block ++ rest)) ∧
      (c.genPackage, c.genImport) ∈ (t.queryFile c).bound ∧
      (Output.Covers (t.queryFile c).bound (c.needs read (c.structsOf source p) t) ↔
        c.ImportsAgree read (c.structsOf source p) t) := by
  obtain ⟨source, hsource, -⟩ := plan_eq_ok.1 h
  refine ⟨source, hsource, fun t ht =>
    ⟨?_, ?_, covers_iff_importsAgree (methods_of_plan h hsource ht)⟩⟩
  · refine ⟨_, (t.queryFile c).constructorLines ++ (t.queryFile c).typeLines ++
      (t.queryFile c).methods.flatMap (fun g => "" :: g.lines c.receiver (t.queryFile c).doType),
      Output.spells_importLines _, ?_⟩
    simp only [QueryFile.source, QueryFile.lines, Output.preamble, List.append_assoc]
    rfl
  · refine Output.mem_bindings_importBlock.2 ?_
    rw [Output.IsFirst, QueryFile.imports]
    simp [TablePlan.queryFile]

end Config

namespace Aliases

open Config

/-- An interface file with these import lines and a method with these parameters. -/
def source (imports params : String) : String :=
  "package dao\n\nimport (\n\t" ++ imports ++ "\n)\n\n" ++
    "type Query interface \x7b\n\t// select 1\n\tOne(" ++ params ++ ") error\n\x7d\n"

/-- Interface files `a.go` and `b.go`. -/
def reading (a b : String) : FileReader := fun path =>
  if path = "a.go" then .ok a else if path = "b.go" then .ok b else .error "no such file"

theorem reading_a (a b : String) : reading a b "a.go" = .ok a := rfl

theorem reading_b (a b : String) : reading a b "b.go" = .ok b := rfl

def catalog : Catalog where
  tables := .ok [{ name := "users", columns := [{ name := "id", type := .bigInt }] }]
  columns _ := .ok []

def query (path : String) : InterfaceSource := ⟨path, "Query", []⟩

/-- A run with interface files. -/
def config (files : List String) : Config where
  modelImport := "example.com/app/model"
  tables := ["users"]
  interfaces := files.map query

/-- The bindings of the imports of each table, and the types of its signatures. -/
def summary (c : Config) (p : Plan) : List (List (String × String) × List (List GoType)) :=
  p.tables.map fun t => ((t.queryFile c).bindings, t.methods.map (·.method.types))

/-- What is found in such a file. -/
def foundIn (path : String) (imports : List Import) (params : List Param) : FoundInterface :=
  let method : Method := ⟨"One", "select 1", params, [{ name := "", type := .simple "error" }]⟩
  { source := query path
    file := { package := "dao", imports, interfaces := [⟨"Query", [method]⟩] }
    decl := ⟨"Query", [method]⟩ }

/-- The letters of such a file. Nothing is decoded from the bytes of a text where it is read by
these. -/
theorem toList_source (imports params : List Char) :
    (source (.ofList imports) (.ofList params)).toList =
      "package dao\n\nimport (\n\t".toList ++ imports ++ "\n)\n\n".toList ++
        "type Query interface \x7b\n\t// select 1\n\tOne(".toList ++ params ++
        ") error\n\x7d\n".toList := by
  delta source
  simp only [String.toList_append, String.toList_ofList, List.append_assoc, -String.reduceToList]

theorem findInterface_query {read : FileReader} {path text : String} {imports : List Import}
    {params : List Param} (hread : read path = .ok text)
    (h : GoFile.parse? text = some (foundIn path imports params).file) :
    findInterface read (query path) = .ok (foundIn path imports params) := by
  have hload : GoFile.load read (query path).path = .ok (foundIn path imports params).file := by
    rw [GoFile.load, query, hread]
    simp only [GoFile.parse, h]
  rw [findInterface, hload]
  rfl

theorem units_eq {files : List String} {read : FileReader} {founds : List FoundInterface}
    (h : List.Forall₂ (fun path i => findInterface read (query path) = .ok i) files founds) :
    (config files).units read = fun table => founds.flatMap (·.units table) := by
  funext table
  rw [units, config, List.flatMap_map]
  induction h with
  | nil => rfl
  | cons hfound _ ih => rw [List.flatMap_cons, List.flatMap_cons, ih, hfound, unitsOf]

/-- The tables of a run in which these interfaces are found. -/
def tablesWith (files : List String) (founds : List FoundInterface) : List TablePlan :=
  let c := config files
  (successes (c.tables.map (c.tableOutcome catalog none))).map
    (c.filled (c.structsOf none (c.planTables catalog none)) fun table =>
      founds.flatMap (·.units table))

theorem exists_plan {files : List String} {read : FileReader} {founds : List FoundInterface}
    {bindings : List (String × String)} {types : List (List GoType)}
    (hfounds : List.Forall₂ (fun path i => findInterface read (query path) = .ok i) files founds)
    (h : summary (config files) { tables := tablesWith files founds } = [(bindings, types)]) :
    ∃ p t, (config files).plan catalog read = .ok p ∧ p.tables = [t] ∧
      (t.queryFile (config files)).bindings = bindings ∧
      t.methods.map (·.method.types) = types := by
  obtain ⟨t, ht, hsummary⟩ := List.map_eq_singleton_iff.1 h
  refine ⟨_, t, plan_eq_ok.2 ⟨none, rfl, rfl⟩, ?_, congrArg Prod.fst hsummary,
    congrArg Prod.snd hsummary⟩
  rw [tables_planFrom, units_eq hfounds]
  exact ht

/-- Two packages with names of their own. -/
def apart : FileReader :=
  reading (source "m \"example.com/money\"\n\t\"time\"" "price m.Amount, since time.Time") ""

/-- What the file imports. -/
def imported : List (String × String) := [("m", "example.com/money"), ("time", "time")]

/-- What the query file imports without regard to signatures. -/
def fixed : List (String × String) :=
  [("gen", "gorm.io/gen"), ("field", "gorm.io/gen/field"), ("gorm", "gorm.io/gorm"),
    ("strings", "strings"), ("model", "example.com/app/model")]

theorem findInterface_apart : findInterface apart (query "a.go") =
    .ok (foundIn "a.go" [⟨some "m", "example.com/money"⟩, ⟨none, "time"⟩]
      [{ name := "price", type := .qualified "m" "Amount" },
        { name := "since", type := .qualified "time" "Time" }]) := by
  refine findInterface_query (reading_a _ _) ?_
  rw [GoFile.parse?, toList_source, String.toList_ofList, String.toList_ofList,
    String.toList_ofList, String.toList_ofList]
  decide +kernel

theorem imports_cover_apart :
    ∃ p, (config ["a.go"]).plan catalog apart = .ok p ∧
      ∀ t ∈ p.tables, (config ["a.go"]).ImportsAgree apart ((config ["a.go"]).structsOf none p) t ∧
        Output.Covers (t.queryFile (config ["a.go"])).bound
          ((config ["a.go"]).needs apart ((config ["a.go"]).structsOf none p) t) := by
  obtain ⟨p, t, hp, htables, hbindings, -⟩ := exists_plan (.cons findInterface_apart .nil)
    (by decide +kernel : _ = [(fixed ++ imported,
      [[.qualified "m" "Amount", .qualified "time" "Time", .simple "error"]])])
  obtain ⟨file?, hsource, hcover⟩ := imports_cover_iff hp
  obtain rfl : none = file? := Except.ok.inj hsource
  have ht : t ∈ p.tables := htables ▸ List.mem_cons_self
  have hagree : (config ["a.go"]).ImportsAgree apart ((config ["a.go"]).structsOf none p) t := by
    refine .of_oneToOne (methods_of_plan hp hsource ht) ?_ ?_
    · -- all that the file imports is imported here, too
      intro u hu g _ n hn _
      obtain ⟨i, hi, hu⟩ := findInterface_of_mem_units hu
      obtain rfl : i = query "a.go" := by simpa [config] using hi
      rw [findInterface_apart] at hu
      have hmem := path?_mem_bindings (mem_packagesOf.1 hn).2.2.2
      rw [← Except.ok.inj hu] at hmem
      rw [hbindings]
      exact List.mem_append_right _ hmem
    · rw [hbindings]
      decide +kernel
  refine ⟨p, hp, ?_⟩
  rw [htables, List.forall_mem_singleton]
  exact ⟨hagree, (hcover t ht).2.2.2 hagree⟩

/-- A package that the file of a run imports and a signature names is missing if its path is bound
first to another name, or not at all. -/
theorem exists_missing {read : FileReader} {found : FoundInterface} {q path : String}
    {bindings : List (String × String)} {types : List GoType}
    (hfound : findInterface read (query "a.go") = .ok found)
    (hsummary : summary (config ["a.go"]) { tables := tablesWith ["a.go"] [found] } =
      [(bindings, [types])])
    (hpath : found.file.path? q = some path)
    (hq : q ≠ "gen" ∧ q ≠ "model" ∧ types.any (·.mentions q))
    (hfirst : ¬ Output.IsFirst bindings (q, path)) :
    ∃ p t, (config ["a.go"]).plan catalog read = .ok p ∧ p.tables = [t] ∧
      (q, path) ∈ (config ["a.go"]).needs read ((config ["a.go"]).structsOf none p) t ∧
      (q, path) ∉ (t.queryFile (config ["a.go"])).bound ∧
      ¬ Output.Covers (t.queryFile (config ["a.go"])).bound
        ((config ["a.go"]).needs read ((config ["a.go"]).structsOf none p) t) := by
  obtain ⟨p, t, hp, htables, rfl, htypes⟩ := exists_plan (.cons hfound .nil) hsummary
  obtain ⟨g, hmethods, htypes⟩ := List.map_eq_singleton_iff.1 htypes
  have hg : g ∈ t.methods := hmethods ▸ List.mem_cons_self
  rw [methods_of_plan hp rfl (htables ▸ List.mem_cons_self), mem_successes, List.mem_map] at hg
  obtain ⟨u, hu, hg⟩ := hg
  obtain ⟨i, hi, hfound'⟩ := findInterface_of_mem_units hu
  obtain rfl : i = query "a.go" := by simpa [config] using hi
  obtain rfl : found = u.1 := Except.ok.inj (hfound.symm.trans hfound')
  have hmentions : g.method.mentions q = true := by
    rw [QueryMethod.mentions, htypes]
    exact hq.2.2
  have hneeded : (q, path) ∈
      (config ["a.go"]).needs read ((config ["a.go"]).structsOf none p) t :=
    mem_needs.2 (.inr (.inr ⟨u, hu, g, hg, mem_packagesOf.2 ⟨hq.1, hq.2.1, hmentions, hpath⟩⟩))
  have hmissing : (q, path) ∉ (t.queryFile (config ["a.go"])).bound :=
    mt Output.mem_bindings_importBlock.1 hfirst
  exact ⟨p, t, hp, htables, hneeded, hmissing, fun h => hmissing (h.needed hneeded)⟩

/-- One path under two names. -/
def doubled : FileReader :=
  reading (source "a \"example.com/money\"\n\tb \"example.com/money\""
    "price a.Amount, rate b.Rate") ""

theorem findInterface_doubled : findInterface doubled (query "a.go") =
    .ok (foundIn "a.go" [⟨some "a", "example.com/money"⟩, ⟨some "b", "example.com/money"⟩]
      [{ name := "price", type := .qualified "a" "Amount" },
        { name := "rate", type := .qualified "b" "Rate" }]) := by
  refine findInterface_query (reading_a _ _) ?_
  rw [GoFile.parse?, toList_source, String.toList_ofList, String.toList_ofList,
    String.toList_ofList, String.toList_ofList]
  decide +kernel

/-- A package that is only named in a type argument. -/
def hidden : FileReader :=
  reading (source "\"database/sql\"" "count sql.Null[int64]") ""

theorem findInterface_hidden : findInterface hidden (query "a.go") =
    .ok (foundIn "a.go" [⟨none, "database/sql"⟩]
      [{ name := "count", type := .verbatim "sql.Null[int64]" }]) := by
  refine findInterface_query (reading_a _ _) ?_
  rw [GoFile.parse?, toList_source, String.toList_ofList, String.toList_ofList,
    String.toList_ofList, String.toList_ofList]
  decide +kernel

/-- Two paths under one name. -/
def shared : FileReader :=
  reading (source "t \"example.com/x\"" "v t.A") (source "t \"example.com/y\"" "v t.B")

theorem findInterface_shared :
    findInterface shared (query "a.go") = .ok (foundIn "a.go" [⟨some "t", "example.com/x"⟩]
      [{ name := "v", type := .qualified "t" "A" }]) ∧
    findInterface shared (query "b.go") = .ok (foundIn "b.go" [⟨some "t", "example.com/y"⟩]
      [{ name := "v", type := .qualified "t" "B" }]) := by
  constructor
  · refine findInterface_query (reading_a _ _) ?_
    rw [GoFile.parse?, toList_source, String.toList_ofList, String.toList_ofList,
      String.toList_ofList, String.toList_ofList]
    decide +kernel
  · refine findInterface_query (reading_b _ _) ?_
    rw [GoFile.parse?, toList_source, String.toList_ofList, String.toList_ofList,
      String.toList_ofList, String.toList_ofList]
    decide +kernel

/-- Of two names for one path the second is not bound. A package that only a type argument names is
not imported. Two files that give one name to different packages make two lines for it. -/
theorem not_covers :
    (∃ p t, (config ["a.go"]).plan catalog doubled = .ok p ∧ p.tables = [t] ∧
      ("b", "example.com/money") ∈
        (config ["a.go"]).needs doubled ((config ["a.go"]).structsOf none p) t ∧
      ("b", "example.com/money") ∉ (t.queryFile (config ["a.go"])).bound ∧
      ¬ Output.Covers (t.queryFile (config ["a.go"])).bound
        ((config ["a.go"]).needs doubled ((config ["a.go"]).structsOf none p) t)) ∧
    (∃ p t, (config ["a.go"]).plan catalog hidden = .ok p ∧ p.tables = [t] ∧
      ("sql", "database/sql") ∈
        (config ["a.go"]).needs hidden ((config ["a.go"]).structsOf none p) t ∧
      ("sql", "database/sql") ∉ (t.queryFile (config ["a.go"])).bound ∧
      ¬ Output.Covers (t.queryFile (config ["a.go"])).bound
        ((config ["a.go"]).needs hidden ((config ["a.go"]).structsOf none p) t)) ∧
    ∃ p t, (config ["a.go", "b.go"]).plan catalog shared = .ok p ∧ p.tables = [t] ∧
      ("t", "example.com/x") ∈ (t.queryFile (config ["a.go", "b.go"])).bound ∧
      ("t", "example.com/y") ∈ (t.queryFile (config ["a.go", "b.go"])).bound ∧
      ¬ Output.Covers (t.queryFile (config ["a.go", "b.go"])).bound
        ((config ["a.go", "b.go"]).needs shared
          ((config ["a.go", "b.go"]).structsOf none p) t) := by
  refine ⟨?_, ?_, ?_⟩
  · exact exists_missing findInterface_doubled
      (by decide +kernel : _ = [(fixed ++ [("a", "example.com/money"), ("b", "example.com/money")],
        [[.qualified "a" "Amount", .qualified "b" "Rate", .simple "error"]])])
      (by decide +kernel) (by decide +kernel) (by decide +kernel)
  · exact exists_missing findInterface_hidden
      (by decide +kernel : _ = [(fixed, [[.verbatim "sql.Null[int64]", .simple "error"]])])
      (by decide +kernel) (by decide +kernel) (by decide +kernel)
  · obtain ⟨p, t, hp, htables, hbindings, -⟩ :=
      exists_plan (.cons findInterface_shared.1 (.cons findInterface_shared.2 .nil))
        (by decide +kernel : _ = [(fixed ++ [("t", "example.com/x"), ("t", "example.com/y")],
          [[.qualified "t" "A", .simple "error"], [.qualified "t" "B", .simple "error"]])])
    have hbound {b : String × String}
        (hb : Output.IsFirst (fixed ++ [("t", "example.com/x"), ("t", "example.com/y")]) b) :
        b ∈ (t.queryFile (config ["a.go", "b.go"])).bound := by
      rw [← hbindings] at hb
      exact Output.mem_bindings_importBlock.2 hb
    have hx := @hbound ("t", "example.com/x") (by decide +kernel)
    have hy := @hbound ("t", "example.com/y") (by decide +kernel)
    exact ⟨p, t, hp, htables, hx, hy, fun h => absurd (h.onePath _ hx _ hy rfl) (by decide)⟩

end Aliases

end QueryGen
