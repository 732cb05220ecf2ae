import QueryGen.Config.Check
import QueryGen.Data.Yaml.Reader
import QueryGen.WorkDir

/-!
# Reading configurations

- `Config.ofTree?`: the fields of a configuration.
- `Config.parse`: a configuration from its text.
- `Config.load`: a checked configuration from a file. Its paths start at the directory of the file.
-/

namespace QueryGen

variable {σ : Type} [Scalar σ]

/-- One of several values by its name. -/
def Tree.oneOf? {α : Type} (ofName? : String → Option α) (t : Tree σ) : Option α :=
  t.word?.bind ofName?

def CatalogSource.ofTree? (t : Tree σ) : Option CatalogSource := do
  let f ← t.fields? ["schema_file", "connection_string"]
  return {
    schemaFile := ← f.textOrNull "schema_file"
    connection := ← f.textOrNull "connection_string" }

def InterfaceSource.ofTree? (t : Tree σ) : Option InterfaceSource := do
  let f ← t.fields? ["source", "name", "apply_to"]
  return {
    path := ← f.required "source" Tree.text?
    name := ← f.required "name" Tree.text?
    applyTo := ← f.withDefault "apply_to" [] (Tree.listOf Tree.text?) }

namespace Config

/-- The fields of a configuration. Only the import path of the models has to be there. -/
def ofTree? (t : Tree σ) : Option Config := do
  let f ← t.fields? ["out_dir", "model_dir", "model_source", "query_package", "model_package",
    "model_import", "dialect", "bind_style", "gen_package", "gen_import", "receiver", "catalog",
    "tables", "interfaces"]
  let base : Config := { modelImport := ← f.required "model_import" Tree.text? }
  return { base with
    outDir := ← f.withDefault "out_dir" base.outDir Tree.text?
    modelDir := ← f.textOrNull "model_dir"
    modelSource := ← f.textOrNull "model_source"
    queryPackage := ← f.withDefault "query_package" base.queryPackage Tree.text?
    modelPackage := ← f.withDefault "model_package" base.modelPackage Tree.text?
    dialect := ← f.withDefault "dialect" base.dialect (Tree.oneOf? Dialect.ofName?)
    bindStyle := ← f.withDefault "bind_style" base.bindStyle
      (Tree.oneOf? Template.BindStyle.ofName?)
    genPackage := ← f.withDefault "gen_package" base.genPackage Tree.text?
    genImport := ← f.withDefault "gen_import" base.genImport Tree.text?
    receiver := ← f.withDefault "receiver" base.receiver Tree.text?
    catalog := ← f.withDefault "catalog" {} CatalogSource.ofTree?
    tables := ← f.withDefault "tables" [] (Tree.listOf Tree.text?)
    interfaces := ← f.withDefault "interfaces" [] (Tree.listOf InterfaceSource.ofTree?) }

/-- The configuration of a text, which is not checked. -/
def parse (contents : String) : Except ConfigError Config :=
  match (Yaml.parse contents).bind ofTree? with
  | some c => .ok c
  | none => .error .malformed

/-- The configuration of a file. -/
def load (read : FileReader) (path : String) : Except ConfigError Config := do
  match read path with
  | .error reason => throw (.unreadable path reason)
  | .ok contents =>
    let c ← parse contents
    let c := match Path.parent? path with
      | some base => c.resolve base
      | none => c
    c.check
    return c

theorem check_of_load {read : FileReader} {path : String} {c : Config}
    (h : load read path = .ok c) : c.check = .ok () := by
  unfold load at h
  split at h
  · simp [throw, throwThe, MonadExceptOf.throw] at h
  · simp only [bind, Except.bind] at h
    split at h
    · simp at h
    · split at h
      · simp at h
      · rename_i hc
        simp only [pure, Except.pure, Except.ok.injEq] at h
        rw [← h]; exact hc

end Config

end QueryGen
