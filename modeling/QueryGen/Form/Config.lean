import QueryGen.Config.Basic
import QueryGen.Data.Json

/-!
# Configurations as JSON

- `Config.toJson`: all fields of a configuration.
-/

namespace QueryGen

open Json (str)

def CatalogSource.toJson (s : CatalogSource) : Json :=
  .record [("schema_file", Json.ofOption str s.schemaFile),
    ("connection_string", Json.ofOption str s.connection)]

def InterfaceSource.toJson (i : InterfaceSource) : Json :=
  .record [("source", str i.path), ("name", str i.name), ("apply_to", Json.texts i.applyTo)]

def Config.toJson (c : Config) : Json :=
  .record [("out_dir", str c.outDir), ("model_dir", Json.ofOption str c.modelDir),
    ("model_source", Json.ofOption str c.modelSource), ("query_package", str c.queryPackage),
    ("model_package", str c.modelPackage), ("model_import", str c.modelImport),
    ("dialect", str c.dialect.name), ("bind_style", str c.bindStyle.name),
    ("gen_package", str c.genPackage), ("gen_import", str c.genImport),
    ("receiver", str c.receiver), ("catalog", c.catalog.toJson), ("tables", Json.texts c.tables),
    ("interfaces", Json.array InterfaceSource.toJson c.interfaces)]

end QueryGen
