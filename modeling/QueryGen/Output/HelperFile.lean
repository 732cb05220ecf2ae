import QueryGen.Output.Layout

/-!
# The helper file

- `helperFile`: the Go source of the functions that join `where` and `set` blocks into a statement.
-/

namespace QueryGen.Output

/-- The name of the helper file. -/
def helperFileName : String := "gen_helper.go"

/-- The functions that join blocks. -/
def helperLines : List String :=
  ["// JoinWhereBuilder appends the condition collected in where to src as a",
   "// WHERE clause. Leading and trailing AND/OR connectors are dropped and",
   "// nothing is written when no condition remains.",
   "func JoinWhereBuilder(src *strings.Builder, where *strings.Builder) \x7b",
   "\tvalue := trimConnectors(strings.TrimSpace(where.String()))",
   "\tif value != \"\" \x7b",
   "\t\tsrc.WriteString(\"WHERE \")",
   "\t\tsrc.WriteString(value)",
   "\t\tsrc.WriteString(\" \")",
   "\t\x7d",
   "\x7d",
   "",
   "// JoinSetBuilder appends the assignments collected in set to src as a SET",
   "// clause. Commas at either end are dropped and nothing is written when no",
   "// assignment remains.",
   "func JoinSetBuilder(src *strings.Builder, set *strings.Builder) \x7b",
   "\tvalue := strings.Trim(set.String(), \", \")",
   "\tif value != \"\" \x7b",
   "\t\tsrc.WriteString(\"SET \")",
   "\t\tsrc.WriteString(value)",
   "\t\tsrc.WriteString(\" \")",
   "\t\x7d",
   "\x7d",
   "",
   "func trimConnectors(value string) string \x7b",
   "\tfor \x7b",
   "\t\tlower := strings.ToLower(value)",
   "\t\tswitch \x7b",
   "\t\tcase strings.HasPrefix(lower, \"and \") || strings.HasPrefix(lower, \"and(\"):",
   "\t\t\tvalue = strings.TrimSpace(value[3:])",
   "\t\tcase strings.HasPrefix(lower, \"or \") || strings.HasPrefix(lower, \"or(\"):",
   "\t\t\tvalue = strings.TrimSpace(value[2:])",
   "\t\tcase strings.HasSuffix(lower, \" and\"):",
   "\t\t\tvalue = strings.TrimSpace(value[:len(value)-3])",
   "\t\tcase strings.HasSuffix(lower, \" or\"):",
   "\t\t\tvalue = strings.TrimSpace(value[:len(value)-2])",
   "\t\tcase lower == \"and\" || lower == \"or\":",
   "\t\t\treturn \"\"",
   "\t\tdefault:",
   "\t\t\treturn value",
   "\t\t\x7d",
   "\t\x7d",
   "\x7d"]

/-- The Go source of the helper file of a package. -/
def helperFile (package : String) : String :=
  unlines (preamble package [{ path := "strings" }] ++ helperLines)

end QueryGen.Output
