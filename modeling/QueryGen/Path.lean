import QueryGen.Text.Basic

/-!
# Paths

Paths are texts whose parts are set apart by slashes. Nothing is looked up in a file system.

- `join`: a path inside a directory.
- `fileName?`, `extension?`: the last part of a path, and what stands behind its last dot.
- `parent?`: the path without its last part.
- `parts`: the parts of a path, without those that mean nothing.
-/

namespace QueryGen.Path

def isAbsolute (path : String) : Bool := path.toList.head? == some '/'

/-- A path inside a directory. An absolute path stays what it is. -/
def join (base path : String) : String :=
  if isAbsolute path then path
  else match base.toList.getLast? with
    | none => path
    | some last => if last = '/' then base ++ path else base ++ "/" ++ path

/-- An empty part, or a dot: the directory itself. -/
def isVoid (part : List Char) : Bool := part == [] || part == ['.']

/-- The parts of a path that lead somewhere. -/
def parts (path : String) : List String :=
  ((Text.splitOn '/' path.toList).filter (!isVoid ·)).map String.ofList

/-- The name of the file or directory that a path leads to. -/
def fileName? (path : String) : Option String :=
  (parts path).getLast?.filter (· ≠ "..")

/-- What stands behind the last dot of the file name. A dot in front of the name does not count. -/
def extension? (path : String) : Option String := do
  let name ← fileName? path
  let (stem, extension) ← Text.cutLast? (· == '.') name.toList
  if stem = [] then none else some (.ofList extension)

/-- Drops void parts from the end of a list of parts, but not the first part. -/
def dropVoid : List (List Char) → List (List Char)
  | [] => []
  | first :: rest => first :: (rest.reverse.dropWhile isVoid).reverse

/-- The path without its last part. A path without parts has no parent. -/
def parent? (path : String) : Option String :=
  match dropVoid (Text.splitOn '/' path.toList) with
  | [] | [[]] => none
  | [_] => some ""
  | parts => match dropVoid parts.dropLast with
    | [[]] => some "/"
    | parts => some (.ofList (Text.join ['/'] parts))

@[simp] theorem join_of_isAbsolute {base path : String} (h : isAbsolute path = true) :
    join base path = path := by
  simp [join, h]

@[simp] theorem join_empty (path : String) : join "" path = path := by
  simp [join]

end QueryGen.Path
