import QueryGen.Path

/-!
# Working directories

- `FileReader`: what reading a file gives.
- `FileError`: why a file cannot be read or written.
- `WorkDir`: the files below the directory in which the program runs.
- `WorkDir.read`, `WorkDir.write`: the contents of a file.
- `WorkDir.makeDirs`: a directory with all that lead to it.
-/

namespace QueryGen

/-- The contents of the file at a path, or the reason why there are none. -/
abbrev FileReader := String → Except String String

inductive FileError where
  | notFound | alreadyExists | notDirectory | isDirectory | nameTooLong | zeroInName
deriving DecidableEq, Repr, Inhabited

/-- The wording of an error, as the operating system gives it. A path with a zero never gets
there. -/
def FileError.message : FileError → String
  | notFound => "No such file or directory (os error 2)"
  | alreadyExists => "File exists (os error 17)"
  | notDirectory => "Not a directory (os error 20)"
  | isDirectory => "Is a directory (os error 21)"
  | nameTooLong => "File name too long (os error 36)"
  | zeroInName => "file name contained an unexpected NUL byte"

/-- The number of bytes that the name of a file may have. -/
def maxNameBytes : Nat := 255

/-- The number of bytes that a path may have. -/
def maxPathBytes : Nat := 4095

/-- Where a path leads: names to go down by, after two dots for each step up. -/
abbrev Location := List String

/-- The files that a run of the program sees. -/
structure WorkDir where
  files : List (Location × String)
  /-- Directories that no file has to stand in. -/
  dirs : List Location := []
deriving Repr, Inhabited

namespace WorkDir

def file? (d : WorkDir) (loc : Location) : Option String := d.files.lookup loc

/-- The working directory and those above it are there. Others are if something was put there. -/
def hasDir (d : WorkDir) (loc : Location) : Bool :=
  loc.all (· == "..") || loc == ["/"] || d.dirs.any (loc.isPrefixOf ·) ||
    d.files.any fun f => loc.isPrefixOf f.1 && f.1 != loc

def hasEntry (d : WorkDir) (loc : Location) : Bool := d.hasDir loc || (d.file? loc).isSome

/-- One step up. -/
def up (loc : Location) : Location :=
  match loc.getLast? with
  | none => [".."]
  | some ".." => loc ++ [".."]
  | some "/" => loc
  | some _ => loc.dropLast

/-- Follows the parts of a path. Every part but the last has to lead to a directory. -/
def walk (d : WorkDir) (loc : Location) : List (List Char) → Except FileError Location
  | [] => .ok loc
  | part :: rest =>
    if !d.hasEntry loc then .error .notFound
    else if !d.hasDir loc then .error .notDirectory
    else if Path.isVoid part then walk d loc rest
    else if part = ['.', '.'] then walk d (up loc) rest
    else if maxNameBytes < (String.ofList part).utf8ByteSize then .error .nameTooLong
    else walk d (loc ++ [.ofList part]) rest

/-- Where a path leads. -/
def locate (d : WorkDir) (path : String) : Except FileError Location :=
  if path = "" then .error .notFound
  else if path.contains '\x00' then .error .zeroInName
  else if maxPathBytes < path.utf8ByteSize then .error .nameTooLong
  else walk d (if Path.isAbsolute path then ["/"] else []) (Text.splitOn '/' path.toList)

/-- The contents of a file. -/
def open? (d : WorkDir) (path : String) : Except FileError String := do
  let loc ← d.locate path
  if d.hasDir loc then .error .isDirectory
  else match d.file? loc with
    | some text => .ok text
    | none => .error .notFound

/-- What reading a file gives. -/
def read (d : WorkDir) : FileReader := fun path => (d.open? path).mapError FileError.message

/-- Puts a file in place of one that may be there. -/
def put (d : WorkDir) (loc : Location) (text : String) : WorkDir :=
  { d with files := (loc, text) :: d.files.filter (·.1 != loc) }

/-- Writes a file into a directory that is there. -/
def write (d : WorkDir) (path text : String) : Except FileError WorkDir := do
  let loc ← d.locate path
  if d.hasDir loc then .error .isDirectory else .ok (d.put loc text)

/-- Makes a directory inside one that is there. -/
def makeDir (d : WorkDir) (path : String) : Except FileError WorkDir := do
  let loc ← d.locate path
  if d.hasEntry loc then .error .alreadyExists else .ok { d with dirs := loc :: d.dirs }

/-- Whether a path leads to a directory. -/
def isDir (d : WorkDir) (path : String) : Bool :=
  match d.locate path with
  | .ok loc => d.hasDir loc
  | .error _ => false

/-- Makes a directory, after up to `n` of those that lead to it. -/
def makeDirsWithin : Nat → WorkDir → String → WorkDir × Option FileError
  | 0, d, _ => (d, some .notFound)
  | n + 1, d, path =>
    if path = "" then (d, none)
    else match d.makeDir path with
      | .ok made => (made, none)
      | .error .notFound =>
        match makeDirsWithin n d ((Path.parent? path).getD "") with
        | (above, some e) => (above, some e)
        | (above, none) =>
          match above.makeDir path with
          | .ok made => (made, none)
          | .error e => (above, if above.isDir path then none else some e)
      | .error e => (d, if d.isDir path then none else some e)

/-- Makes a directory and those that lead to it, as far as they are missing. -/
def makeDirs (d : WorkDir) (path : String) : WorkDir × Option FileError :=
  makeDirsWithin (path.length + 1) d path

/-- A directory of files at relative paths. -/
def ofFiles (files : List (String × String)) : WorkDir where
  files := files.map fun (path, text) => (Path.parts path, text)

/-- The files below the working directory, by path. -/
def listing (d : WorkDir) : List (String × String) :=
  (d.files.filter fun f => f.1.head? != some ".." && f.1.head? != some "/").map fun (loc, text) =>
    ("/".intercalate loc, text)

@[simp] theorem file?_put (d : WorkDir) (loc : Location) (text : String) :
    (d.put loc text).file? loc = some text := by
  simp [put, file?]

end WorkDir

end QueryGen
