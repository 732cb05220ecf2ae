import QueryGen.Text.Basic

/-!
# Command lines

- `Command`: what a run is asked to do.
- `Setting`: an option with its value.
- `Request.ofArgs`: the request of a command line.
- `usage`, `UsageError.message`: what is said about the command line itself.
-/

namespace QueryGen

/-- What a run is asked to do. -/
structure Command where
  /-- The path of the configuration. -/
  config : String := "sqlgen.yaml"
  /-- Takes the place of the directory in the configuration. -/
  outDir : Option String := none
  /-- Files are named and not written. -/
  dryRun : Bool := false
  /-- The name of the methods whose clause trees are shown. -/
  dump : Option String := none
  logLevel : Option String := none
deriving DecidableEq, Repr, Inhabited

inductive Request where
  | run (command : Command)
  | help
  | version
deriving DecidableEq, Repr, Inhabited

/-- Why a command line is no request. -/
inductive UsageError where
  | unexpected (argument : String)
  | missingValue (option : String)
  | needlessValue (option : String)
  | repeated (option : String)
deriving DecidableEq, Repr, Inhabited

/-! ## Options -/

/-- The options that take a value. -/
inductive ValueOption where
  | config | outDir | dump | logLevel
deriving DecidableEq, Repr

namespace ValueOption

def ofName? : String → Option ValueOption
  | "config" => some config
  | "out-dir" => some outDir
  | "dump-ir" => some dump
  | "log-level" => some logLevel
  | _ => none

def name : ValueOption → String
  | config => "--config"
  | outDir => "--out-dir"
  | dump => "--dump-ir"
  | logLevel => "--log-level"

/-- A path has at least one character. -/
def isPath : ValueOption → Bool
  | config | outDir => true
  | dump | logLevel => false

end ValueOption

/-- An option with its value. -/
inductive Setting where
  | value (option : ValueOption) (text : String)
  | dryRun
deriving DecidableEq, Repr

/-- Whether two settings are of one option. -/
def Setting.clashes : Setting → Setting → Bool
  | value o _, value p _ => o == p
  | dryRun, dryRun => true
  | _, _ => false

def Setting.name : Setting → String
  | value o _ => o.name
  | dryRun => "--dry-run"

/-- The command with one setting changed. -/
def Command.set (c : Command) : Setting → Command
  | .value .config text => { c with config := text }
  | .value .outDir text => { c with outDir := some text }
  | .value .dump text => { c with dump := some text }
  | .value .logLevel text => { c with logLevel := some text }
  | .dryRun => { c with dryRun := true }

/-! ## Arguments -/

/-- An argument by its shape. -/
inductive Argument where
  /-- Two dashes and a name, and the text behind an equals sign. -/
  | long (name : String) (value : Option String)
  /-- A dash and letters. -/
  | short (letters : List Char)
  | plain (text : String)
deriving DecidableEq, Repr

def Argument.ofText (s : String) : Argument :=
  match s.toList with
  | '-' :: '-' :: rest =>
    match Text.cutFirst? (· == '=') rest with
    | some (name, value) => .long (.ofList name) (some (.ofList value))
    | none => .long (.ofList rest) none
  | '-' :: c :: rest => .short (c :: rest)
  | _ => .plain s

/-- Whether an argument may be the value of an option before it. A dash alone may. -/
def isValue (s : String) : Bool :=
  match Argument.ofText s with
  | .plain _ => true
  | _ => false

/-- What an argument comes to. -/
inductive Reading where
  | setting (s : Setting)
  /-- The value is the next argument. -/
  | open (option : ValueOption)
  | help
  | version
deriving DecidableEq, Repr

/-- What letters behind a dash come to. Behind the letter of an option stands its value. -/
def readLetters : List Char → Except UsageError Reading
  | 'h' :: _ => .ok .help
  | 'V' :: _ => .ok .version
  | ['c'] => .ok (.open .config)
  | 'c' :: '=' :: value => .ok (.setting (.value .config (.ofList value)))
  | 'c' :: value => .ok (.setting (.value .config (.ofList value)))
  | letters => .error (.unexpected (.ofList ('-' :: letters.take 1)))

/-- What an argument comes to. -/
def Argument.read : Argument → Except UsageError Reading
  | plain text => .error (.unexpected text)
  | short letters => readLetters letters
  | long name value =>
    match ValueOption.ofName? name, value with
    | some o, some text => .ok (.setting (.value o text))
    | some o, none => .ok (.open o)
    | none, value =>
      let flag : Option Reading := match name with
        | "dry-run" => some (.setting .dryRun)
        | "help" => some .help
        | "version" => some .version
        | _ => none
      match flag, value with
      | some r, none => .ok r
      | some _, some _ => .error (.needlessValue ("--" ++ name))
      | none, _ => .error (.unexpected ("--" ++ name))

/-! ## Command lines -/

/-- Adds a setting to those before it. No option may be set twice, and no path may be empty. -/
def addSetting (before : List Setting) (s : Setting) : Except UsageError (List Setting) :=
  let isEmpty := match s with
    | .value o text => o.isPath && text.isEmpty
    | .dryRun => false
  if before.any (·.clashes s) then .error (.repeated s.name)
  else if isEmpty then .error (.missingValue s.name)
  else .ok (before ++ [s])

/-- The request of arguments that follow settings. -/
def readArgs (before : List Setting) : List String → Except UsageError Request
  | [] => .ok (.run (before.foldl Command.set {}))
  | "--" :: rest =>
    match rest with
    | [] => .ok (.run (before.foldl Command.set {}))
    | text :: _ => .error (.unexpected text)
  | arg :: rest => do
    match ← (Argument.ofText arg).read with
    | .help => return .help
    | .version => return .version
    | .setting s => readArgs (← addSetting before s) rest
    | .open o =>
      match rest with
      | [] => throw (.missingValue o.name)
      | value :: rest =>
        if isValue value then readArgs (← addSetting before (.value o value)) rest
        else throw (.missingValue o.name)

/-- The request of a command line. -/
def Request.ofArgs (args : List String) : Except UsageError Request := readArgs [] args

/-! ## Help -/

def version : String := "sqlgen 0.1.0"

/-- How the program is called. -/
def usage : String :=
  "Go query code generator driven by SQL templates in interface doc comments\n\n" ++
  "Usage: sqlgen [OPTIONS]\n\n" ++
  "Options:\n" ++
  "  -c, --config <CONFIG>        Path of the YAML config file [default: sqlgen.yaml]\n" ++
  "      --out-dir <OUT_DIR>      Override the query package output directory\n" ++
  "      --dry-run                Print the files that would be written without writing them\n" ++
  "      --dump-ir <METHOD>       Print the compiled clause tree of methods with this name as " ++
    "JSON\n" ++
  "      --log-level <LOG_LEVEL>  Log filter, overriding RUST_LOG (e.g. `debug`, " ++
    "`sqlgen_codegen=trace`)\n" ++
  "  -h, --help                   Print help\n" ++
  "  -V, --version                Print version\n"

def UsageError.message : UsageError → String
  | unexpected argument => "unexpected argument '" ++ argument ++ "' found"
  | missingValue option => "a value is required for '" ++ option ++ "' but none was supplied"
  | needlessValue option => "unexpected value for '" ++ option ++ "' found; no more were expected"
  | repeated option => "the argument '" ++ option ++ "' cannot be used multiple times"

@[simp] theorem ofArgs_nil : Request.ofArgs [] = .ok (.run {}) := rfl

end QueryGen
