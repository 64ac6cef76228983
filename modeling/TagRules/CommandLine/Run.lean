/-
# Running a command

What the program does with its arguments: it reads the configuration, then whatever
the command needs, and says what it has to say. The world is a `Host`: where the
program runs, and how it reads files. What the program says depends on nothing else but the
library of patterns.

The exit code is 0 if all went well, 1 if a check has findings, a catalog is not valid
or something could not be read, and 2 if the arguments make no sense.

Key definitions: `Host`, `Outcome`, `run`.
-/
import TagRules.Codec.Catalog
import TagRules.Codec.Feature
import TagRules.CommandLine.Arguments
import TagRules.CommandLine.Directory
import TagRules.Config
import TagRules.Report
import TagRules.Seamark.Catalog

namespace TagRules.CommandLine

open Data (Value)

/-- The program's view of the world. -/
structure Host (m : Type → Type) where
  /-- the directory in which the program runs -/
  current : String
  /-- the user's directory -/
  home : String
  /-- whether text is painted -/
  colours : Bool
  isFile : String → m Bool
  read : String → m (Except FileError String)
  standardInput : m (Except FileError String)

/-- What a run of the program leaves behind. -/
structure Outcome where
  code : Nat
  output : String
  /-- What went wrong. -/
  error : Option String
deriving DecidableEq, Repr

namespace Outcome

def done (output : String) : Outcome := ⟨0, output, none⟩

def failed (error : String) : Outcome := ⟨1, "", some error⟩

end Outcome

def programName : String := "tagcheck"

def programVersion : String := "0.1.0"

/-- The text of a request for help. -/
def helpText : String :=
  unlines
    ["Evaluate a catalog of compiled tag rules against map features.", "",
     "Each rule reports at most one finding per feature, rendered from",
     "the tags that matched. The seamark catalog is built in.", "",
     "Usage: tagcheck [OPTIONS] [COMMAND]", "",
     "Commands:",
     "  check     Check features from a JSON file (\"-\" for stdin)",
     "  classes   List the classification registry",
     "  validate  Build a catalog and report what it contains",
     "  version   Show version",
     "  help      Print this message or the help of the given subcommand(s)", "",
     "Options:",
     "  -v, --verbose        Enable verbose output",
     "      --json           Output in JSON format (machine-readable)",
     "      --config <FILE>  Config file (default: ./tagcheck.toml, then " ++
       "~/.config/tagcheck/config.toml)",
     "  -h, --help           Print help",
     "  -V, --version        Print version"]

/-- Write a value as JSON over several lines, or a text as it is. -/
def present (json : Bool) (v : Value) (text : String) : String :=
  if json then Data.Json.pretty v ++ "\n" else text

section

variable {m : Type → Type} [Monad m]

/-- The first path that leads to a file. -/
def firstFile? (host : Host m) : List String → m (Option String)
  | [] => pure none
  | path :: rest => do
    if ← host.isFile path then pure (some path) else firstFile? host rest

def readConfig (host : Host m) (path : String) : m (Except String Config) := do
  match ← host.read path with
  | .error _ => pure (.error ("failed to read config " ++ path))
  | .ok source =>
    match Config.read? source with
    | none => pure (.error ("failed to parse config " ++ path))
    | some config => pure (.ok config)

/-- The configuration: of the file that is named, which has to be there, else of the first
file that is found, else the standard one. -/
def loadConfig (host : Host m) (named : Option String) : m (Except String Config) := do
  match named with
  | some path => readConfig host path
  | none =>
    match ← firstFile? host (configCandidates none host.current host.home) with
    | some path => readConfig host path
    | none => pure (.ok .standard)

def catalogName (named : Option String) : String := named.getD "built-in seamark catalog"

/-- Build the catalog that is named, or the built-in one. An error is returned in words. -/
def loadCatalog (library : PatternLibrary) (host : Host m) (limits : PatternLimits)
    (named : Option String) : m (Except String Catalog) := do
  match named with
  | none => pure ((Seamark.catalog library limits).mapError (·.message))
  | some path =>
    match ← host.read path with
    | .error e => pure (.error ("failed to read catalog " ++ path ++ ": " ++ e.message))
    | .ok source =>
      match Catalog.read library limits source with
      | .ok c => pure (.ok c)
      | .error .notADefinition => pure (.error "failed to parse catalog")
      | .error (.defect e) => pure (.error e.message)

/-- Read the features of a file, or of standard input for a dash. -/
def loadFeatures (host : Host m) (path : String) : m (Except String (List Feature)) := do
  let source ←
    if path = "-" then
      pure ((← host.standardInput).mapError fun _ => "failed to read features from stdin")
    else pure ((← host.read path).mapError fun _ => "failed to read features " ++ path)
  match source with
  | .error e => pure (.error e)
  | .ok source =>
    match Feature.readAll? source with
    | none => pure (.error ("failed to parse features " ++ path))
    | some features => pure (.ok features)

/-- Check features against a catalog. The exit code says whether there are findings. -/
def checkOutcome (colours json verifyGuards : Bool) (c : Catalog) (features : List Feature) :
    Outcome :=
  match (c.checkAll verifyGuards features).result with
  | .error e => .failed e.message
  | .ok reports =>
    let result := CheckResult.ofReports reports c.rules.length
    ⟨if result.passed then 0 else 1, present json result.toValue (result.text colours), none⟩

/-- Carry out a command. -/
def carryOut (library : PatternLibrary) (host : Host m) (config : Config) (json : Bool) :
    Option Command → m Outcome
  | some (.check features named) => do
    match ← loadCatalog library host config.limits named with
    | .error _ => pure (.failed ("failed to load " ++ catalogName named))
    | .ok c =>
      match ← loadFeatures host features with
      | .error e => pure (.failed e)
      | .ok features => pure (checkOutcome host.colours json config.verifyGuards c features)
  | some (.classes named) => do
    match ← loadCatalog library host config.limits named with
    | .error _ => pure (.failed ("failed to load " ++ catalogName named))
    | .ok c =>
      let l := ClassList.ofCatalog c
      pure (.done (present json l.toValue (l.text host.colours)))
  | some (.validate named) => do
    let v := match ← loadCatalog library host config.limits named with
      | .ok c => Validation.ofCatalog (catalogName named) c
      | .error e => Validation.ofError (catalogName named) e
    pure ⟨if v.valid then 0 else 1, present json v.toValue (v.text host.colours), none⟩
  | some .version =>
    pure <| .done <|
      if json then Data.Json.compact (.table [("version", .text programVersion)]) ++ "\n"
      else unlines [programName ++ " v" ++ programVersion]
  | none =>
    pure <| .done <|
      if json then
        let hint := [("hint", Value.text "Use --help for usage"), ("version", .text programVersion)]
        Data.Json.compact (.table hint) ++ "\n"
      else
        unlines
          [programName ++ " v" ++ programVersion, "", "Run 'tagcheck --help' for usage",
           "Run 'tagcheck check features.json' to check features"]

/-- Run the program on its arguments, with patterns of the given library. -/
def run (library : PatternLibrary) (host : Host m) (arguments : List String) : m Outcome := do
  match Request.ofArguments arguments with
  | .misuse => pure ⟨2, "", none⟩
  | .help => pure (.done helpText)
  | .version => pure (.done (unlines [programName ++ " " ++ programVersion]))
  | .run i =>
    match ← loadConfig host i.config with
    | .error e => pure (.failed e)
    | .ok config => carryOut library host config (i.json || config.json) i.command

end

/-- The world of a directory held in memory, in which the program runs. Paths that are
absolute are known only below the name of the directory. -/
def Directory.host (d : Directory) (current home : String) (colours : Bool)
    (standardInput : String) : Host Id :=
  let relative? (path : String) : Option String :=
    if path = current then some "."
    else if (current ++ "/").isPrefixOf path then
      some (String.ofList (path.toList.drop (current.length + 1)))
    else if path.startsWith "/" then none
    else some path
  { current, home, colours
    isFile := fun path => (relative? path).any d.isFile
    read := fun path =>
      match relative? path with
      | some path => d.read (if path.isEmpty then "." else path)
      | none => .error .missing
    standardInput := .ok standardInput }

end TagRules.CommandLine
