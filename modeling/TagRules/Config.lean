/-
# Configuration

A configuration bounds patterns, says whether guards are checked, and chooses the
form of the output. Everything has a standard value, so an empty text is a
configuration.

A configuration is looked for in a file that the caller names; else in the project's
file in the current directory, and then in the user's file below the home directory.

Key definitions: `Config`, `Config.read?`, `configCandidates`.
-/
import TagRules.Data.Record
import TagRules.Data.Toml.Reader
import TagRules.Pattern

namespace TagRules

open Data (Value Format Fields)

/-- A configuration. -/
structure Config where
  /-- the bounds on patterns -/
  limits : PatternLimits
  /-- whether guards are checked when they reject a feature -/
  verifyGuards : Bool
  /-- whether output is JSON -/
  json : Bool
deriving DecidableEq, Repr

namespace Config

/-- The configuration of an empty text. -/
def standard : Config := ⟨.standard, false, false⟩

def readSize? (v : Value) : Option Nat := v.below? UInt64.size

def readLimits? (format : Format) (v : Value) : Option PatternLimits := do
  let fs ← Fields.open? format ["size_limit", "max_pattern_len"] v
  let programSize ← fs.orElse? "size_limit" PatternLimits.standard.programSize readSize?
  let sourceLength ← fs.orElse? "max_pattern_len" PatternLimits.standard.sourceLength readSize?
  pure ⟨programSize, sourceLength⟩

/-- Read a section with one switch, which is off unless it is given. -/
def readSwitch? (format : Format) (name : String) (v : Value) : Option Bool := do
  let fs ← Fields.open? format [name] v
  fs.orElse? name false Value.bool?

/-- Read a configuration from a value. -/
def ofValue? (format : Format) (v : Value) : Option Config := do
  let fs ← Fields.open? format ["regex", "dispatch", "output"] v
  let limits ← fs.orElse? "regex" .standard (readLimits? format)
  let verifyGuards ← fs.orElse? "dispatch" false (readSwitch? format "verify_guards")
  let json ← fs.orElse? "output" false (readSwitch? format "json")
  pure ⟨limits, verifyGuards, json⟩

def read? (source : String) : Option Config := (Data.Toml.read? source).bind (ofValue? .toml)

end Config

/-- A path below a directory. An absolute path stays as it is. -/
def joinPath (directory path : String) : String :=
  if path.startsWith "/" || directory.isEmpty then path
  else if directory.endsWith "/" then directory ++ path
  else directory ++ "/" ++ path

/-- The files in which a configuration is looked for, the first one first. -/
def configCandidates (named : Option String) (current home : String) : List String :=
  match named with
  | some path => [path]
  | none =>
    [joinPath current "tagcheck.toml",
     joinPath (joinPath home ".config/tagcheck") "config.toml"]

end TagRules
