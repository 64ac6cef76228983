/-
# Directories held in memory

A directory is given by its files: paths relative to it, with their texts. The
directories on the way to a file exist too. A path is followed name by name; it may go
up, but not out of the directory, and nothing can be below a file.

Key definitions: `Directory`, `Directory.find`, `Directory.read`.
-/

namespace TagRules.CommandLine

/-- Why a file cannot be read. -/
inductive FileError
  | missing
  /-- the path leads to a directory -/
  | isDirectory
  /-- the path leads below a file -/
  | notDirectory
  /-- the file is no text -/
  | notText
deriving DecidableEq, Repr

def FileError.message : FileError → String
  | .missing => "No such file or directory (os error 2)"
  | .isDirectory => "Is a directory (os error 21)"
  | .notDirectory => "Not a directory (os error 20)"
  | .notText => "stream did not contain valid UTF-8"

/-- A directory, as its files: the names on the way, and the text. -/
structure Directory where
  files : List (List String × String)
deriving Repr

/-- What a path leads to. -/
inductive Entry
  | file (text : String)
  | directory
deriving DecidableEq, Repr

namespace Directory

/-- The names of a path, without those that stay where they are. -/
def names (path : String) : List String :=
  (path.splitOn "/").filter fun name => name ≠ "" && name ≠ "."

/-- A directory with the given files. -/
def ofFiles (files : List (String × String)) : Directory :=
  ⟨files.map fun (path, text) => (names path, text)⟩

/-- What is at a place, given the names on the way. -/
def entry? (d : Directory) (place : List String) : Option Entry :=
  match d.files.lookup place with
  | some text => some (.file text)
  | none =>
    if place.isEmpty || d.files.any fun e => place.isPrefixOf e.1 then some .directory else none

/-- Follow names from a place. -/
def follow (d : Directory) (place : List String) : List String → Except FileError Entry
  | [] =>
    match d.entry? place with
    | some e => .ok e
    | none => .error .missing
  | name :: rest =>
    match d.entry? place with
    | none => .error .missing
    | some (.file _) => .error .notDirectory
    | some .directory =>
      if name = ".." then if place.isEmpty then .error .missing else follow d place.dropLast rest
      else follow d (place ++ [name]) rest

/-- What a relative path leads to. A path that ends in a slash leads to a directory or
nowhere. -/
def find (d : Directory) (path : String) : Except FileError Entry :=
  match d.follow [] (names path) with
  | .ok (.file text) =>
    if path.endsWith "/" || path.endsWith "/." then .error .notDirectory else .ok (.file text)
  | e => e

def isFile (d : Directory) (path : String) : Bool :=
  match d.find path with
  | .ok (.file _) => true
  | _ => false

def read (d : Directory) (path : String) : Except FileError String :=
  if path.isEmpty then .error .missing
  else
    match d.find path with
    | .ok (.file text) => .ok text
    | .ok .directory => .error .isDirectory
    | .error e => .error e

end Directory

end TagRules.CommandLine
