/-
# Arguments of the command line

Options may stand before or after the name of a command. Those that every command
knows may stand in both places, and then the later value counts. A switch takes no
value, and no option may be given twice in one place; a value follows its option as
the next argument, unless that starts with a dash, or after an equals sign. After two
dashes there are no more options. Empty values are errors.

A request for help or the version ends the reading at once, so it wins over errors that
come later, and an error that comes earlier wins over it.

Key definitions: `Command`, `Invocation`, `Request`, `Request.ofArguments`.
-/

namespace TagRules.CommandLine

/-- What to do. -/
inductive Command
  /-- check the features of a file -/
  | check (features : String) (catalog : Option String)
  /-- list the classes of a catalog -/
  | classes (catalog : Option String)
  /-- build a catalog and say how large it is -/
  | validate (catalog : Option String)
  /-- say the version -/
  | version
deriving DecidableEq, Repr

/-- A command with the options that every command knows. -/
structure Invocation where
  verbose : Bool
  json : Bool
  config : Option String
  command : Option Command
deriving DecidableEq, Repr

/-- What the arguments ask for. -/
inductive Request
  | run (i : Invocation)
  | help
  | version
  /-- the arguments make no sense -/
  | misuse
deriving DecidableEq, Repr

inductive CommandName
  | check
  | classes
  | validate
  | version
deriving DecidableEq, Repr

def CommandName.ofText? : String → Option CommandName
  | "check" => some .check
  | "classes" => some .classes
  | "validate" => some .validate
  | "version" => some .version
  | _ => none

/-- The options and values read in one place: before a command, or after its name. -/
structure Given where
  verbose : Bool
  json : Bool
  config : Option String
  catalog : Option String
  /-- values that belong to no option, last first -/
  values : List String
deriving DecidableEq, Repr

def Given.empty : Given := ⟨false, false, none, none, []⟩

/-- How reading arguments may end before all are read. -/
inductive Stop
  | help
  | version
  | misuse
deriving DecidableEq, Repr

def Stop.request : Stop → Request
  | .help => .help
  | .version => .version
  | .misuse => .misuse

/-- Set a switch, which must not be set yet. -/
def Given.switch (g : Given) (name : String) : Except Stop Given :=
  match name with
  | "verbose" => if g.verbose then .error .misuse else .ok { g with verbose := true }
  | "json" => if g.json then .error .misuse else .ok { g with json := true }
  | _ => .error .misuse

/-- Set an option, which must not be set yet. -/
def Given.option (g : Given) (name value : String) : Except Stop Given :=
  if value.isEmpty then .error .misuse
  else
    match name with
    | "config" =>
      if g.config.isSome then .error .misuse else .ok { g with config := some value }
    | "catalog" =>
      if g.catalog.isSome then .error .misuse else .ok { g with catalog := some value }
    | _ => .error .misuse

/-- Whether an option takes a value in some place: only commands that use a catalog have
an option for it. -/
def takesValue (command : Option CommandName) (name : String) : Bool :=
  name = "config" ||
    (name = "catalog" && command.any fun c => c ≠ .version)

def Given.short (top : Bool) (g : Given) : List Char → Except Stop Given
  | [] => .ok g
  | 'v' :: cs =>
    match g.switch "verbose" with
    | .ok g => g.short top cs
    | .error e => .error e
  | 'h' :: _ => .error .help
  | 'V' :: _ => .error (if top then .version else .misuse)
  | _ => .error .misuse

/-- How many values a command takes that belong to no option. -/
def CommandName.arity : CommandName → Nat
  | .check => 1
  | _ => 0

def Given.value (g : Given) (command : CommandName) (text : String) : Except Stop Given :=
  if text.isEmpty || command.arity ≤ g.values.length then .error .misuse
  else .ok { g with values := text :: g.values }

def Given.addValues (g : Given) (command : Option CommandName) (texts : List String) :
    Except Stop Given :=
  match command with
  | none => if texts.isEmpty then .ok g else .error .misuse
  | some command => texts.foldlM (·.value command) g

/-- How an argument reads. -/
inductive Argument
  /-- two dashes: the rest are values -/
  | rest
  /-- a long option, perhaps with a value after an equals sign -/
  | long (name : String) (value : Option String)
  /-- short options -/
  | short (letters : List Char)
  | value (text : String)
deriving DecidableEq, Repr

/-- Read one argument. A single dash is a value. -/
def Argument.ofText (text : String) : Argument :=
  match text.toList with
  | ['-', '-'] => .rest
  | '-' :: '-' :: cs =>
    let name := cs.takeWhile (· ≠ '=')
    match cs.drop name.length with
    | [] => .long (String.ofList name) none
    | _ :: given => .long (String.ofList name) (some (String.ofList given))
  | '-' :: c :: cs => .short (c :: cs)
  | _ => .value text

/-- Whether an argument can be the value of the option before it. -/
def isValue (text : String) : Bool :=
  match Argument.ofText text with
  | .value _ => true
  | _ => false

/-- Read the arguments of one place. Before a command, the first value has to be its name,
and the arguments after it are returned; after it, values are collected. -/
def read (command : Option CommandName) (g : Given) :
    List String → Except Stop (Given × Option (String × List String))
  | [] => .ok (g, none)
  | text :: rest =>
    match Argument.ofText text with
    | .rest => (g.addValues command rest).map fun g => (g, none)
    | .long "help" none => .error .help
    | .long "version" none => .error (if command.isNone then .version else .misuse)
    | .long name none =>
      if takesValue command name then
        match rest with
        | value :: rest =>
          if isValue value then
            match g.option name value with
            | .ok g => read command g rest
            | .error e => .error e
          else .error .misuse
        | [] => .error .misuse
      else
        match g.switch name with
        | .ok g => read command g rest
        | .error e => .error e
    | .long name (some value) =>
      if takesValue command name then
        match g.option name value with
        | .ok g => read command g rest
        | .error e => .error e
      else .error .misuse
    | .short letters =>
      match g.short command.isNone letters with
      | .ok g => read command g rest
      | .error e => .error e
    | .value text =>
      match command with
      | none => .ok (g, some (text, rest))
      | some name =>
        match g.value name text with
        | .ok g => read command g rest
        | .error e => .error e

/-- The command of what is given after its name. -/
def CommandName.command? (name : CommandName) (g : Given) : Option Command :=
  match name, g.values with
  | .check, [features] => some (.check features g.catalog)
  | .classes, [] => some (.classes g.catalog)
  | .validate, [] => some (.validate g.catalog)
  | .version, [] => some .version
  | _, _ => none

/-- The request of the command `help`, which may name other commands. -/
def helpRequest : List String → Request
  | [] => .help
  | [name] => if name = "help" || (CommandName.ofText? name).isSome then .help else .misuse
  | _ => .misuse

/-- Read the arguments of the program. -/
def Request.ofArguments (arguments : List String) : Request :=
  match read none .empty arguments with
  | .error e => e.request
  | .ok (g, none) => .run ⟨g.verbose, g.json, g.config, none⟩
  | .ok (g, some (name, rest)) =>
    if name = "help" then helpRequest rest
    else
      match CommandName.ofText? name with
      | none => .misuse
      | some name =>
        match read (some name) .empty rest with
        | .error e => e.request
        | .ok (h, _) =>
          match name.command? h with
          | none => .misuse
          | some command =>
            .run ⟨g.verbose || h.verbose, g.json || h.json, h.config.or g.config, some command⟩

end TagRules.CommandLine
