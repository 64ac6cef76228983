/-
# Reading records from values

A record is a table whose fields are known by name. Fields that are not known are
skipped; a known field that occurs twice is an error. A list may stand in place of a
table: its items are the fields in the order of their declaration, and the last ones
may be missing.

The formats differ in two points. In JSON a list must not be longer than the record,
and a name of an enumeration may also stand as the only field of a table, with `null`
as its value. In TOML further items are skipped, and the value there is an empty list
or table.

Key definitions: `Format`, `Fields.open?`, `Fields.required?`, `Fields.optional?`,
`Fields.orElse?`.
-/
import TagRules.Data.Value

namespace TagRules.Data

/-- The format of the text from which a value was read. -/
inductive Format
  | json
  | toml
deriving DecidableEq, Repr

/-- The fields of a record that has been opened. -/
structure Fields where
  get? : String → Option Value

namespace Fields

/-- Open a record with fields of the given names. -/
def open? (format : Format) (names : List String) : Value → Option Fields
  | .table fields =>
    if names.any fun name => 1 < fields.countP (·.1 = name) then none
    else some ⟨fun name => fields.lookup name⟩
  | .list items =>
    if format = .json ∧ names.length < items.length then none
    else some ⟨fun name => (names.zip items).lookup name⟩
  | _ => none

variable {α : Type}

def required? (fs : Fields) (name : String) (read : Value → Option α) : Option α :=
  (fs.get? name).bind read

/-- A field that has a standard value if it is missing. -/
def orElse? (fs : Fields) (name : String) (standard : α) (read : Value → Option α) : Option α :=
  match fs.get? name with
  | none => some standard
  | some v => read v

/-- A field that may be missing, or have no value. -/
def optional? (fs : Fields) (name : String) (read : Value → Option α) : Option (Option α) :=
  match fs.get? name with
  | none | some .null => some none
  | some v => (read v).map some

end Fields

namespace Value

variable {α : Type}

def text? : Value → Option String
  | .text s => some s
  | _ => none

def bool? : Value → Option Bool
  | .bool b => some b
  | _ => none

/-- A natural number below a bound. -/
def below? (bound : Nat) : Value → Option Nat
  | .integer (.ofNat n) => if n < bound then some n else none
  | _ => none

def list? (read : Value → Option α) : Value → Option (List α)
  | .list items => items.mapM read
  | _ => none

/-- A name of an enumeration. -/
def name? (format : Format) (ofName? : String → Option α) : Value → Option α
  | .text s => ofName? s
  | .table [(s, v)] =>
    match format, v with
    | .json, .null | .toml, .list [] | .toml, .table [] => ofName? s
    | _, _ => none
  | _ => none

end Value

end TagRules.Data
