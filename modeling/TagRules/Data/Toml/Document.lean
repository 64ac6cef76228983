/-
# Tables of a TOML document

A document is built up line by line. A header opens a table, or adds a table to a
list; a line with a key and a value adds a field to the table that is open. Keys may
be paths, and the tables on the way come into being when they are first named.

Nothing may be defined twice, so a table remembers how it came into being. A table
that a longer header implied may get a header of its own, once. A table that a path
of a key implied takes more fields by paths, but no header; and paths do not reach
into tables that have a header. A value that was written down is closed.

Key definitions: `Node`, `Node.addField?`, `Node.addTable?`, `Node.addItem?`.
-/
import TagRules.Data.Value

namespace TagRules.Data.Toml

/-- How a table came into being. -/
inductive Origin
  /-- by a header of its own, or as an item of a list -/
  | header
  /-- on the way of a longer header -/
  | implied
  /-- on the way of a path of keys -/
  | path
deriving DecidableEq, Repr

/-- A part of a document that is being built. -/
inductive Node
  /-- a value that is closed -/
  | value (v : Value)
  | table (origin : Origin) (fields : List (String × Node))
  /-- a list of tables: the last one, which is open, and those before it, last first -/
  | tables (last : List (String × Node)) (before : List (List (String × Node)))
deriving Repr, Inhabited

/-- The fields of a table. -/
abbrev NodeFields := List (String × Node)

mutual

/-- The value that a part stands for. -/
def Node.toValue : Node → Value
  | .value v => v
  | .table _ fields => .table (fieldValues fields)
  | .tables last before => .list ((tableValues before).reverse ++ [.table (fieldValues last)])

/-- The fields as values. -/
def fieldValues : List (String × Node) → List (String × Value)
  | [] => []
  | (k, n) :: rest => (k, n.toValue) :: fieldValues rest

/-- Tables as values. -/
def tableValues : List (List (String × Node)) → List Value
  | [] => []
  | fields :: rest => .table (fieldValues fields) :: tableValues rest

end

/-- Replace the field of a name, or add it at the end. -/
def setField (k : String) (n : Node) : NodeFields → NodeFields
  | [] => [(k, n)]
  | e :: rest => if e.1 = k then (k, n) :: rest else e :: setField k n rest

/-- Change the table at the end of a path, given how it came into being. Tables that are
missing on the way come into being as `missing`; a table with a header is not entered if
`missing` is a path of keys. -/
def change? (missing : Origin) (f : Origin → NodeFields → Option NodeFields) (origin : Origin) :
    List String → NodeFields → Option NodeFields
  | [], fields => f origin fields
  | k :: ks, fields =>
    match fields.lookup k with
    | none =>
      (change? missing f missing ks []).map fun sub => setField k (.table missing sub) fields
    | some (.table origin sub) =>
      if missing = .path ∧ origin = .header then none
      else (change? missing f origin ks sub).map fun sub => setField k (.table origin sub) fields
    | some (.tables last before) =>
      (change? missing f .header ks last).map fun last => setField k (.tables last before) fields
    | some (.value _) => none

/-- Change the table that a header has opened. -/
def inOpen? (f : NodeFields → Option NodeFields) (header : List String) (root : NodeFields) :
    Option NodeFields :=
  change? .implied (fun _ fields => f fields) .header header root

/-- Add a field to a table. The last name of the path is that of the field; if there are
others, the table that they lead to has to be one that paths make. -/
def addField? (path : List String) (name : String) (v : Value) (fields : NodeFields) :
    Option NodeFields :=
  change? .path (fun origin fields =>
    if !path.isEmpty && origin ≠ .path then none
    else if (fields.lookup name).isSome then none
    else some (setField name (.value v) fields)) .header path fields

/-- Open a table by its header. -/
def addTable? (path : List String) (name : String) (root : NodeFields) : Option NodeFields :=
  change? .implied (fun _ fields =>
    match fields.lookup name with
    | none => some (setField name (.table .header []) fields)
    | some (.table .implied sub) => some (setField name (.table .header sub) fields)
    | some _ => none) .header path root

/-- Add a table to a list by its header, and open it. -/
def addItem? (path : List String) (name : String) (root : NodeFields) : Option NodeFields :=
  change? .implied (fun _ fields =>
    match fields.lookup name with
    | none => some (setField name (.tables [] []) fields)
    | some (.tables last before) => some (setField name (.tables [] (last :: before)) fields)
    | some _ => none) .header path root

end TagRules.Data.Toml
