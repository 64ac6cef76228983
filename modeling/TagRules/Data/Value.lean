/-
# Values of data formats

What a text in a data format says, before it is known what it should be: numbers,
texts, lists and tables. The fields of a table stay in the order in which they are
written, and a name may occur more than once.

A text may be well formed and yet hold escapes that spell half of a character. Such a
value can be skipped, but it cannot be read as anything.

Key definition: `Value`.
-/

namespace TagRules.Data

/-- A value of a data format. -/
inductive Value
  | null
  | bool (b : Bool)
  | integer (n : Int)
  /-- a number that is no integer, as it is written -/
  | real (written : String)
  | text (s : String)
  | list (items : List Value)
  | table (fields : List (String × Value))
  /-- what can only be skipped -/
  | unreadable
deriving Repr, Inhabited

namespace Value

/-- The value of a natural number. -/
def nat (n : Nat) : Value := .integer n

/-- A table without the fields that have no value. -/
def record (fields : List (String × Option Value)) : Value :=
  .table (fields.filterMap fun e => e.2.map fun v => (e.1, v))

end Value

end TagRules.Data
