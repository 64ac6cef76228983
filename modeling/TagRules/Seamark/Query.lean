/-
# Queries on seamarks

Short forms for the clauses of the seamark catalog. A query is a test together with
its text in the selector of the clause; the tests of a clause bind the slots 0, 1, 2
and so on.

Key definitions: `Query`, `clause`, `anyOf`.
-/
import TagRules.Definition

namespace TagRules.Seamark

/-- A test of a seamark's tag, with its text in a selector. -/
structure Query where
  test : TestDefinition
  text : String
deriving Repr

def key (name : String) : String := "seamark:" ++ name

/-- A key between quotes, as in a selector. -/
def quotedKey (name : String) : String := "\"" ++ key name ++ "\""

/-- Whether a value may stand in a selector without quotes. -/
def isWord (value : String) : Bool := value.toList.all fun c => c.isAlphanum || c = '_' || c = '-'

/-- A value as in a selector. -/
def quotedValue (value : String) : String := if isWord value then value else "\"" ++ value ++ "\""

def has (name : String) : Query :=
  ⟨⟨key name, .present, none, none⟩, "[" ++ quotedKey name ++ "]"⟩

def lacks (name : String) : Query :=
  ⟨⟨key name, .absent, none, none⟩, "[!" ++ quotedKey name ++ "]"⟩

def is (name value : String) : Query :=
  ⟨⟨key name, .eq, some value, none⟩, "[" ++ quotedKey name ++ "=" ++ quotedValue value ++ "]"⟩

/-- The value is a given one, which stands between quotes in the selector. -/
def isQuoted (name value : String) : Query :=
  ⟨⟨key name, .eq, some value, none⟩, "[" ++ quotedKey name ++ "=\"" ++ value ++ "\"]"⟩

def isNot (name value : String) : Query :=
  ⟨⟨key name, .ne, some value, none⟩, "[" ++ quotedKey name ++ "!=" ++ quotedValue value ++ "]"⟩

/-- The value has a given part. -/
def includes (name part : String) : Query :=
  ⟨⟨key name, .contains, some part, none⟩,
    "[" ++ quotedKey name ++ "*=" ++ quotedValue part ++ "]"⟩

/-- A pattern is found in the value. -/
def finds (name pattern : String) : Query :=
  ⟨⟨key name, .regex, some pattern, none⟩, "[" ++ quotedKey name ++ "=~/" ++ pattern ++ "/]"⟩

/-- A pattern is not found in the value. -/
def avoids (name pattern : String) : Query :=
  ⟨⟨key name, .notRegex, some pattern, none⟩, "[" ++ quotedKey name ++ "!~/" ++ pattern ++ "/]"⟩

/-- The pattern that finds any of some words. -/
def anyOf (words : List String) : String := String.intercalate "|" words

/-- Tests with the slots from `first` on. -/
def numbered (first : Nat) : List Query → List TestDefinition
  | [] => []
  | q :: qs => { q.test with slot := some first.toUInt64 } :: numbered (first + 1) qs

/-- The clause of a list of queries on a point. -/
def clause (queries : List Query) : ClauseDefinition where
  selector := some ("node" ++ String.join (queries.map (·.text)))
  subclass := none
  tests := numbered 0 queries

end TagRules.Seamark
