/-
# Tests of one tag

A test looks at one key of a tag set. Missing keys are never errors: a test for
absence or difference holds on them, and any other test fails.

A test may have a slot. It then binds what it saw there, whether it passes or not: a
comparison with a text first the tag and then the text, so that the text stays as the
value; a search for a pattern first the text of the pattern and then the tag, so that
the tag's value stays. Whether a test passes does not depend on the slot.

A pattern is searched for only if the key is present.

Key definitions: `Predicate`, `Test`, `Test.holds`, `Test.run`.
-/
import TagRules.Capture
import TagRules.Pattern
import TagRules.Text.Search

namespace TagRules

/-- What a test asks about its key. -/
inductive Predicate
  /-- the key is there -/
  | present
  /-- the key is not there -/
  | absent
  /-- the value is the text -/
  | equals (text : String)
  /-- the value is not the text, or the key is not there -/
  | differs (text : String)
  /-- the value has the text in it -/
  | contains (text : String)
  /-- the pattern is found in the value -/
  | finds (p : Pattern)
  /-- the pattern is not found in the value, or the key is not there -/
  | avoids (p : Pattern)
deriving Repr

/-- The operators of tests, as catalogs name them. -/
inductive Operator
  | present
  | absent
  | eq
  | ne
  | contains
  | regex
  | notRegex
deriving DecidableEq, Repr

namespace Operator

def all : List Operator := [.present, .absent, .eq, .ne, .contains, .regex, .notRegex]

def name : Operator → String
  | .present => "present"
  | .absent => "absent"
  | .eq => "eq"
  | .ne => "ne"
  | .contains => "contains"
  | .regex => "regex"
  | .notRegex => "not_regex"

def ofName? (text : String) : Option Operator := all.find? (·.name = text)

end Operator

namespace Predicate

def operator : Predicate → Operator
  | .present => .present
  | .absent => .absent
  | .equals _ => .eq
  | .differs _ => .ne
  | .contains _ => .contains
  | .finds _ => .regex
  | .avoids _ => .notRegex

/-- The text that a predicate compares with: a literal, or the text of a pattern. -/
def operand? : Predicate → Option String
  | .present | .absent => none
  | .equals text | .differs text | .contains text => some text
  | .finds p | .avoids p => some p.source

/-- The pattern that a predicate searches for. -/
def pattern? : Predicate → Option Pattern
  | .finds p | .avoids p => some p
  | _ => none

/-- Whether a predicate can only hold of a key that is there. -/
def needsKey : Predicate → Bool
  | .present | .equals _ | .contains _ | .finds _ => true
  | .absent | .differs _ | .avoids _ => false

/-- Whether a predicate holds of a value; `none` is the value of a missing key. -/
def holds : Predicate → Option String → Bool
  | .present, v => v.isSome
  | .absent, v => v.isNone
  | .equals text, v => v = some text
  | .differs text, v => v ≠ some text
  | .contains text, v => v.any (Text.hasPart · text)
  | .finds p, v => v.any p.found
  | .avoids p, v => !v.any p.found

end Predicate

/-- A test of one key. -/
structure Test where
  key : String
  predicate : Predicate
  /-- Where to bind what the test sees. -/
  slot : Option Nat
deriving Repr

/-- What one run of a test leaves behind. -/
structure Verdict where
  passed : Bool
  captures : Captures
  /-- Whether the pattern of the test was searched for. -/
  searched : Bool
deriving Repr

namespace Test

/-- Whether a test can only pass if its key is there. -/
def needsKey (t : Test) : Bool := t.predicate.needsKey

/-- Whether a test holds of a tag set. -/
def holds (t : Test) (tags : TagSet) : Bool := t.predicate.holds (tags.get? t.key)

/-- Whether a test searches for a pattern when it is run on a tag set. -/
def searches (t : Test) (tags : TagSet) : Bool :=
  t.predicate.pattern?.isSome && tags.contains t.key

/-- The value of the tested key, bound to the slot if there is one. -/
def lookup (t : Test) (tags : TagSet) (captures : Captures) : Option String × Captures :=
  match t.slot with
  | some i => captures.bindTag i tags t.key
  | none => (tags.get? t.key, captures)

/-- A text bound to the slot if there is one. -/
def bindText (t : Test) (text : String) (captures : Captures) : Captures :=
  match t.slot with
  | some i => captures.bindText i text
  | none => captures

/-- Run a test in a capture scope. -/
def run (t : Test) (tags : TagSet) (captures : Captures) : Verdict :=
  match t.predicate with
  | .present =>
    let (value, captures) := t.lookup tags captures
    ⟨value.isSome, captures, false⟩
  | .absent =>
    let (value, captures) := t.lookup tags captures
    ⟨value.isNone, captures, false⟩
  | .equals text =>
    let (value, captures) := t.lookup tags captures
    ⟨value = some text, t.bindText text captures, false⟩
  | .differs text =>
    let (value, captures) := t.lookup tags captures
    ⟨value ≠ some text, t.bindText text captures, false⟩
  | .contains text =>
    let (value, captures) := t.lookup tags captures
    ⟨value.any (Text.hasPart · text), t.bindText text captures, false⟩
  | .finds p =>
    let (value, captures) := t.lookup tags (t.bindText p.source captures)
    ⟨value.any p.found, captures, value.isSome⟩
  | .avoids p =>
    let (value, captures) := t.lookup tags (t.bindText p.source captures)
    ⟨!value.any p.found, captures, value.isSome⟩

/-- The test in the notation of selectors. Keys, texts and patterns are written as they
are, with no escapes. -/
def text (t : Test) : String :=
  let key := "\"" ++ t.key ++ "\""
  match t.predicate with
  | .present => "[" ++ key ++ "]"
  | .absent => "[!" ++ key ++ "]"
  | .equals v => "[" ++ key ++ "=\"" ++ v ++ "\"]"
  | .differs v => "[" ++ key ++ "!=\"" ++ v ++ "\"]"
  | .contains v => "[" ++ key ++ "*=\"" ++ v ++ "\"]"
  | .finds p => "[" ++ key ++ "=~/" ++ p.source ++ "/]"
  | .avoids p => "[" ++ key ++ "!~/" ++ p.source ++ "/]"

theorem fst_lookup (t : Test) (tags : TagSet) (captures : Captures) :
    (t.lookup tags captures).1 = tags.get? t.key := by
  unfold lookup
  split <;> rfl

/-- The verdict of a run is whether the test holds, whatever the scope. -/
theorem passed_run (t : Test) (tags : TagSet) (captures : Captures) :
    (t.run tags captures).passed = t.holds tags := by
  unfold run holds
  cases t.predicate <;> simp [fst_lookup, Predicate.holds]

/-- A run searches for a pattern exactly if there is one and the key is there. -/
theorem searched_run (t : Test) (tags : TagSet) (captures : Captures) :
    (t.run tags captures).searched = t.searches tags := by
  unfold run searches
  cases t.predicate <;> simp [fst_lookup, Predicate.pattern?, SortedMap.contains_eq_isSome]

end Test

end TagRules
