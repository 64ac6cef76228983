/-
# Clauses

A clause is one alternative of a rule: a list of tests that all have to pass. They
run in order, and the first one that fails ends the attempt. Every attempt has a
fresh capture scope, so nothing is left over from an attempt that failed halfway.

Key definitions: `Clause`, `Clause.run`, `Clause.isMatch`,
`Clause.neededKeys`, `Clause.boundSlots`.
-/
import TagRules.Sorted.Set
import TagRules.Test
import TagRules.Traced

namespace TagRules

/-- One alternative of a rule. -/
structure Clause where
  /-- The tests, in the order in which they run. -/
  tests : List Test
  /-- Reported if this clause matches. -/
  subclass : UInt32
  /-- The text from which the clause was made, for people. -/
  selector : Option String
deriving Repr

/-- Run tests in order in one scope, until one fails. The tests are numbered from
`first`. -/
def runTests (tags : TagSet) (first : Nat) (captures : Captures) :
    List Test → Traced Nat (Option Captures)
  | [] => .pure (some captures)
  | t :: ts =>
    let v := t.run tags captures
    let here := if v.searched then [first] else []
    if v.passed then
      let rest := runTests tags (first + 1) v.captures ts
      ⟨rest.result, here ++ rest.searches⟩
    else ⟨none, here⟩

namespace Clause

/-- The keys that have to be there for the clause to match. -/
def neededKeys (c : Clause) : SortedSet String :=
  .ofList ((c.tests.filter (·.needsKey)).map (·.key))

/-- The slots that a test of the clause binds. -/
def boundSlots (c : Clause) : SortedSet Nat := .ofList (c.tests.filterMap (·.slot))

/-- The length of the scope that holds all slots of the clause. -/
def scopeLength (c : Clause) : Nat :=
  (c.tests.filterMap (·.slot)).foldl (fun n i => max n (i + 1)) 0

/-- Attempt the clause: the captures if all tests pass, and the positions of the tests
whose pattern was searched for. -/
def run (c : Clause) (tags : TagSet) : Traced Nat (Option Captures) :=
  runTests tags 0 .empty c.tests

def isMatch (c : Clause) (tags : TagSet) : Bool := (c.run tags).result.isSome

/-- The clause in the notation of selectors. -/
def text (c : Clause) : String := String.join (c.tests.map (·.text))

end Clause

end TagRules
