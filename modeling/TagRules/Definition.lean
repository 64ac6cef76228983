/-
# Definitions of rules

What a catalog says before it is checked: classes, and rules with clauses of tests.
These are plain data, and not every definition can be made into a catalog.

Key definitions: `TestDefinition`, `ClauseDefinition`, `RuleDefinition`,
`CatalogDefinition`.
-/
import TagRules.Classification
import TagRules.Feature
import TagRules.Test

namespace TagRules

structure TestDefinition where
  key : String
  op : Operator
  /-- The text to compare with, or the pattern to search for. -/
  value : Option String
  /-- The slot for what the test sees. -/
  slot : Option UInt64
deriving DecidableEq, Repr

/-- One alternative of a rule. -/
structure ClauseDefinition where
  /-- The text from which the clause was made, for people. -/
  selector : Option String
  /-- The subclass, if it is not that of the rule. -/
  subclass : Option UInt32
  tests : List TestDefinition
deriving DecidableEq, Repr

structure RuleDefinition where
  id : String
  classId : UInt32
  /-- The subclass of the clauses that have none of their own. -/
  subclass : Option UInt32
  kinds : List FeatureKind
  /-- The template of the message. -/
  message : String
  /-- The guard; without one, it is derived from the clauses. -/
  guard : Option (List (List String))
  clauses : List ClauseDefinition
deriving DecidableEq, Repr

namespace RuleDefinition

/-- The kinds of a rule that names none. -/
def standardKinds : List FeatureKind := [.node]

end RuleDefinition

/-- A whole catalog. -/
structure CatalogDefinition where
  classes : List Classification
  /-- The rules, in the order in which they are evaluated. -/
  rules : List RuleDefinition
deriving DecidableEq, Repr

end TagRules
