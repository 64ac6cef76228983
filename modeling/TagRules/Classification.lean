/-
# Classes of rules

Each rule reports under a class. What is known of a class serves to group and
filter reports; the evaluation of rules never looks at it.

Key definition: `Classification`.
-/
import TagRules.Sorted.Set

namespace TagRules

/-- What is known of one class. -/
structure Classification where
  id : UInt32
  /-- The number of the item to which the class belongs. -/
  item : UInt32
  /-- Severity, from 1 (major) to 3 (minor). -/
  level : UInt8
  /-- Words by which classes are grouped. -/
  tags : SortedSet String
  /-- A title for people; it may hold slot references. -/
  title : Option String
deriving DecidableEq, Repr

end TagRules
