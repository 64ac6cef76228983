/-
# The tags of a feature

A tag set maps keys to values; each key occurs once, and the keys are kept in
order. It is built from pairs in the order in which they are given, so the last
value of a key counts.

Key definition: `TagSet`.
-/
import TagRules.Sorted.Map

namespace TagRules

/-- The tags of one feature: keys with their values. -/
abbrev TagSet := SortedMap String String

end TagRules
