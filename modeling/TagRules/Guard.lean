/-
# Guards

A guard is a quick check before the clauses of a rule: some conjunct has all its keys
in the tag set. It looks at keys only, never at values. It may let through tags that
no clause matches, but it must not hold back tags that some clause matches.

Key definitions: `Guard`, `Guard.ofConjuncts`, `Guard.ofClauses`, `Guard.admits`,
`Guard.covers`.
-/
import TagRules.Clause

namespace TagRules

/-- A disjunction of conjunctions of keys. -/
structure Guard where
  conjuncts : List (SortedSet String)
deriving DecidableEq, Repr

namespace Guard

/-- The guard with the given conjuncts. Their number and order stay; the order and
repetition of the keys in one do not matter. -/
def ofConjuncts (conjuncts : List (List String)) : Guard := ⟨conjuncts.map .ofList⟩

/-- The guard that clauses call for: the required keys of each, once, in order. -/
def ofClauses (clauses : List Clause) : Guard :=
  let keys : SortedSet (List String) := .ofList (clauses.map (·.neededKeys.toList))
  ofConjuncts keys.toList

def admits (g : Guard) (tags : TagSet) : Bool :=
  g.conjuncts.any fun keys => keys.toList.all tags.contains

/-- Whether some conjunct has no other keys than a clause requires. -/
def covers (g : Guard) (c : Clause) : Bool :=
  g.conjuncts.any fun keys => c.neededKeys.containsAll keys.toList

end Guard

end TagRules
