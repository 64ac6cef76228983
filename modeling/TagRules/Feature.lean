/-
# Map features and their kinds

A rule applies to features of certain geometry kinds; a feature has an
identifier, a kind and tags.

Key definitions: `FeatureKind`, `FeatureKind.ofText?`, `Feature`.
-/
import TagRules.TagSet

namespace TagRules

/-- The geometry kind of a map feature. -/
inductive FeatureKind
  /-- a point -/
  | node
  /-- a line -/
  | line
  /-- an area -/
  | area
deriving DecidableEq, Repr, Inhabited

namespace FeatureKind

def all : List FeatureKind := [.node, .line, .area]

/-- The name under which a kind is written. -/
def name : FeatureKind → String
  | .node => "node"
  | .line => "line"
  | .area => "area"

def ofName? (text : String) : Option FeatureKind := all.find? (·.name = text)

/-- The kind that a person names. Letter case does not matter, and the names that
map editors use for the kinds are known too. Only ASCII letters can spell one of
these names, whatever the case of the text. -/
def ofText? (text : String) : Option FeatureKind :=
  let lower := String.ofList (text.toList.map Char.toLower)
  if lower = "node" ∨ lower = "point" then some .node
  else if lower = "line" ∨ lower = "way" then some .line
  else if lower = "area" ∨ lower = "relation" then some .area
  else none

/-- What to say about a text that names no kind. -/
def unknownMessage (text : String) : String :=
  "Invalid feature kind: " ++ text ++ ". Use: node, line, area"

end FeatureKind

/-- A map feature to be checked. -/
structure Feature where
  /-- Chosen by whoever supplies the feature; reports repeat it. -/
  id : String
  kind : FeatureKind
  tags : TagSet
deriving DecidableEq, Repr

end TagRules
