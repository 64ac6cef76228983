/-
# Checking many features

Features do not depend on each other: each is visited on its own, and the reports
come back in the order of the features. If one of them fails, so does the batch.

Key definitions: `FeatureReport`, `Catalog.checkAll`.
-/
import TagRules.Catalog

namespace TagRules

/-- The findings of one feature. -/
structure FeatureReport where
  id : String
  kind : FeatureKind
  /-- in the order of the rules -/
  findings : List Finding
deriving DecidableEq, Repr

namespace FeatureReport

/-- Whether there are no findings. -/
def isClean (r : FeatureReport) : Bool := r.findings.isEmpty

end FeatureReport

namespace Catalog

/-- Check one feature. -/
def checkOne (verifyGuards : Bool) (c : Catalog) (f : Feature) :
    Traced Site (Except EvalError FeatureReport) :=
  (c.findings verifyGuards f.kind f.tags).map (·.map fun findings => ⟨f.id, f.kind, findings⟩)

/-- Check features in order, up to the first error. -/
def checkAll (verifyGuards : Bool) (c : Catalog) :
    List Feature → Traced Site (Except EvalError (List FeatureReport))
  | [] => .pure (.ok [])
  | f :: fs =>
    (c.checkOne verifyGuards f).andThen fun
      | .error e => .pure (.error e)
      | .ok report => (checkAll verifyGuards c fs).map (·.map (report :: ·))

end Catalog

end TagRules
