/-
# Catalogs

A catalog holds compiled rules, the classes under which they report, and for each
kind of features the positions of the rules that apply to it. It never changes;
evaluating features against it gives findings and a trace of searches.

A feature is visited by all rules that apply to its kind, in catalog order; the first
error ends the visit.

Key definitions: `Catalog`, `Catalog.ofRules`, `Catalog.applicable`, `Catalog.findings`.
-/
import TagRules.Classification
import TagRules.Rule
import TagRules.Sorted.Map

namespace TagRules

/-- The position of a pattern in a catalog. -/
structure Site where
  rule : Nat
  clause : Nat
  test : Nat
deriving DecidableEq, Repr

/-- For each kind of features, positions of rules. -/
structure KindIndex where
  node : List Nat
  line : List Nat
  area : List Nat
deriving DecidableEq, Repr

namespace KindIndex

def empty : KindIndex := ⟨[], [], []⟩

def positions (x : KindIndex) : FeatureKind → List Nat
  | .node => x.node
  | .line => x.line
  | .area => x.area

/-- One more position in front of those of a kind. -/
def cons (x : KindIndex) (position : Nat) : FeatureKind → KindIndex
  | .node => { x with node := position :: x.node }
  | .line => { x with line := position :: x.line }
  | .area => { x with area := position :: x.area }

/-- The positions of rules that are numbered from `first`, in order. A kind that a rule
names twice counts once. -/
def ofRules (first : Nat) : List Rule → KindIndex
  | [] => empty
  | r :: rs =>
    (FeatureKind.all.filter r.appliesTo).foldl (fun x kind => x.cons first kind)
      (ofRules (first + 1) rs)

end KindIndex

/-- Rules and classes, ready for evaluation. -/
structure Catalog where
  rules : List Rule
  /-- What is known of each class, by its id. -/
  classes : SortedMap UInt32 Classification
  index : KindIndex
deriving Repr

namespace Catalog

/-- The catalog of given rules and classes. -/
def ofRules (rules : List Rule) (classes : SortedMap UInt32 Classification) : Catalog :=
  ⟨rules, classes, .ofRules 0 rules⟩

/-- The first rule of an id, with its position. -/
def rule? (c : Catalog) (id : String) : Option (Nat × Rule) :=
  (c.rules.zipIdx.find? (·.1.id = id)).map fun e => (e.2, e.1)

/-- The rules that apply to a kind, in catalog order, with their positions. -/
def applicable (c : Catalog) (kind : FeatureKind) : List (Nat × Rule) :=
  (c.index.positions kind).filterMap fun i => (c.rules[i]?).map fun r => (i, r)

/-- What is known of a class. -/
def class? (c : Catalog) (id : UInt32) : Option Classification := c.classes.get? id

/-- The number of clauses of all rules. -/
def clauseCount (c : Catalog) : Nat := (c.rules.flatMap (·.clauses)).length

/-- The number of rules that report under a class. -/
def ruleCount (c : Catalog) (id : UInt32) : Nat := c.rules.countP (·.classId = id)

/-- Evaluate the rule at a position. -/
def runRule (verifyGuards : Bool) (position : Nat) (r : Rule) (tags : TagSet) :
    Traced Site (Except EvalError (Option Finding)) :=
  (r.run verifyGuards tags).relabel fun (clause, test) => ⟨position, clause, test⟩

/-- Evaluate rules in order and collect their findings, up to the first error. -/
def runRules (verifyGuards : Bool) (tags : TagSet) :
    List (Nat × Rule) → Traced Site (Except EvalError (List Finding))
  | [] => .pure (.ok [])
  | (i, r) :: rest =>
    (runRule verifyGuards i r tags).andThen fun
      | .error e => .pure (.error e)
      | .ok finding => (runRules verifyGuards tags rest).map (·.map (finding.toList ++ ·))

/-- Evaluate all rules that apply to a kind. -/
def findings (verifyGuards : Bool) (c : Catalog) (kind : FeatureKind) (tags : TagSet) :
    Traced Site (Except EvalError (List Finding)) :=
  runRules verifyGuards tags (c.applicable kind)

/-- The positions of all patterns, in catalog order, with the patterns. -/
def patternSites (c : Catalog) : List (Site × Pattern) :=
  c.rules.zipIdx.flatMap fun (r, i) =>
    r.clauses.zipIdx.flatMap fun (clause, j) =>
      clause.tests.zipIdx.filterMap fun (t, k) =>
        t.predicate.pattern?.map fun p => (⟨i, j, k⟩, p)

/-- How often any pattern of the catalog was searched for, going by a record of searches. -/
def searchCount (c : Catalog) (record : List Site) : Nat :=
  c.patternSites.foldl (fun n e => n + record.count e.1) 0

end Catalog

end TagRules
