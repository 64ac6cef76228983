/-
# Rules

A rule is a list of clauses with one guard, one message and one class. The guard is
asked first; if it lets the tags through, the first clause that matches wins, and
what it captured fills in the message. So a rule reports at most one finding.

The guard can be checked too: the clauses are then tried even if it rejects the tags,
and a match is an error of the rule. So is a message that reads a slot that the
winning clause does not bind. Both are errors of the rule, never of the tags.

Key definitions: `Rule`, `EvalError`, `Rule.run`.
-/
import TagRules.Feature
import TagRules.Finding
import TagRules.Guard
import TagRules.Template

namespace TagRules

/-- A compiled rule. -/
structure Rule where
  id : String
  /-- The class under which the rule reports. -/
  classId : UInt32
  /-- The kinds of features to which the rule applies. -/
  kinds : List FeatureKind
  guard : Guard
  /-- The alternatives, in the order in which they are tried. -/
  clauses : List Clause
  message : Template
deriving Repr

/-- Defects of a rule that show when it is evaluated. -/
inductive EvalError
  /-- The message reads a slot that the winning clause did not bind. -/
  | unresolvedPlaceholder (rule : String) (slot : Nat)
  /-- The guard rejected tags that a clause matches. -/
  | guardUnsound (rule : String) (clause : Nat)
deriving DecidableEq, Repr

namespace EvalError

/-- The error in words. -/
def message : EvalError → String
  | .unresolvedPlaceholder rule slot =>
    "rule " ++ rule ++ ": placeholder references slot " ++ toString slot ++
      " which was never captured"
  | .guardUnsound rule clause =>
    "rule " ++ rule ++ ": guard rejected tags matched by clause " ++ toString clause

end EvalError

/-- The first clause that matches, with its position and captures. Clauses are numbered
from `first`; a search is placed by clause and test. -/
def firstMatch (tags : TagSet) (first : Nat) :
    List Clause → Traced (Nat × Nat) (Option (Nat × Clause × Captures))
  | [] => .pure none
  | c :: cs =>
    let tried := (c.run tags).relabel fun test => (first, test)
    match tried.result with
    | some captures => ⟨some (first, c, captures), tried.searches⟩
    | none =>
      let rest := firstMatch tags (first + 1) cs
      ⟨rest.result, tried.searches ++ rest.searches⟩

namespace Rule

/-- Whether the rule applies to a kind of features. -/
def appliesTo (r : Rule) (kind : FeatureKind) : Bool := r.kinds.contains kind

/-- The finding of a clause that won. -/
def report (r : Rule) (c : Clause) (captures : Captures) : Except EvalError Finding :=
  match r.message.render captures with
  | .ok text => .ok ⟨r.classId, c.subclass, text⟩
  | .error e => .error (.unresolvedPlaceholder r.id e.slot)

/-- Evaluate the rule on a tag set. With `verifyGuards`, the clauses are tried even if the
guard rejects the tags. -/
def run (verifyGuards : Bool) (r : Rule) (tags : TagSet) :
    Traced (Nat × Nat) (Except EvalError (Option Finding)) :=
  if r.guard.admits tags then
    (firstMatch tags 0 r.clauses).map fun
      | none => .ok none
      | some (_, c, captures) => (r.report c captures).map some
  else if verifyGuards then
    (firstMatch tags 0 r.clauses).map fun
      | none => .ok none
      | some (i, _, _) => .error (.guardUnsound r.id i)
  else .pure (.ok none)

end Rule

end TagRules
