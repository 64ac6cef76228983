/-
# Building catalogs

Building a catalog checks its definition and compiles it. Nothing is checked again
later: a catalog that was built can be trusted by those who evaluate it.

Checks go through a definition in order and stop at the first defect. Classes come
first. Then each rule is checked as a whole, after it each of its clauses, and in a
clause each test; when the clauses are done, a guard that was given is checked against
them. A guard that was not given is derived.

Patterns are compiled by a library of regular expressions, within limits. A text that occurs as a
pattern more than once is compiled once: the searches for the patterns so far are kept by their
texts, from rule to rule.

Key definitions: `CatalogError`, `Build`, `Build.test`, `Build.clause`, `Build.rule`,
`CatalogDefinition.build`.
-/
import TagRules.Catalog
import TagRules.Definition
import TagRules.Fingerprint

namespace TagRules

/-- The highest slot that a test of a catalog may bind. -/
def maxSlot : Nat := 63

/-- Why a definition cannot be made into a catalog. Clauses are named by their
position in the rule. -/
inductive CatalogError
  /-- Two rules have the same id. -/
  | duplicateRule (rule : String)
  /-- Two classes have the same id. -/
  | duplicateClass (classId : UInt32)
  /-- A rule reports under a class that is not defined. -/
  | unknownClass (rule : String) (classId : UInt32)
  /-- A rule has no clauses. -/
  | emptyRule (rule : String)
  /-- A clause has no tests. -/
  | emptyClause (rule : String) (clause : Nat)
  /-- A test has no value, and its operator needs one. -/
  | missingValue (rule : String) (clause : Nat) (op : Operator) (key : String)
  /-- A test has a value, and its operator takes none. -/
  | unexpectedValue (rule : String) (clause : Nat) (op : Operator) (key : String)
  /-- A text is no pattern, or its program is too large. -/
  | invalidRegex (rule pattern : String)
  /-- The text of a pattern is too long. -/
  | patternTooLong (rule : String) (length limit : Nat)
  /-- A guard would reject tags that a clause matches. -/
  | unsoundGuard (rule : String) (clause : Nat)
  /-- A message reads a slot that a clause does not bind. -/
  | unboundPlaceholder (rule : String) (clause slot : Nat)
  /-- A message has a brace that looks like the start of a slot reference but is none. -/
  | malformedPlaceholder (rule text : String)
  /-- A slot is too high. -/
  | invalidSlot (rule : String) (clause slot : Nat)
deriving DecidableEq, Repr

namespace CatalogError

def clausePlace (rule : String) (clause : Nat) : String :=
  "rule " ++ rule ++ " clause " ++ toString clause

/-- The error in words. -/
def message : CatalogError → String
  | .duplicateRule rule => "duplicate rule id: " ++ rule
  | .duplicateClass id => "duplicate class id: " ++ toString id.toNat
  | .unknownClass rule id =>
    "rule " ++ rule ++ " references unknown class " ++ toString id.toNat
  | .emptyRule rule => "rule " ++ rule ++ " has no clauses"
  | .emptyClause rule clause => clausePlace rule clause ++ " has no tests"
  | .missingValue rule clause op key =>
    clausePlace rule clause ++ ": '" ++ op.name ++ "' test on " ++ key ++ " requires a value"
  | .unexpectedValue rule clause op key =>
    clausePlace rule clause ++ ": '" ++ op.name ++ "' test on " ++ key ++ " takes no value"
  | .invalidRegex rule pattern => "rule " ++ rule ++ ": invalid regex /" ++ pattern ++ "/"
  | .patternTooLong rule length limit =>
    "rule " ++ rule ++ ": regex of " ++ toString length ++ " bytes exceeds limit of " ++
      toString limit
  | .unsoundGuard rule clause =>
    "rule " ++ rule ++ ": guard does not cover clause " ++ toString clause
  | .unboundPlaceholder rule clause slot =>
    clausePlace rule clause ++ ": template references unbound slot " ++ toString slot
  | .malformedPlaceholder rule text =>
    "rule " ++ rule ++ ": malformed placeholder " ++ text ++ " in message template"
  | .invalidSlot rule clause slot =>
    clausePlace rule clause ++ ": slot " ++ toString slot ++ " exceeds maximum of " ++
      toString maxSlot

end CatalogError

/-- Searches for patterns, by the texts of the patterns. -/
abbrev PatternCache := SortedMap String (String → Bool)

/-- A step of building: it stops at a defect, and it keeps the searches for patterns. -/
abbrev Build (α : Type) := StateT PatternCache (Except CatalogError) α

namespace Build

variable (library : PatternLibrary) (limits : PatternLimits)

/-- Compile a pattern within the limits, unless its text was compiled before. -/
def pattern (rule source : String) : Build Pattern := do
  let length := source.utf8ByteSize
  if limits.sourceLength < length then throw (.patternTooLong rule length limits.sourceLength)
  else
    match (← get).get? source with
    | some found => pure ⟨source, found⟩
    | none =>
      match library.compile? limits.programSize source with
      | none => throw (.invalidRegex rule source)
      | some found =>
        modify (·.insert source found)
        pure ⟨source, found⟩

/-- Compile the predicate of a test. -/
def predicate (rule : String) (clause : Nat) (t : TestDefinition) : Build Predicate :=
  match t.op, t.value with
  | .present, none => pure .present
  | .absent, none => pure .absent
  | .present, some _ | .absent, some _ => throw (.unexpectedValue rule clause t.op t.key)
  | .eq, some text => pure (.equals text)
  | .ne, some text => pure (.differs text)
  | .contains, some text => pure (.contains text)
  | .regex, some source => .finds <$> pattern library limits rule source
  | .notRegex, some source => .avoids <$> pattern library limits rule source
  | _, none => throw (.missingValue rule clause t.op t.key)

def test (rule : String) (clause : Nat) (t : TestDefinition) : Build Test :=
  let slot := t.slot.map (·.toNat)
  match slot.filter (maxSlot < ·) with
  | some slot => throw (.invalidSlot rule clause slot)
  | none => do pure ⟨t.key, ← predicate library limits rule clause t, slot⟩

/-- Compile a clause. Its subclass is its own, else that of the rule, else its
fingerprint. -/
def clause (rule : String) (subclass : Option UInt32) (position : Nat) (d : ClauseDefinition) :
    Build Clause :=
  if d.tests.isEmpty then throw (.emptyClause rule position)
  else do
    let tests ← d.tests.mapM (test library limits rule position)
    pure {
      tests
      subclass := (d.subclass.or subclass).getD
        (fingerprint rule (String.join (tests.map (·.text))))
      selector := d.selector }

/-- Compile clauses that are numbered from `first`, and check that each binds the slots
that the message reads. -/
def clauses (rule : String) (subclass : Option UInt32) (slots : List Nat) (first : Nat) :
    List ClauseDefinition → Build (List Clause)
  | [] => pure []
  | d :: ds => do
    let c ← clause library limits rule subclass first d
    match slots.find? fun slot => !c.boundSlots.contains slot with
    | some slot => throw (.unboundPlaceholder rule first slot)
    | none => do pure (c :: (← clauses rule subclass slots (first + 1) ds))

/-- The guard of a rule: the given one, if it covers all clauses, or the derived one. -/
def guard (rule : String) (clauses : List Clause) : Option (List (List String)) → Build Guard
  | none => pure (.ofClauses clauses)
  | some conjuncts =>
    let guard := Guard.ofConjuncts conjuncts
    match clauses.findIdx? fun c => !guard.covers c with
    | some clause => throw (.unsoundGuard rule clause)
    | none => pure guard

def rule (d : RuleDefinition) : Build Rule :=
  if d.clauses.isEmpty then throw (.emptyRule d.id)
  else
    match Template.parse d.message with
    | .error e => throw (.malformedPlaceholder d.id e.text)
    | .ok message => do
      let slots := message.slots.toList
      let clauses ← clauses library limits d.id d.subclass slots 0 d.clauses
      let guard ← guard d.id clauses d.guard
      pure { id := d.id, classId := d.classId, kinds := d.kinds, guard, clauses, message }

/-- Compile rules in order. `seen` holds the ids of the rules before them. -/
def rules (classes : SortedMap UInt32 Classification) (seen : List String) :
    List RuleDefinition → Build (List Rule)
  | [] => pure []
  | d :: ds =>
    if seen.contains d.id then throw (.duplicateRule d.id)
    else if !classes.contains d.classId then throw (.unknownClass d.id d.classId)
    else do
      let r ← rule library limits d
      pure (r :: (← rules classes (d.id :: seen) ds))

end Build

/-- Compile the predicate of a test that stands alone. -/
def buildPredicate (library : PatternLibrary) (limits : PatternLimits) (rule : String)
    (clause : Nat) (t : TestDefinition) : Except CatalogError Predicate :=
  (Build.predicate library limits rule clause t).run' .empty

/-- Register classes by their ids. -/
def buildClasses (seen : SortedMap UInt32 Classification) :
    List Classification → Except CatalogError (SortedMap UInt32 Classification)
  | [] => .ok seen
  | c :: cs =>
    if seen.contains c.id then .error (.duplicateClass c.id)
    else buildClasses (seen.insert c.id c) cs

namespace CatalogDefinition

/-- Check a definition and compile it. -/
def build (library : PatternLibrary) (limits : PatternLimits) (d : CatalogDefinition) :
    Except CatalogError Catalog := do
  let classes ← buildClasses .empty d.classes
  let rules ← (Build.rules library limits classes [] d.rules).run' .empty
  pure (Catalog.ofRules rules classes)

end CatalogDefinition

end TagRules
