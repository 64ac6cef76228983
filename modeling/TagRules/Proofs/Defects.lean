/-
# The defects of a definition

All defects of a definition, in the order in which they count: classes before rules, and
in a rule first what concerns the rule, then its clauses one after the other, then its
guard. The list looks at the definition alone. It knows nothing of compiling, and a
defect is on it whether or not others come before it.

What only the library of patterns can say is asked of it: whether it compiles the text of
a pattern within the limits.

Key definitions: `TestDefinition.defects`, `ClauseDefinition.defects`,
`RuleDefinition.defects`, `CatalogDefinition.defects`.
-/
import TagRules.Build

namespace TagRules

/-- A defect, if there is reason for it. -/
def defectIf (p : Prop) [Decidable p] (e : CatalogError) : List CatalogError :=
  if p then [e] else []

@[simp]
theorem defectIf_eq_nil {p : Prop} [Decidable p] {e : CatalogError} :
    defectIf p e = [] ↔ ¬ p := by
  unfold defectIf
  split <;> simp [*]

@[simp]
theorem mem_defectIf {p : Prop} [Decidable p] {e e' : CatalogError} :
    e' ∈ defectIf p e ↔ p ∧ e' = e := by
  unfold defectIf
  split <;> simp [*]

theorem defectIf_pos {p : Prop} [Decidable p] {e : CatalogError} (h : p) : defectIf p e = [e] :=
  if_pos h

theorem defectIf_neg {p : Prop} [Decidable p] {e : CatalogError} (h : ¬ p) : defectIf p e = [] :=
  if_neg h

/-- A check that fails says that what is checked is not so. -/
theorem not_eq_true_iff {b : Bool} {p : Prop} (h : b = true ↔ p) : (!b) = true ↔ ¬ p := by
  rw [Bool.not_eq_true', ← Bool.not_eq_true, h]

/-- The first of some defects as an error, or a result if there is none. -/
def unlessDefect {α : Type} (a : α) : List CatalogError → Except CatalogError α
  | [] => .ok a
  | e :: _ => .error e

theorem unlessDefect_bind {α β : Type} {a : α} {b : β} {ds es : List CatalogError}
    {f : α → Except CatalogError β} (h : f a = unlessDefect b es) :
    unlessDefect a ds >>= f = unlessDefect b (ds ++ es) := by
  cases ds with
  | nil => exact h
  | cons e ds => rfl

theorem flatMap_defectIf_eq_nil {α : Type} {p : α → Prop} [DecidablePred p] {e : α → CatalogError}
    {l : List α} : (l.flatMap fun a => defectIf (p a) (e a)) = [] ↔ ∀ a ∈ l, ¬ p a := by
  simp

/-- The first item with a reason for a defect has the first defect. -/
theorem flatMap_defectIf_of_find?_eq_some {α : Type} {p : α → Prop} [DecidablePred p]
    {e : α → CatalogError} {l : List α} {a : α} (h : l.find? (fun a => decide (p a)) = some a) :
    ∃ es, (l.flatMap fun a => defectIf (p a) (e a)) = e a :: es := by
  obtain ⟨hp, before, after, rfl, hbefore⟩ := List.find?_eq_some_iff_append.mp h
  have hnil : (before.flatMap fun a => defectIf (p a) (e a)) = [] :=
    flatMap_defectIf_eq_nil.mpr (by simpa using hbefore)
  refine ⟨after.flatMap fun a => defectIf (p a) (e a), ?_⟩
  rw [List.flatMap_append, hnil, List.flatMap_cons, defectIf_pos (of_decide_eq_true hp)]
  rfl

namespace Operator

/-- Whether a test with the operator compares with a value. -/
def takesValue : Operator → Bool
  | .present | .absent => false
  | .eq | .ne | .contains | .regex | .notRegex => true

/-- Whether the value of a test with the operator is the text of a pattern. -/
def searches : Operator → Bool
  | .regex | .notRegex => true
  | .present | .absent | .eq | .ne | .contains => false

/-- Whether a test with the operator can only hold of a key that is there. -/
def needsKey : Operator → Bool
  | .present | .eq | .contains | .regex => true
  | .absent | .ne | .notRegex => false

theorem takesValue_of_searches {op : Operator} (h : op.searches = true) : op.takesValue = true := by
  cases op <;> first | rfl | cases h

end Operator

variable (library : PatternLibrary) (limits : PatternLimits)

def patternDefects (rule source : String) : List CatalogError :=
  defectIf (limits.sourceLength < source.utf8ByteSize)
    (.patternTooLong rule source.utf8ByteSize limits.sourceLength) ++
  defectIf ((library.compile? limits.programSize source).isNone) (.invalidRegex rule source)

namespace TestDefinition

def slotNumber (t : TestDefinition) : Option Nat := t.slot.map (·.toNat)

/-- The texts of patterns in a test; there is at most one. -/
def sources (t : TestDefinition) : List String := if t.op.searches then t.value.toList else []

/-- The defects of what a test asks about its key. -/
def valueDefects (rule : String) (clause : Nat) (t : TestDefinition) : List CatalogError :=
  defectIf (t.value.isSome ∧ ¬ t.op.takesValue) (.unexpectedValue rule clause t.op t.key) ++
  defectIf (t.value.isNone ∧ t.op.takesValue) (.missingValue rule clause t.op t.key) ++
  t.sources.flatMap (patternDefects library limits rule)

variable {library limits} in
/-- A test that searches for a pattern can only be wrong in the pattern. -/
theorem valueDefects_of_searches {rule : String} {clause : Nat} {t : TestDefinition}
    (ho : t.op.searches = true) {source : String} (hv : t.value = some source) :
    t.valueDefects library limits rule clause = patternDefects library limits rule source := by
  have htakes : t.op.takesValue = true := Operator.takesValue_of_searches ho
  simp [valueDefects, sources, ho, hv, htakes, defectIf_neg]

/-- The defects of a test. -/
def defects (rule : String) (clause : Nat) (t : TestDefinition) : List CatalogError :=
  (t.slotNumber.toList.flatMap fun slot =>
    defectIf (maxSlot < slot) (.invalidSlot rule clause slot)) ++
  t.valueDefects library limits rule clause

end TestDefinition

namespace ClauseDefinition

/-- The slots that tests of the clause name. -/
def slots (c : ClauseDefinition) : List Nat := c.tests.filterMap (·.slotNumber)

/-- Whether some conjunct names no other keys than those of tests that need theirs. -/
def CoveredBy (conjuncts : List (List String)) (c : ClauseDefinition) : Prop :=
  ∃ keys ∈ conjuncts, ∀ k ∈ keys, ∃ t ∈ c.tests, t.op.needsKey ∧ t.key = k

instance (conjuncts : List (List String)) : DecidablePred (CoveredBy conjuncts) :=
  fun c => inferInstanceAs
    (Decidable (∃ keys ∈ conjuncts, ∀ k ∈ keys, ∃ t ∈ c.tests, t.op.needsKey ∧ t.key = k))

/-- The defects of a clause whose rule's message reads `slots`. -/
def defects (rule : String) (slots : List Nat) (position : Nat) (c : ClauseDefinition) :
    List CatalogError :=
  defectIf (c.tests = []) (.emptyClause rule position) ++
  c.tests.flatMap (·.defects library limits rule position) ++
  slots.flatMap fun slot => defectIf (slot ∉ c.slots) (.unboundPlaceholder rule position slot)

end ClauseDefinition

namespace RuleDefinition

def messageDefects (d : RuleDefinition) : List CatalogError :=
  match Template.parse d.message with
  | .ok _ => []
  | .error e => [.malformedPlaceholder d.id e.text]

/-- The slots that the message reads, in ascending order. -/
def messageSlots (d : RuleDefinition) : List Nat :=
  match Template.parse d.message with
  | .ok message => message.slots.toList
  | .error _ => []

/-- The defects of the clauses, one after the other. -/
def clauseDefects (d : RuleDefinition) : List CatalogError :=
  d.clauses.zipIdx.flatMap fun (c, position) =>
    c.defects library limits d.id d.messageSlots position

/-- The defects of the guard: the clauses that it does not cover. -/
def guardDefects (d : RuleDefinition) : List CatalogError :=
  d.guard.toList.flatMap fun conjuncts =>
    d.clauses.zipIdx.flatMap fun (c, position) =>
      defectIf (¬ c.CoveredBy conjuncts) (.unsoundGuard d.id position)

/-- The defects that a rule has by itself. -/
def ownDefects (d : RuleDefinition) : List CatalogError :=
  defectIf (d.clauses = []) (.emptyRule d.id) ++ d.messageDefects ++
  d.clauseDefects library limits ++ d.guardDefects

/-- The defects of a rule that comes after the rules `earlier`. -/
def defects (classes : List Classification) (earlier : List RuleDefinition) (d : RuleDefinition) :
    List CatalogError :=
  defectIf (∃ r ∈ earlier, r.id = d.id) (.duplicateRule d.id) ++
  defectIf (¬ ∃ c ∈ classes, c.id = d.classId) (.unknownClass d.id d.classId) ++
  d.ownDefects library limits

end RuleDefinition

/-- The defects of a class that comes after the classes `earlier`. -/
def Classification.defects (earlier : List Classification) (c : Classification) :
    List CatalogError :=
  defectIf (∃ c' ∈ earlier, c'.id = c.id) (.duplicateClass c.id)

namespace CatalogDefinition

def classDefects (d : CatalogDefinition) : List CatalogError :=
  d.classes.zipIdx.flatMap fun (c, i) => c.defects (d.classes.take i)

def ruleDefects (d : CatalogDefinition) : List CatalogError :=
  d.rules.zipIdx.flatMap fun (r, i) => r.defects library limits d.classes (d.rules.take i)

/-- All defects of a definition. -/
def defects (d : CatalogDefinition) : List CatalogError :=
  d.classDefects ++ d.ruleDefects library limits

end CatalogDefinition

end TagRules
