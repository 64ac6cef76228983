/-
# What definitions stand for

The compiled form of a definition, part by part and with nothing checked: every test by
itself, every clause from its tests, every rule from its clauses. Where a definition has
a defect its compiled form means nothing.

What the texts of patterns find comes from outside, as `found`: it says of a text and a value
whether the pattern of the text is found in the value. For a library and limits it is
`PatternLibrary.found`.

Key definitions: `PatternLibrary.found`, `TestDefinition.compiled`,
`ClauseDefinition.compiled`, `RuleDefinition.compiled`, `CatalogDefinition.compiled`.
-/
import TagRules.Proofs.Defects
import TagRules.Proofs.Guard

namespace TagRules

/-- Whether a library finds the pattern of a text in a value. What it does not compile is found
nowhere. -/
def PatternLibrary.found (library : PatternLibrary) (limits : PatternLimits)
    (source value : String) : Bool :=
  (library.compile? limits.programSize source).any (· value)

theorem PatternLibrary.found_of_compile? {library : PatternLibrary} {limits : PatternLimits}
    {source : String} {search : String → Bool}
    (h : library.compile? limits.programSize source = some search) :
    library.found limits source = search := by
  funext value
  rw [found, h, Option.any_some]

variable (found : String → String → Bool)

namespace TestDefinition

/-- The predicate of a test. -/
def predicate (t : TestDefinition) : Predicate :=
  let text := t.value.getD ""
  match t.op with
  | .present => .present
  | .absent => .absent
  | .eq => .equals text
  | .ne => .differs text
  | .contains => .contains text
  | .regex => .finds ⟨text, found text⟩
  | .notRegex => .avoids ⟨text, found text⟩

/-- The test of a definition. -/
def compiled (t : TestDefinition) : Test := ⟨t.key, t.predicate found, t.slotNumber⟩

theorem needsKey_compiled (t : TestDefinition) : (t.compiled found).needsKey = t.op.needsKey := by
  unfold compiled predicate Test.needsKey
  cases t.op <;> rfl

end TestDefinition

namespace ClauseDefinition

/-- The clause of a definition, in a rule of the given id and subclass. -/
def compiled (rule : String) (subclass : Option UInt32) (c : ClauseDefinition) : Clause :=
  let tests := c.tests.map (·.compiled found)
  { tests
    subclass := (c.subclass.or subclass).getD
      (fingerprint rule (String.join (tests.map (·.text))))
    selector := c.selector }

theorem tests_compiled (rule : String) (subclass : Option UInt32) (c : ClauseDefinition) :
    (c.compiled found rule subclass).tests = c.tests.map (·.compiled found) := rfl

theorem mem_boundSlots_compiled (rule : String) (subclass : Option UInt32) (c : ClauseDefinition)
    {slot : Nat} : slot ∈ (c.compiled found rule subclass).boundSlots ↔ slot ∈ c.slots := by
  simp [compiled, Clause.boundSlots, slots, TestDefinition.compiled, TestDefinition.slotNumber]

theorem mem_neededKeys_compiled (rule : String) (subclass : Option UInt32) (c : ClauseDefinition)
    {k : String} : k ∈ (c.compiled found rule subclass).neededKeys ↔
      ∃ t ∈ c.tests, t.op.needsKey = true ∧ t.key = k := by
  rw [Clause.mem_neededKeys]
  constructor
  · rintro ⟨_, hmem, hn, hk⟩
    obtain ⟨t, ht, rfl⟩ := List.mem_map.mp hmem
    exact ⟨t, ht, t.needsKey_compiled found ▸ hn, hk⟩
  · rintro ⟨t, ht, hn, hk⟩
    exact ⟨t.compiled found, List.mem_map.mpr ⟨t, ht, rfl⟩,
      (t.needsKey_compiled found).trans hn, hk⟩

/-- A guard covers the compiled clause exactly if its conjuncts cover the definition. -/
theorem covers_compiled (rule : String) (subclass : Option UInt32) (conjuncts : List (List String))
    (c : ClauseDefinition) :
    (Guard.ofConjuncts conjuncts).covers (c.compiled found rule subclass) = true ↔
      c.CoveredBy conjuncts := by
  rw [Guard.covers_iff]
  constructor
  · rintro ⟨_, hmem, hsub⟩
    obtain ⟨keys, hkeys, rfl⟩ := List.mem_map.mp hmem
    exact ⟨keys, hkeys, fun k hk =>
      (c.mem_neededKeys_compiled found rule subclass).mp (hsub k (SortedSet.mem_ofList.mpr hk))⟩
  · rintro ⟨keys, hkeys, hsub⟩
    exact ⟨.ofList keys, List.mem_map.mpr ⟨keys, hkeys, rfl⟩, fun k hk =>
      (c.mem_neededKeys_compiled found rule subclass).mpr (hsub k (SortedSet.mem_ofList.mp hk))⟩

end ClauseDefinition

namespace RuleDefinition

/-- The message as a template. -/
def template (d : RuleDefinition) : Template :=
  match Template.parse d.message with
  | .ok message => message
  | .error _ => ⟨d.message, []⟩

/-- The clauses of the rule. -/
def compiledClauses (d : RuleDefinition) : List Clause :=
  d.clauses.map (·.compiled found d.id d.subclass)

/-- The guard of the rule: the given one, or the one that the clauses call for. -/
def compiledGuard (d : RuleDefinition) : Guard :=
  match d.guard with
  | some conjuncts => .ofConjuncts conjuncts
  | none => .ofClauses (d.compiledClauses found)

/-- The rule of a definition. -/
def compiled (d : RuleDefinition) : Rule where
  id := d.id
  classId := d.classId
  kinds := d.kinds
  guard := d.compiledGuard found
  clauses := d.compiledClauses found
  message := d.template

theorem clauses_compiled (d : RuleDefinition) :
    (d.compiled found).clauses = d.clauses.map (·.compiled found d.id d.subclass) := rfl

end RuleDefinition

namespace CatalogDefinition

/-- The catalog of a definition. -/
def compiled (d : CatalogDefinition) : Catalog :=
  .ofRules (d.rules.map (·.compiled found)) (.ofList (d.classes.map fun c => (c.id, c)))

theorem rules_compiled (d : CatalogDefinition) :
    (d.compiled found).rules = d.rules.map (·.compiled found) := rfl

/-- The rule at a position is that of the definition there. -/
theorem getElem?_rules_compiled {d : CatalogDefinition} {i : Nat} {r : RuleDefinition}
    (h : d.rules[i]? = some r) : (d.compiled found).rules[i]? = some (r.compiled found) := by
  rw [rules_compiled, List.getElem?_map, h, Option.map_some]

end CatalogDefinition

end TagRules
