/-
# Rules do not depend on each other

A definition has no defect exactly if its classes have none, its rules have different ids,
and each rule by itself has a known class and no defect of its own
(`CatalogDefinition.defects_eq_nil`). Nothing in this but the ids concerns more than one
rule, so a list of rules can be built if and only if its parts can and no id is in both. The
rules, and what visits find, are then those of the parts, one after the other
(`CatalogDefinition.build_append`).

The searches for patterns are kept from rule to rule while a catalog is built, and this does
not show: each rule, each clause and each test is what it would be if it were built with
nothing kept (`RuleDefinition.BuiltAlone`). Of the library of patterns this needs only that
it gives the same search for the same text.

Key definition: `RuleDefinition.BuiltAlone`.
Key theorems: `CatalogDefinition.defects_eq_nil`, `RuleDefinition.builtAlone_compiled`,
`CatalogDefinition.build_append`.
-/
import TagRules.Proofs.Validation

namespace TagRules

/-! ### Defects of lists of rules -/

namespace CatalogDefinition

variable {library : PatternLibrary} {limits : PatternLimits}

theorem ruleDefects_eq_nil {d : CatalogDefinition} : d.ruleDefects library limits = [] ↔
    d.rules.Pairwise (·.id ≠ ·.id) ∧
      ∀ r ∈ d.rules, (∃ c ∈ d.classes, c.id = r.classId) ∧ r.ownDefects library limits = [] := by
  have hrule : ∀ (i : Nat) (r : RuleDefinition),
      r.defects library limits d.classes (d.rules.take i) = [] ↔
        (∀ r' ∈ d.rules.take i, r'.id ≠ r.id) ∧
          (∃ c ∈ d.classes, c.id = r.classId) ∧ r.ownDefects library limits = [] := by
    intro i r
    simp [RuleDefinition.defects]
  rw [ruleDefects, flatMap_zipIdx_eq_nil_iff, ← forall_take_iff_pairwise]
  constructor
  · intro h
    refine ⟨fun i r hr => ((hrule i r).mp (h i r hr)).1, fun r hr => ?_⟩
    obtain ⟨i, hi⟩ := List.mem_iff_getElem?.mp hr
    exact ((hrule i r).mp (h i r hi)).2
  · rintro ⟨hids, hown⟩ i r hr
    exact (hrule i r).mpr ⟨hids i r hr, hown r (List.mem_of_getElem? hr)⟩

/-- A definition has no defect exactly if its classes have none, the ids of its rules differ,
and each rule has none. -/
theorem defects_eq_nil {d : CatalogDefinition} : d.defects library limits = [] ↔
    d.classDefects = [] ∧ d.rules.Pairwise (·.id ≠ ·.id) ∧
      ∀ r ∈ d.rules, (∃ c ∈ d.classes, c.id = r.classId) ∧ r.ownDefects library limits = [] := by
  rw [defects, List.append_eq_nil_iff, ruleDefects_eq_nil]

theorem defects_append_eq_nil {classes : List Classification} {first second : List RuleDefinition} :
    defects library limits ⟨classes, first ++ second⟩ = [] ↔
      defects library limits ⟨classes, first⟩ = [] ∧ defects library limits ⟨classes, second⟩ = [] ∧
        ∀ r ∈ first, ∀ r' ∈ second, r.id ≠ r'.id := by
  have hclasses : ∀ rules, classDefects ⟨classes, rules⟩ = classDefects ⟨classes, []⟩ :=
    fun _ => rfl
  simp only [defects_eq_nil, hclasses first, hclasses second, hclasses (first ++ second),
    List.pairwise_append, List.forall_mem_append]
  constructor
  · rintro ⟨hc, ⟨h₁, h₂, hids⟩, hown₁, hown₂⟩
    exact ⟨⟨hc, h₁, hown₁⟩, ⟨hc, h₂, hown₂⟩, hids⟩
  · rintro ⟨⟨hc, h₁, hown₁⟩, ⟨-, h₂, hown₂⟩, hids⟩
    exact ⟨hc, ⟨h₁, h₂, hids⟩, hown₁, hown₂⟩

end CatalogDefinition

/-! ### Rules that are built alone -/

namespace RuleDefinition

/-- The rule is what its definition is built to when no searches for patterns are kept; so is
each clause by itself, and so is each test by itself. -/
structure BuiltAlone (library : PatternLibrary) (limits : PatternLimits) (d : RuleDefinition)
    (r : Rule) : Prop where
  rule : (Build.rule library limits d).run' .empty = .ok r
  clause : ∀ (i : Nat) (c : ClauseDefinition), d.clauses[i]? = some c →
    ∃ clause, r.clauses[i]? = some clause ∧
      (Build.clause library limits d.id d.subclass i c).run' .empty = .ok clause
  test : ∀ (i : Nat) (c : ClauseDefinition), d.clauses[i]? = some c →
    ∀ (j : Nat) (t : TestDefinition), c.tests[j]? = some t →
      ∃ clause test, r.clauses[i]? = some clause ∧ clause.tests[j]? = some test ∧
        (Build.test library limits d.id i t).run' .empty = .ok test

variable {library : PatternLibrary} {limits : PatternLimits} {d : RuleDefinition}

theorem defects_of_getElem? (h : d.clauseDefects library limits = []) {i : Nat}
    {c : ClauseDefinition} (hc : d.clauses[i]? = some c) :
    c.tests ≠ [] ∧ ∀ t ∈ c.tests, t.defects library limits d.id i = [] := by
  have hdefects : c.defects library limits d.id d.messageSlots i = [] :=
    flatMap_zipIdx_eq_nil_iff.mp h i c hc
  obtain ⟨hclause, -⟩ := List.append_eq_nil_iff.mp hdefects
  obtain ⟨hempty, htests⟩ := List.append_eq_nil_iff.mp hclause
  exact ⟨defectIf_eq_nil.mp hempty, List.flatMap_eq_nil_iff.mp htests⟩

/-- **What is kept does not show.** The compiled form of a rule without defects is what the
rule is built to alone. -/
theorem builtAlone_compiled (h : d.ownDefects library limits = []) :
    d.BuiltAlone library limits (d.compiled (library.found limits)) := by
  obtain ⟨-, -, hclauses, -⟩ := ownDefects_eq_nil.mp h
  have hcompiled : ∀ (i : Nat) (c : ClauseDefinition), d.clauses[i]? = some c →
      (d.compiled (library.found limits)).clauses[i]? =
        some (c.compiled (library.found limits) d.id d.subclass) := by
    intro i c hc
    rw [compiled, compiledClauses, List.getElem?_map, hc, Option.map_some]
  refine ⟨?_, fun i c hc => ⟨_, hcompiled i c hc, ?_⟩, fun i c hc j t ht => ?_⟩
  · rw [(Build.finds_rule library limits d).run'_empty, h]
    rfl
  · obtain ⟨hempty, htests⟩ := defects_of_getElem? hclauses hc
    rw [(Build.finds_clause library limits d.id d.subclass i c).run'_empty, defectIf_neg hempty,
      List.flatMap_eq_nil_iff.mpr htests]
    rfl
  · obtain ⟨-, htests⟩ := defects_of_getElem? hclauses hc
    have htest : (c.compiled (library.found limits) d.id d.subclass).tests[j]? =
        some (t.compiled (library.found limits)) := by
      rw [ClauseDefinition.compiled, List.getElem?_map, ht, Option.map_some]
    refine ⟨_, _, hcompiled i c hc, htest, ?_⟩
    rw [(Build.finds_test library limits d.id i t).run'_empty, htests t (List.mem_of_getElem? ht)]
    rfl

end RuleDefinition

/-! ### Catalogs put together -/

/-- The rules of two catalogs have to say what those of each have to say. -/
theorem Catalog.outcomes_append {joint before after : Catalog}
    (h : joint.rules = before.rules ++ after.rules) (kind : FeatureKind) (tags : TagSet) :
    joint.outcomes kind tags = before.outcomes kind tags ++ after.outcomes kind tags := by
  rw [outcomes, h, List.filter_append, List.filterMap_append]
  rfl

namespace CatalogDefinition

variable {library : PatternLibrary} {limits : PatternLimits} {d : CatalogDefinition}

theorem exists_build_iff :
    (∃ catalog, d.build library limits = .ok catalog) ↔ d.defects library limits = [] :=
  ⟨fun ⟨_, h⟩ => (build_eq_ok.mp h).1, fun h => ⟨_, build_eq_ok.mpr ⟨h, rfl⟩⟩⟩

/-- **Rules are built and evaluated independently.** Two lists of rules can be built together
exactly if each can be built and no id is in both. The rules are then those of the first
followed by those of the second, and so are the findings of every visit. Each rule is what it
would be without the others, so it does not matter which patterns they have. -/
theorem build_append (library : PatternLibrary) (limits : PatternLimits)
    (classes : List Classification) (first second : List RuleDefinition) :
    ((∃ joint, build library limits ⟨classes, first ++ second⟩ = .ok joint) ↔
      (∃ before, build library limits ⟨classes, first⟩ = .ok before) ∧
        (∃ after, build library limits ⟨classes, second⟩ = .ok after) ∧
        ∀ r ∈ first, ∀ r' ∈ second, r.id ≠ r'.id) ∧
    ∀ joint, build library limits ⟨classes, first ++ second⟩ = .ok joint →
      ∃ before after, build library limits ⟨classes, first⟩ = .ok before ∧
        build library limits ⟨classes, second⟩ = .ok after ∧
        joint.rules = before.rules ++ after.rules ∧
        (∀ verifyGuards kind tags, ∃ found found',
          (before.findings verifyGuards kind tags).result = .ok found ∧
          (after.findings verifyGuards kind tags).result = .ok found' ∧
          (joint.findings verifyGuards kind tags).result = .ok (found ++ found')) ∧
        ∀ (i : Nat) (d : RuleDefinition), (first ++ second)[i]? = some d →
          ∃ r, joint.rules[i]? = some r ∧ d.BuiltAlone library limits r := by
  refine ⟨by simp only [exists_build_iff, defects_append_eq_nil], fun joint h => ?_⟩
  obtain ⟨hd, rfl⟩ := build_eq_ok.mp h
  obtain ⟨h₁, h₂, -⟩ := defects_append_eq_nil.mp hd
  have hbefore := build_eq_ok.mpr ⟨h₁, rfl⟩
  have hafter := build_eq_ok.mpr ⟨h₂, rfl⟩
  have hrules : (compiled (library.found limits) ⟨classes, first ++ second⟩).rules =
      (compiled (library.found limits) ⟨classes, first⟩).rules ++
        (compiled (library.found limits) ⟨classes, second⟩).rules :=
    List.map_append
  refine ⟨_, _, hbefore, hafter, hrules, fun verifyGuards kind tags => ?_, fun i d hi => ?_⟩
  · refine ⟨_, _, result_findings_eq_outcomes hbefore verifyGuards kind tags,
      result_findings_eq_outcomes hafter verifyGuards kind tags, ?_⟩
    rw [result_findings_eq_outcomes h, Catalog.outcomes_append hrules]
  · have hrule : (compiled (library.found limits) ⟨classes, first ++ second⟩).rules[i]? =
        some (d.compiled (library.found limits)) := by
      change ((first ++ second).map (·.compiled (library.found limits)))[i]? = _
      rw [List.getElem?_map, hi, Option.map_some]
    have hown := ownDefects_of_mem hd (List.mem_of_getElem? hi)
    exact ⟨_, hrule, RuleDefinition.builtAlone_compiled hown⟩

/-- A rule on marks of a kind whose colour is one of two. -/
def colouredMark (kind : String) : RuleDefinition where
  id := kind
  classId := 3
  subclass := some 7
  kinds := [.node]
  message := "\x7b0.value\x7d " ++ kind
  guard := none
  clauses := [⟨none, none, [⟨"seamark:" ++ kind ++ ":colour", .regex, some "red|green", some 0⟩]⟩]

def colouredMarks (kinds : List String) : CatalogDefinition :=
  ⟨[⟨3, 7, 1, .empty, none⟩], kinds.map colouredMark⟩

theorem build_colouredMarks :
    ∃ joint before after, (colouredMarks ["buoy", "beacon"]).build .engine .standard = .ok joint ∧
      (colouredMarks ["buoy"]).build .engine .standard = .ok before ∧
      (colouredMarks ["beacon"]).build .engine .standard = .ok after ∧
      joint.rules = before.rules ++ after.rules ∧
      ∃ r ∈ joint.rules, (colouredMark "beacon").BuiltAlone .engine .standard r := by
  have h : (colouredMarks ["buoy", "beacon"]).build .engine .standard = .ok _ :=
    build_eq_ok.mpr ⟨by decide +kernel, rfl⟩
  obtain ⟨before, after, hbefore, hafter, hrules, -, halone⟩ :=
    (build_append .engine .standard _ [colouredMark "buoy"] [colouredMark "beacon"]).2 _ h
  obtain ⟨r, hr, hbeacon⟩ := halone 1 _ rfl
  exact ⟨_, before, after, h, hbefore, hafter, hrules, r, List.mem_of_getElem? hr, hbeacon⟩

end CatalogDefinition

end TagRules
