/-
# Appending clauses to a rule

The clauses of a rule are tried in order, so clauses that are appended to it only come in where
all its own fail. Where one of its own matches, the longer rule says the same as before; elsewhere
it says what the first of the appended clauses says that matches, if there is one
(`Rule.Extends.outcome_eq`).

A derived guard changes as a whole with the clauses, and a given guard may be replaced by any
other. Neither shows: what is accepted is sound, and what a sound rule reports does not depend on
its guard (`CatalogDefinition.run_extended`).

Key definitions: `RuleDefinition.extended`, `Rule.Extends`.
Key theorems: `Rule.Extends.outcome_eq`, `CatalogDefinition.run_extended`.
-/
import TagRules.Proofs.Validation

namespace TagRules

/-! ### Rules with more clauses -/

namespace Rule

/-- A rule has the clauses of another and then some more, and reports under the same class with
the same message. Their ids, kinds and guards are left open. -/
structure Extends (r' r : Rule) (added : List Clause) : Prop where
  classId : r'.classId = r.classId
  message : r'.message = r.message
  clauses : r'.clauses = r.clauses ++ added

variable {r r' : Rule} {added : List Clause}

theorem Extends.finding_eq (h : r'.Extends r added) (tags : TagSet) (c : Clause) :
    r'.finding tags c = r.finding tags c := by
  rw [finding, finding, h.classId, h.message]

/-- The longer rule says what the shorter one says, and if that is nothing, what the first of its
further clauses says that matches. -/
theorem Extends.outcome_eq (h : r'.Extends r added) (tags : TagSet) :
    r'.outcome tags =
      (r.outcome tags).or ((added.find? (·.isMatch tags)).map (r'.finding tags)) := by
  have hfinding : r'.finding tags = r.finding tags := funext fun c => h.finding_eq tags c
  rw [outcome, outcome, h.clauses, List.find?_append, hfinding]
  cases r.clauses.find? (·.isMatch tags) with
  | none => rfl
  | some c => rfl

end Rule

namespace RuleDefinition

/-- The rule with further clauses after its own, and with another guard or none. -/
def extended (d : RuleDefinition) (more : List ClauseDefinition)
    (guard : Option (List (List String))) : RuleDefinition :=
  { d with clauses := d.clauses ++ more, guard }

/-- The further clauses are compiled with the id and the subclass of the rule, so its own clauses
keep their subclasses. -/
theorem extends_compiled (found : String → String → Bool) (d : RuleDefinition)
    (more : List ClauseDefinition) (guard : Option (List (List String))) :
    ((d.extended more guard).compiled found).Extends (d.compiled found)
      (more.map (·.compiled found d.id d.subclass)) where
  classId := rfl
  message := rfl
  clauses := by
    rw [clauses_compiled, clauses_compiled]
    exact List.map_append

end RuleDefinition

namespace CatalogDefinition

/-- **Appending alternatives is conservative.** If a rule is accepted, and also with further
clauses after its own and whatever guard, then what it finds is found with the further clauses too.
Where it finds nothing, either nothing is found with them, or one of them matches and is
reported. -/
theorem run_extended {library : PatternLibrary} {limits : PatternLimits}
    {classes : List Classification} {rules rules' : List RuleDefinition}
    {catalog catalog' : Catalog}
    (h : build library limits ⟨classes, rules⟩ = .ok catalog)
    (h' : build library limits ⟨classes, rules'⟩ = .ok catalog') {d : RuleDefinition}
    {more : List ClauseDefinition} {guard : Option (List (List String))} {i j : Nat}
    (hd : rules[i]? = some d) (hd' : rules'[j]? = some (d.extended more guard)) :
    ∃ r r' added, catalog.rules[i]? = some r ∧ catalog'.rules[j]? = some r' ∧
      r'.clauses = r.clauses ++ added ∧ added.length = more.length ∧
      ∀ verifyGuards tags,
        (∀ f, (r.run verifyGuards tags).result = .ok (some f) →
          (r'.run verifyGuards tags).result = .ok (some f)) ∧
        ((r.run verifyGuards tags).result = .ok none →
          (r'.run verifyGuards tags).result = .ok none ∨
          ∃ f, (r'.run verifyGuards tags).result = .ok (some f) ∧
            ∃ c ∈ added, c.isMatch tags = true ∧ f.subclass = c.subclass) := by
  have hrules := sound_of_build h
  have hrules' := sound_of_build h'
  obtain ⟨-, rfl⟩ := build_eq_ok.mp h
  obtain ⟨-, rfl⟩ := build_eq_ok.mp h'
  have hrule := getElem?_rules_compiled (library.found limits) (d := ⟨classes, rules⟩) hd
  have hrule' := getElem?_rules_compiled (library.found limits) (d := ⟨classes, rules'⟩) hd'
  have hsound := hrules _ (List.mem_of_getElem? hrule)
  have hsound' := hrules' _ (List.mem_of_getElem? hrule')
  have hext := d.extends_compiled (library.found limits) more guard
  -- both rules are sound, so their guards, which may differ, do not show in what they report
  refine ⟨_, _, _, hrule, hrule', hext.clauses, List.length_map _, fun verifyGuards tags => ?_⟩
  rw [hsound.result_run, hsound'.result_run, hext.outcome_eq]
  constructor
  · intro f hf
    have hfound : (d.compiled (library.found limits)).outcome tags = some f := Except.ok.inj hf
    rw [hfound, Option.some_or]
  · intro hsilent
    have hnothing : (d.compiled (library.found limits)).outcome tags = none :=
      Except.ok.inj hsilent
    rw [hnothing, Option.none_or]
    cases hfirst : (more.map (·.compiled (library.found limits) d.id d.subclass)).find?
        (·.isMatch tags) with
    | none => exact .inl rfl
    | some c =>
      have hmem := List.mem_of_find?_eq_some hfirst
      have hmatch : c.isMatch tags = true :=
        List.find?_some (p := fun c : Clause => c.isMatch tags) hfirst
      exact .inr ⟨_, rfl, c, hmem, hmatch, rfl⟩

def unnamedMinorLights : RuleDefinition → RuleDefinition :=
  (·.extended [⟨none, some 8,
    [⟨"seamark:type", .eq, some "light_minor", some 0⟩, ⟨"name", .absent, none, some 1⟩]⟩]
    (some [["depth"], ["seamark:type"]]))

theorem run_unnamedMinorLights :
    let light : TagSet := .ofList [("seamark:type", "light")]
    let minor : TagSet := .ofList [("seamark:type", "light_minor")]
    ∃ catalog catalog' r r', (unnamedLights none).build .engine .standard = .ok catalog ∧
      build .engine .standard ⟨(unnamedLights none).classes,
        (unnamedLights none).rules.map unnamedMinorLights⟩ = .ok catalog' ∧
      catalog.rules[0]? = some r ∧ catalog'.rules[0]? = some r' ∧
      (r.run false light).result = .ok (some ⟨3, 7, "light without name"⟩) ∧
      (r'.run false light).result = .ok (some ⟨3, 7, "light without name"⟩) ∧
      (r.run false minor).result = .ok none ∧
      ∃ f, (r'.run false minor).result = .ok (some f) ∧
        ∃ c ∈ r'.clauses, c.isMatch minor = true ∧ f.subclass = c.subclass := by
  intro light minor
  have h : (unnamedLights none).build .engine .standard = .ok _ :=
    build_eq_ok.mpr ⟨by decide +kernel, rfl⟩
  have h' : build .engine .standard ⟨(unnamedLights none).classes,
      (unnamedLights none).rules.map unnamedMinorLights⟩ = .ok _ :=
    build_eq_ok.mpr ⟨by decide +kernel, rfl⟩
  obtain ⟨r, r', added, hr, hr', hclauses, -, hrun⟩ := run_extended (i := 0) (j := 0) h h' rfl rfl
  have hlight : (r.run false light).result = .ok (some ⟨3, 7, "light without name"⟩) := by
    obtain rfl := Option.some.inj hr
    decide +kernel
  have hminor : (r.run false minor).result = .ok none := by
    obtain rfl := Option.some.inj hr
    decide +kernel
  have hminor' : (r'.run false minor).result ≠ .ok none := by
    obtain rfl := Option.some.inj hr'
    decide +kernel
  refine ⟨_, _, r, r', h, h', hr, hr', hlight, (hrun false light).1 _ hlight, hminor, ?_⟩
  rcases (hrun false minor).2 hminor with hnone | ⟨f, hf, c, hc, hmatch, hsubclass⟩
  · exact absurd hnone hminor'
  · exact ⟨f, hf, c, hclauses ▸ List.mem_append_right _ hc, hmatch, hsubclass⟩

end CatalogDefinition

end TagRules
