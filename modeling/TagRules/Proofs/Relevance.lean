/-
# Only tested keys matter

What a test sees of a tag set is the value of its own key (`Test.holds_congr`,
`Test.seen_congr`). So two tag sets that have the same values at the keys of the tests of a
rule are matched by the same clauses, with the same captures, and the rule has the same to say
of both (`Rule.outcome_congr`).

A guard may look at other keys, and then it can admit one of the two tag sets and reject the
other. For a rule that was built this does not show: its guard only rejects tags that no
clause matches (`CatalogDefinition.result_run_congr_of_build`).

Key definitions: `Rule.testedKeys`, `AgreeOn`.
Key theorems: `Clause.shown_scope_congr`, `Rule.outcome_congr`,
`CatalogDefinition.result_run_congr_of_build`.
-/
import Mathlib.Data.List.Find
import TagRules.Proofs.Validation

namespace TagRules

/-- Two tag sets lack the same of some keys, and have the same values at the others. -/
def AgreeOn (keys : List String) (tags tags' : TagSet) : Prop :=
  ∀ k ∈ keys, tags.get? k = tags'.get? k

instance (keys : List String) (tags tags' : TagSet) : Decidable (AgreeOn keys tags tags') :=
  inferInstanceAs (Decidable (∀ k ∈ keys, tags.get? k = tags'.get? k))

theorem AgreeOn.mono {keys keys' : List String} {tags tags' : TagSet} (h : AgreeOn keys tags tags')
    (hsub : keys' ⊆ keys) : AgreeOn keys' tags tags' :=
  fun k hk => h k (hsub hk)

/-! ### Tests and clauses -/

namespace Test

variable {t : Test} {tags tags' : TagSet}

theorem holds_congr (h : tags.get? t.key = tags'.get? t.key) : t.holds tags = t.holds tags' := by
  rw [holds, holds, h]

theorem seen_congr (h : tags.get? t.key = tags'.get? t.key) : t.seen tags = t.seen tags' := by
  rw [seen, seen, h]

end Test

namespace Clause

/-- The keys of the tests of the clause. -/
def testedKeys (c : Clause) : List String := c.tests.map (·.key)

variable {c : Clause} {tags tags' : TagSet}

theorem get?_eq_of_agreeOn (h : AgreeOn c.testedKeys tags tags') {t : Test} (ht : t ∈ c.tests) :
    tags.get? t.key = tags'.get? t.key :=
  h t.key (List.mem_map_of_mem ht)

theorem isMatch_congr (h : AgreeOn c.testedKeys tags tags') :
    c.isMatch tags = c.isMatch tags' := by
  rw [Bool.eq_iff_iff, isMatch_iff, isMatch_iff]
  refine forall₂_congr fun t ht => ?_
  rw [Test.holds_congr (get?_eq_of_agreeOn h ht)]

/-- Each slot holds what its last test has seen, and that test sees the same in both. -/
theorem shown_scope_congr (h : AgreeOn c.testedKeys tags tags') :
    (c.scope tags).shown = (c.scope tags').shown := by
  funext ref
  rw [Captures.shown, Captures.shown, get?_scope, get?_scope]
  cases hlast : (c.tests.filter (·.slot = some ref.slot)).getLast? with
  | none => rfl
  | some t =>
    have ht : t ∈ c.tests := (List.mem_filter.mp (List.mem_of_getLast? hlast)).1
    rw [Option.map_some, Option.map_some, Test.seen_congr (get?_eq_of_agreeOn h ht)]

end Clause

/-! ### Rules -/

namespace Rule

/-- The keys of the tests of all clauses of the rule. -/
def testedKeys (r : Rule) : List String := r.clauses.flatMap (·.testedKeys)

variable {r : Rule} {tags tags' : TagSet}

theorem agreeOn_of_mem (h : AgreeOn r.testedKeys tags tags') {c : Clause} (hc : c ∈ r.clauses) :
    AgreeOn c.testedKeys tags tags' :=
  h.mono fun _ hk => List.mem_flatMap.mpr ⟨c, hc, hk⟩

/-- The same clause is the first to match, and it says the same. -/
theorem outcome_congr (h : AgreeOn r.testedKeys tags tags') : r.outcome tags = r.outcome tags' := by
  have hfirst : r.clauses.find? (·.isMatch tags) = r.clauses.find? (·.isMatch tags') :=
    List.find?_congr fun c hc => Clause.isMatch_congr (agreeOn_of_mem h hc)
  rw [outcome, outcome, hfirst]
  cases hwinner : r.clauses.find? (·.isMatch tags') with
  | none => rfl
  | some c =>
    have hc : c ∈ r.clauses := List.mem_of_find?_eq_some hwinner
    rw [Option.map_some, Option.map_some, finding, finding,
      Clause.shown_scope_congr (agreeOn_of_mem h hc)]

end Rule

namespace CatalogDefinition

/-- **Only tested keys matter.** A rule that was built gives the same result, text included,
for tag sets that agree on the keys of its tests, whichever keys its guard looks at and
whether or not guards are checked. -/
theorem result_run_congr_of_build {library : PatternLibrary} {limits : PatternLimits}
    {d : CatalogDefinition} {catalog : Catalog} (h : d.build library limits = .ok catalog)
    {r : Rule} (hr : r ∈ catalog.rules) {tags tags' : TagSet}
    (hagree : AgreeOn r.testedKeys tags tags') (verifyGuards : Bool) :
    (r.run verifyGuards tags).result = (r.run verifyGuards tags').result := by
  have hsound : r.Sound := sound_of_build h r hr
  rw [hsound.result_run, hsound.result_run, Rule.outcome_congr hagree]

/-- The guard names the depth, and no test does: one tag set gets past the guard for it, the
other does not. -/
theorem unnamedLights_ignore_depth :
    ∃ catalog,
      (unnamedLights (some [["seamark:type"], ["depth"]])).build .engine .standard = .ok catalog ∧
      ∃ r ∈ catalog.rules, ∃ tags tags' : TagSet, AgreeOn r.testedKeys tags tags' ∧
        r.guard.admits tags = true ∧ r.guard.admits tags' = false ∧
        ∀ verifyGuards, (r.run verifyGuards tags).result = (r.run verifyGuards tags').result := by
  have h : (unnamedLights (some [["seamark:type"], ["depth"]])).build .engine .standard = .ok _ :=
    build_eq_ok.mpr ⟨by decide +kernel, rfl⟩
  have hagree : AgreeOn ["seamark:type", "name"] (.ofList [("depth", "3")]) .empty := by
    decide +kernel
  have hrun := result_run_congr_of_build h List.mem_cons_self hagree
  exact ⟨_, h, _, List.mem_cons_self, _, _, hagree, by decide +kernel, by decide +kernel, hrun⟩

end CatalogDefinition

end TagRules
