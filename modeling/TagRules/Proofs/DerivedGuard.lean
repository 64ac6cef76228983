/-
# A derived guard is the strongest that covers all clauses

The guard that is derived from clauses admits a tag set exactly if it has all the keys that some
clause needs (`Guard.admits_ofClauses`). A guard that covers the clauses has a conjunct below the
keys of each, so it admits what the derived guard admits (`Guard.admits_of_admits_ofClauses`).

Guards that are given are checked to cover all clauses. So a rule whose guard is left out is
accepted if it was with its guard, nothing else in the catalog changes, and the rule is tried on no
more tag sets than before (`Guard.ofClauses_strongest`).

Key definition: `RuleDefinition.withoutGuard`.
Key theorems: `Guard.admits_ofClauses`, `Guard.admits_of_admits_ofClauses`,
`CatalogDefinition.defects_withoutGuard`, `Guard.ofClauses_strongest`.
-/
import TagRules.Proofs.Independence

namespace TagRules

namespace Guard

variable {clauses : List Clause} {tags : TagSet}

theorem admits_ofClauses : (ofClauses clauses).admits tags = true ↔
    ∃ c ∈ clauses, ∀ k ∈ c.neededKeys, tags.contains k = true := by
  rw [admits_iff]
  constructor
  · rintro ⟨keys, hkeys, hall⟩
    obtain ⟨c, hc, rfl⟩ := mem_ofClauses.mp hkeys
    exact ⟨c, hc, hall⟩
  · rintro ⟨c, hc, hall⟩
    exact ⟨c.neededKeys, mem_ofClauses.mpr ⟨c, hc, rfl⟩, hall⟩

/-- A guard that covers all clauses holds back nothing that the derived guard lets through. -/
theorem admits_of_admits_ofClauses {g : Guard} (hg : ∀ c ∈ clauses, g.covers c = true)
    (h : (ofClauses clauses).admits tags = true) : g.admits tags = true := by
  obtain ⟨c, hc, hall⟩ := admits_ofClauses.mp h
  obtain ⟨keys, hkeys, hsub⟩ := covers_iff.mp (hg c hc)
  exact admits_iff.mpr ⟨keys, hkeys, fun k hk => hall k (hsub k hk)⟩

end Guard

/-! ### Rules without a guard of their own -/

namespace RuleDefinition

/-- The rule with its guard left out. -/
def withoutGuard (d : RuleDefinition) : RuleDefinition := { d with guard := none }

/-- Only the guard of the rule changes. -/
theorem compiled_withoutGuard (found : String → String → Bool) (d : RuleDefinition) :
    d.withoutGuard.compiled found =
      { d.compiled found with guard := .ofClauses (d.compiled found).clauses } := rfl

theorem ownDefects_withoutGuard {library : PatternLibrary} {limits : PatternLimits}
    {d : RuleDefinition} (h : d.ownDefects library limits = []) :
    d.withoutGuard.ownDefects library limits = [] := by
  obtain ⟨hclauses, hmessage, hdefects, -⟩ := ownDefects_eq_nil.mp h
  exact ownDefects_eq_nil.mpr ⟨hclauses, hmessage, hdefects, rfl⟩

end RuleDefinition

namespace CatalogDefinition

variable {library : PatternLibrary} {limits : PatternLimits} {classes : List Classification}
  {before after : List RuleDefinition} {d : RuleDefinition}

theorem defects_withoutGuard (h : defects library limits ⟨classes, before ++ d :: after⟩ = []) :
    defects library limits ⟨classes, before ++ d.withoutGuard :: after⟩ = [] := by
  obtain ⟨hclasses, hids, hrules⟩ := defects_eq_nil.mp h
  have hsame : (before ++ d.withoutGuard :: after).map (·.id) =
      (before ++ d :: after).map (·.id) := by
    rw [List.map_append, List.map_append]
    rfl
  obtain ⟨hclass, hown⟩ := hrules d (by simp)
  refine defects_eq_nil.mpr ⟨hclasses, ?_, forall_mem_replace hrules
    ⟨hclass, RuleDefinition.ownDefects_withoutGuard hown⟩⟩
  rw [← List.pairwise_map] at hids ⊢
  rwa [hsame]

end CatalogDefinition

namespace Guard

/-- **A derived guard is the strongest that passes the check.** It covers all its clauses, it admits
what has the keys that some clause needs, and any guard that covers the clauses admits that too. So
when the guard of a rule is left out, the catalog is accepted as before, and only this guard
changes: it admits no tag set that the given one does not. -/
theorem ofClauses_strongest :
    (∀ clauses : List Clause, (∀ c ∈ clauses, (ofClauses clauses).covers c = true) ∧
      (∀ tags, (ofClauses clauses).admits tags = true ↔
        ∃ c ∈ clauses, ∀ k ∈ c.neededKeys, tags.contains k = true) ∧
      ∀ g : Guard, (∀ c ∈ clauses, g.covers c = true) →
        ∀ tags, (ofClauses clauses).admits tags = true → g.admits tags = true) ∧
    ∀ (library : PatternLibrary) (limits : PatternLimits) (classes : List Classification)
      (before after : List RuleDefinition) (d : RuleDefinition) (catalog : Catalog),
      CatalogDefinition.build library limits ⟨classes, before ++ d :: after⟩ = .ok catalog →
      ∃ front r back, front.length = before.length ∧
        catalog = .ofRules (front ++ r :: back) catalog.classes ∧
        CatalogDefinition.build library limits ⟨classes, before ++ d.withoutGuard :: after⟩ =
          .ok (.ofRules (front ++ { r with guard := ofClauses r.clauses } :: back)
            catalog.classes) ∧
        ∀ tags, (ofClauses r.clauses).admits tags = true → r.guard.admits tags = true := by
  refine ⟨fun clauses => ⟨fun c => covers_ofClauses, fun tags => admits_ofClauses,
    fun g hg tags => admits_of_admits_ofClauses hg⟩, ?_⟩
  intro library limits classes before after d catalog h
  obtain ⟨hd, rfl⟩ := CatalogDefinition.build_eq_ok.mp h
  have hown : d.ownDefects library limits = [] :=
    CatalogDefinition.ownDefects_of_mem hd (List.mem_append_right before List.mem_cons_self)
  have hsound : (d.compiled (library.found limits)).Sound := RuleDefinition.sound_compiled hown
  let compiled (d : RuleDefinition) : Rule := d.compiled (library.found limits)
  have hrules : ∀ d : RuleDefinition, (before ++ d :: after).map compiled =
      before.map compiled ++ compiled d :: after.map compiled := fun _ => List.map_append
  refine ⟨before.map compiled, compiled d, after.map compiled, List.length_map _, ?_,
    CatalogDefinition.build_eq_ok.mpr ⟨CatalogDefinition.defects_withoutGuard hd, ?_⟩,
    fun tags => admits_of_admits_ofClauses hsound.covers⟩
  · rw [← hrules]
    rfl
  · rw [← RuleDefinition.compiled_withoutGuard, ← hrules]
    rfl

/-- The guard that is given lets a depth through, and the derived one does not. -/
theorem ofClauses_unnamedLight :
    let given := ofConjuncts [["seamark:type"], ["depth"]]
    let derived := ofClauses [CatalogDefinition.unnamedLight]
    let depth : TagSet := .ofList [("depth", "3")]
    given.covers CatalogDefinition.unnamedLight = true ∧
      (∀ tags, derived.admits tags = true → given.admits tags = true) ∧
      given.admits depth = true ∧ derived.admits depth = false ∧
      (∃ catalog, (CatalogDefinition.unnamedLights (some [["seamark:type"], ["depth"]])).build
        .engine .standard = .ok catalog) ∧
      ∃ catalog, (CatalogDefinition.unnamedLights none).build .engine .standard = .ok catalog := by
  intro given derived depth
  have hcovers : given.covers CatalogDefinition.unnamedLight = true := by decide +kernel
  obtain ⟨hstrongest, hbuild⟩ := ofClauses_strongest
  obtain ⟨-, hadmits, hleast⟩ := hstrongest [CatalogDefinition.unnamedLight]
  have hdepth : derived.admits depth = false := by
    rw [← Bool.not_eq_true, hadmits]
    decide +kernel
  have hgiven : (CatalogDefinition.unnamedLights (some [["seamark:type"], ["depth"]])).build
      .engine .standard = .ok _ :=
    CatalogDefinition.build_eq_ok.mpr ⟨by decide +kernel, rfl⟩
  obtain ⟨front, r, back, -, -, hderived, -⟩ := hbuild .engine .standard _ [] [] _ _ hgiven
  exact ⟨hcovers, hleast given (List.forall_mem_singleton.mpr hcovers), by decide +kernel, hdepth,
    ⟨_, hgiven⟩, _, hderived⟩

end Guard

end TagRules
