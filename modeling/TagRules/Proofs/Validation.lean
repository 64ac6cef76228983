/-
# What an accepted definition guarantees

A rule without defects compiles to a sound rule (`RuleDefinition.sound_compiled`): its
guard, given or derived, covers all clauses, and each clause binds the slots of the
message. So nothing that is built ever fails when it is evaluated
(`CatalogDefinition.never_fails_of_build`). None of this depends on what patterns find. A
guard that is refused deserves it, because covering is exact
(`CatalogDefinition.guard_check_exact`).

Key theorems: `RuleDefinition.sound_compiled`, `CatalogDefinition.sound_of_build`,
`CatalogDefinition.never_fails_of_build`, `CatalogDefinition.guard_check_exact`.
-/
import TagRules.Pattern.Engine
import TagRules.Proofs.Build
import TagRules.Proofs.Visit

namespace TagRules

namespace RuleDefinition

variable {library : PatternLibrary} {limits : PatternLimits} {d : RuleDefinition}
  {found : String → String → Bool}

theorem slot_mem_messageSlots {ref : SlotRef} (h : ref ∈ d.template.placeholders) :
    ref.slot ∈ d.messageSlots := by
  unfold template at h
  unfold messageSlots
  cases hm : Template.parse d.message with
  | error e =>
    rw [hm] at h
    cases h
  | ok message =>
    rw [hm] at h
    exact SortedSet.mem_iff_mem_toList.mp
      (SortedSet.mem_ofList.mpr (List.mem_map.mpr ⟨ref, h, rfl⟩))

theorem binds_compiled (h : d.clauseDefects library limits = []) :
    ∀ c ∈ d.compiledClauses found, ∀ ref ∈ d.template.placeholders, ref.slot ∈ c.boundSlots := by
  intro _ hmem ref href
  obtain ⟨c, hc, rfl⟩ := List.mem_map.mp hmem
  obtain ⟨i, hi⟩ := exists_of_flatMap_zipIdx_eq_nil h hc
  have hunbound := (List.append_eq_nil_iff.mp hi).2
  have hslot := flatMap_defectIf_eq_nil.mp hunbound ref.slot (slot_mem_messageSlots href)
  exact (c.mem_boundSlots_compiled found d.id d.subclass).mpr (Decidable.not_not.mp hslot)

/-- If the guard has no defect, it covers all clauses. A derived guard has none. -/
theorem covers_compiledGuard (h : d.guardDefects = []) :
    ∀ c ∈ d.compiledClauses found, (d.compiledGuard found).covers c = true := by
  intro _ hmem
  unfold compiledGuard
  unfold guardDefects at h
  cases hg : d.guard with
  | none => exact Guard.covers_ofClauses hmem
  | some conjuncts =>
    rw [hg, Option.toList_some, List.flatMap_singleton] at h
    obtain ⟨c, hc, rfl⟩ := List.mem_map.mp hmem
    obtain ⟨i, hi⟩ := exists_of_flatMap_zipIdx_eq_nil h hc
    exact (c.covers_compiled found d.id d.subclass conjuncts).mpr
      (Decidable.not_not.mp (defectIf_eq_nil.mp hi))

theorem ownDefects_eq_nil : d.ownDefects library limits = [] ↔ d.clauses ≠ [] ∧
    d.messageDefects = [] ∧ d.clauseDefects library limits = [] ∧ d.guardDefects = [] := by
  simp [ownDefects]

/-- **A rule without defects is sound**, whatever its patterns find. -/
theorem sound_compiled (h : d.ownDefects library limits = []) : (d.compiled found).Sound := by
  obtain ⟨-, -, hclauses, hguard⟩ := ownDefects_eq_nil.mp h
  exact ⟨covers_compiledGuard hguard, binds_compiled hclauses⟩

end RuleDefinition

namespace CatalogDefinition

variable {library : PatternLibrary} {limits : PatternLimits} {d : CatalogDefinition}

theorem ownDefects_of_mem (h : d.defects library limits = []) {r : RuleDefinition}
    (hr : r ∈ d.rules) : r.ownDefects library limits = [] := by
  obtain ⟨i, hi⟩ := exists_of_flatMap_zipIdx_eq_nil (List.append_eq_nil_iff.mp h).2 hr
  exact (List.append_eq_nil_iff.mp hi).2

variable {catalog : Catalog}

theorem sound_of_build (h : d.build library limits = .ok catalog) :
    ∀ r ∈ catalog.rules, r.Sound := by
  obtain ⟨hd, rfl⟩ := build_eq_ok.mp h
  intro _ hmem
  obtain ⟨r, hr, rfl⟩ := List.mem_map.mp hmem
  exact RuleDefinition.sound_compiled (ownDefects_of_mem hd hr)

theorem result_findings_eq_outcomes (h : d.build library limits = .ok catalog)
    (verifyGuards : Bool) (kind : FeatureKind) (tags : TagSet) :
    (catalog.findings verifyGuards kind tags).result = .ok (catalog.outcomes kind tags) := by
  have hsound := sound_of_build h
  obtain ⟨-, rfl⟩ := build_eq_ok.mp h
  exact Catalog.result_findings hsound _ kind tags

/-- **What was built never fails.** Whatever the tags and whether or not guards are checked,
each rule gives a result, each visit gives findings, and each batch gives reports. -/
theorem never_fails_of_build (h : d.build library limits = .ok catalog) (verifyGuards : Bool) :
    (∀ r ∈ catalog.rules, ∀ tags, ∃ finding, (r.run verifyGuards tags).result = .ok finding) ∧
      (∀ kind tags, ∃ findings,
        (catalog.findings verifyGuards kind tags).result = .ok findings) ∧
      ∀ features, ∃ reports, (catalog.checkAll verifyGuards features).result = .ok reports := by
  have hvisit := result_findings_eq_outcomes h verifyGuards
  refine ⟨fun r hr tags => ?_, fun kind tags => ⟨_, hvisit kind tags⟩, fun features => ?_⟩
  · exact ⟨_, (sound_of_build h r hr).result_run verifyGuards tags⟩
  · exact ⟨_, Catalog.result_checkAll hvisit features⟩

/-- A catalog with one rule: lights have a name. -/
def unnamedLights (guard : Option (List (List String))) : CatalogDefinition where
  classes := [⟨3, 7, 1, .empty, none⟩]
  rules := [{
    id := "unnamed-light"
    classId := 3
    subclass := some 7
    kinds := [.node]
    message := "\x7b0.value\x7d without \x7b1.key\x7d"
    guard
    clauses := [⟨none, none,
      [⟨"seamark:type", .eq, some "light", some 0⟩, ⟨"name", .absent, none, some 1⟩]⟩] }]

theorem unnamedLights_never_fail :
    ∃ catalog, (unnamedLights (some [["seamark:type"]])).build .engine .standard = .ok catalog ∧
      ∀ kind tags, ∃ findings, (catalog.findings true kind tags).result = .ok findings := by
  have h : (unnamedLights (some [["seamark:type"]])).build .engine .standard = .ok _ :=
    build_eq_ok.mpr ⟨by decide +kernel, rfl⟩
  exact ⟨_, h, (never_fails_of_build h true).2.1⟩

end CatalogDefinition

/-! ### Guards that are refused -/

theorem ClauseDefinition.unsoundGuard_not_mem_defects {library : PatternLibrary}
    {limits : PatternLimits} {rule id : String} {slots : List Nat} {position i : Nat}
    {c : ClauseDefinition} :
    .unsoundGuard id position ∉ c.defects library limits rule slots i := by
  simp [defects, TestDefinition.defects, TestDefinition.valueDefects, patternDefects]

namespace RuleDefinition

variable {library : PatternLibrary} {limits : PatternLimits} {d : RuleDefinition}

/-- A guard counts as a defect only when the clauses are done. -/
theorem clauseDefects_eq_nil_of_unsoundGuard {id : String} {position : Nat}
    (h : (d.ownDefects library limits).head? = some (.unsoundGuard id position)) :
    d.clauseDefects library limits = [] ∧ .unsoundGuard id position ∈ d.guardDefects := by
  have hmessage : .unsoundGuard id position ∉ d.messageDefects := by
    unfold messageDefects
    split <;> simp
  have hclauses : .unsoundGuard id position ∉ d.clauseDefects library limits := by
    intro hmem
    obtain ⟨x, -, hx⟩ := List.mem_flatMap.mp hmem
    exact x.1.unsoundGuard_not_mem_defects hx
  obtain ⟨hnil, hguard⟩ := head?_append_of_not_mem h (by simp [hmessage, hclauses])
  exact ⟨(List.append_eq_nil_iff.mp hnil).2, List.mem_of_head? hguard⟩

/-- A guard is refused because of a clause that it does not cover. -/
theorem exists_of_unsoundGuard_mem {id : String} {position : Nat}
    (h : .unsoundGuard id position ∈ d.guardDefects) :
    d.id = id ∧ ∃ conjuncts, d.guard = some conjuncts ∧
      ∃ c, d.clauses[position]? = some c ∧ ¬ c.CoveredBy conjuncts := by
  obtain ⟨conjuncts, hconjuncts, h⟩ := List.mem_flatMap.mp h
  obtain ⟨⟨c, i⟩, hc, h⟩ := List.mem_flatMap.mp h
  obtain ⟨hnot, he⟩ := mem_defectIf.mp h
  obtain ⟨rfl, rfl⟩ := CatalogError.unsoundGuard.inj he
  exact ⟨rfl, conjuncts, Option.mem_toList.mp hconjuncts, c,
    List.mk_mem_zipIdx_iff_getElem?.mp hc, hnot⟩

/-- If a guard is refused, its clause was compiled, and a clause that can match has a match
that the guard would hold back. -/
theorem lost_match_of_unsoundGuard {id : String} {position : Nat}
    (h : (d.ownDefects library limits).head? = some (.unsoundGuard id position)) :
    d.id = id ∧ ∃ conjuncts, d.guard = some conjuncts ∧
      ∃ c clause, d.clauses[position]? = some c ∧
        (Build.clause library limits id d.subclass position c).run' .empty = .ok clause ∧
        ((∃ tags, clause.isMatch tags = true) → ∃ tags, clause.isMatch tags = true ∧
          (Guard.ofConjuncts conjuncts).admits tags = false) := by
  obtain ⟨hclauses, hguard⟩ := clauseDefects_eq_nil_of_unsoundGuard h
  obtain ⟨rfl, conjuncts, hconjuncts, c, hc, hnot⟩ := exists_of_unsoundGuard_mem hguard
  have hdefects : c.defects library limits d.id d.messageSlots position = [] :=
    List.flatMap_eq_nil_iff.mp hclauses (c, position) (List.mk_mem_zipIdx_iff_getElem?.mpr hc)
  have hclause := (Build.finds_clause library limits d.id d.subclass position c).run'_empty
  rw [(List.append_eq_nil_iff.mp hdefects).1] at hclause
  refine ⟨rfl, conjuncts, hconjuncts, c, _, hc, hclause, fun hsat => ?_⟩
  have hcovers : ¬ (Guard.ofConjuncts conjuncts).covers
      (c.compiled (library.found limits) d.id d.subclass) = true :=
    fun h => hnot ((c.covers_compiled (library.found limits) d.id d.subclass conjuncts).mp h)
  rw [Guard.covers_iff_admits hsat] at hcovers
  simpa using hcovers

end RuleDefinition

namespace CatalogDefinition

/-- If the first defect is a guard, some rule has it as its first. -/
theorem exists_rule_of_unsoundGuard {library : PatternLibrary} {limits : PatternLimits}
    {d : CatalogDefinition} {id : String} {position : Nat}
    (h : (d.defects library limits).head? = some (.unsoundGuard id position)) :
    ∃ r ∈ d.rules, (r.ownDefects library limits).head? = some (.unsoundGuard id position) := by
  -- classes come first, and then what a rule has in common with the rules before it
  have hclasses : .unsoundGuard id position ∉ d.classDefects := by
    simp [classDefects, Classification.defects]
  obtain ⟨-, h⟩ := head?_append_of_not_mem h hclasses
  rw [ruleDefects, List.head?_flatMap] at h
  obtain ⟨⟨r, i⟩, hr, h⟩ := List.exists_of_findSome?_eq_some h
  refine ⟨r, List.fst_mem_of_mem_zipIdx hr, ?_⟩
  exact (head?_append_of_not_mem h (by simp)).2

/-- **The check of guards is exact.** A guard covers a clause that can match exactly if it
admits all tags that the clause matches. So no given guard that is accepted holds back a match,
and a guard that is refused for a clause that can match does hold back one of its matches. -/
theorem guard_check_exact (library : PatternLibrary) (limits : PatternLimits)
    (d : CatalogDefinition) :
    (∀ (g : Guard) (c : Clause), (∃ tags, c.isMatch tags = true) →
      (g.covers c = true ↔ ∀ tags, c.isMatch tags = true → g.admits tags = true)) ∧
    (∀ catalog, d.build library limits = .ok catalog →
      ∀ r ∈ d.rules, ∀ conjuncts, r.guard = some conjuncts →
        ∃ r' ∈ catalog.rules, r'.id = r.id ∧ r'.guard = .ofConjuncts conjuncts ∧
          ∀ c ∈ r'.clauses, ∀ tags, c.isMatch tags = true → r'.guard.admits tags = true) ∧
    ∀ id position, d.build library limits = .error (.unsoundGuard id position) →
      ∃ r ∈ d.rules, r.id = id ∧ ∃ conjuncts, r.guard = some conjuncts ∧
        ∃ c clause, r.clauses[position]? = some c ∧
          (Build.clause library limits id r.subclass position c).run' .empty = .ok clause ∧
          ((∃ tags, clause.isMatch tags = true) → ∃ tags, clause.isMatch tags = true ∧
            (Guard.ofConjuncts conjuncts).admits tags = false) := by
  refine ⟨fun g c => Guard.covers_iff_admits, fun catalog h r hr conjuncts hg => ?_,
    fun id position h => ?_⟩
  · obtain ⟨hd, rfl⟩ := build_eq_ok.mp h
    have hsound : (r.compiled (library.found limits)).Sound :=
      RuleDefinition.sound_compiled (ownDefects_of_mem hd hr)
    have hguard : (r.compiled (library.found limits)).guard = .ofConjuncts conjuncts := by
      rw [RuleDefinition.compiled, RuleDefinition.compiledGuard, hg]
    refine ⟨_, List.mem_map_of_mem hr, rfl, hguard, fun c hc tags hmatch => ?_⟩
    exact Guard.admits_of_covers (hsound.covers c hc) hmatch
  · obtain ⟨r, hr, hfirst⟩ := exists_rule_of_unsoundGuard (build_eq_error.mp h)
    exact ⟨r, hr, RuleDefinition.lost_match_of_unsoundGuard hfirst⟩

/-- The clause of the rule on lights. -/
def unnamedLight : Clause :=
  ⟨[⟨"seamark:type", .equals "light", some 0⟩, ⟨"name", .absent, some 1⟩], 7, none⟩

theorem unnamedLights_guards :
    ((Guard.ofConjuncts [["name"]]).covers unnamedLight = true ↔
      ∀ tags, unnamedLight.isMatch tags = true →
        (Guard.ofConjuncts [["name"]]).admits tags = true) ∧
    (∃ catalog, (unnamedLights (some [["seamark:type"]])).build .engine .standard = .ok catalog ∧
      ∃ r ∈ catalog.rules, r.guard = .ofConjuncts [["seamark:type"]] ∧
        ∀ c ∈ r.clauses, ∀ tags, c.isMatch tags = true → r.guard.admits tags = true) ∧
    (unnamedLights (some [["name"]])).build .engine .standard =
      .error (.unsoundGuard "unnamed-light" 0) ∧
    ∃ tags, unnamedLight.isMatch tags = true ∧
      (Guard.ofConjuncts [["name"]]).admits tags = false := by
  have hmatch : ∃ tags, unnamedLight.isMatch tags = true :=
    ⟨.ofList [("seamark:type", "light")], by decide +kernel⟩
  have haccepted : (unnamedLights (some [["seamark:type"]])).build .engine .standard = .ok _ :=
    build_eq_ok.mpr ⟨by decide +kernel, rfl⟩
  have hrefused : (unnamedLights (some [["name"]])).build .engine .standard =
      .error (.unsoundGuard "unnamed-light" 0) := build_eq_error.mpr (by decide +kernel)
  obtain ⟨hexact, hadmits, -⟩ :=
    guard_check_exact .engine .standard (unnamedLights (some [["seamark:type"]]))
  obtain ⟨-, -, hrejects⟩ := guard_check_exact .engine .standard (unnamedLights (some [["name"]]))
  obtain ⟨rule, hrule, -, hkept⟩ := hadmits _ haccepted _ List.mem_cons_self _ rfl
  refine ⟨hexact _ _ hmatch, ⟨_, haccepted, rule, hrule, hkept⟩, hrefused, ?_⟩
  obtain ⟨r, hr, -, conjuncts, hconjuncts, c, clause, hc, hclause, hlost⟩ :=
    hrejects _ _ hrefused
  obtain rfl := List.mem_singleton.mp hr
  obtain rfl := Option.some.inj hconjuncts
  obtain rfl := Option.some.inj hc
  obtain rfl : unnamedLight = clause := Except.ok.inj hclause
  exact hlost hmatch

end CatalogDefinition

end TagRules
