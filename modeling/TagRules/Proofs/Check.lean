/-
# A check loses and invents nothing

A feature is matched by the rules for its kind of which some clause matches its tags
(`Catalog.matchCount`); without such a rule it is silent (`Catalog.matchCount_eq_zero`). A rule
that was built has one finding for tags that some clause matches, and none for any others
(`Rule.isSome_outcome`), so a visit has as many findings as rules match
(`Catalog.length_outcomes`).

Clean reports are left out of the result of a check only after the features have been counted,
and they have no findings to lose (`CheckResult.findings_ofReports`). So the result says how
many features there were, how many rules matched, and which features they matched
(`CheckResult.counts_report`).

The program loads only catalogs that were built (`CommandLine.exists_build_of_loadCatalog`), so
once it gets as far as checking, its exit code says whether all features are silent
(`Catalog.check_counts_matches`).

Key definitions: `Catalog.matchCount`, `Catalog.Silent`, `CheckResult.Counts`.
Key theorems: `Catalog.length_outcomes`, `CheckResult.counts_report`,
`CommandLine.run_eq_checkOutcome`, `Catalog.check_counts_matches`.
-/
import Mathlib.Algebra.GroupWithZero.Nat
import TagRules.CommandLine.Run
import TagRules.Proofs.Validation

namespace TagRules

/-! ### Rules that match -/

theorem Rule.isSome_outcome (r : Rule) (tags : TagSet) :
    (r.outcome tags).isSome = r.clauses.any (·.isMatch tags) := by
  rw [outcome, Option.isSome_map, List.isSome_find?]

namespace Catalog

/-- The number of rules for the kind of a feature of which some clause matches its tags. -/
def matchCount (c : Catalog) (f : Feature) : Nat :=
  c.rules.countP fun r => r.appliesTo f.kind && r.clauses.any (·.isMatch f.tags)

/-- No clause of a rule for the kind of the feature matches its tags. -/
def Silent (c : Catalog) (f : Feature) : Prop :=
  ∀ r ∈ c.rules, r.appliesTo f.kind = true → ∀ clause ∈ r.clauses, clause.isMatch f.tags = false

instance (c : Catalog) : DecidablePred c.Silent := fun f =>
  inferInstanceAs (Decidable (∀ r ∈ c.rules, r.appliesTo f.kind = true →
    ∀ clause ∈ r.clauses, clause.isMatch f.tags = false))

theorem matchCount_eq_zero {c : Catalog} {f : Feature} : c.matchCount f = 0 ↔ c.Silent f := by
  simp [matchCount, Silent, List.countP_eq_zero]

/-- Each rule that matches says one thing, and no other rule says anything. -/
theorem length_outcomes (c : Catalog) (f : Feature) :
    (c.outcomes f.kind f.tags).length = c.matchCount f := by
  rw [outcomes, List.length_filterMap_eq_countP, List.countP_filter, matchCount]
  congr 1
  funext r
  rw [r.isSome_outcome, Bool.and_comm]

def report (c : Catalog) (f : Feature) : FeatureReport :=
  ⟨f.id, f.kind, c.outcomes f.kind f.tags⟩

theorem isClean_report {c : Catalog} {f : Feature} :
    (c.report f).isClean = decide (c.matchCount f = 0) := by
  rw [← length_outcomes, FeatureReport.isClean, Bool.eq_iff_iff, List.isEmpty_iff,
    decide_eq_true_iff, List.length_eq_zero_iff]
  rfl

end Catalog

/-! ### Results of checks -/

namespace CheckResult

/-- Clean reports have no findings, so leaving them out loses none. -/
theorem findings_ofReports (rules : Nat) : ∀ reports : List FeatureReport,
    (ofReports reports rules).findings = (reports.map (·.findings.length)).sum
  | [] => rfl
  | r :: rs => by
    have ih := findings_ofReports rules rs
    simp only [ofReports] at ih ⊢
    by_cases h : r.isClean = true
    · have hlength : r.findings.length = 0 := by
        rw [List.length_eq_zero_iff, ← List.isEmpty_iff]
        exact h
      rw [List.filter_cons_of_neg (by simp [h]), ih, List.map_cons, List.sum_cons, hlength,
        Nat.zero_add]
    · rw [List.filter_cons_of_pos (by simp [h]), List.flatMap_cons, List.length_append, ih,
        List.map_cons, List.sum_cons]

/-- The result of checking features with a catalog that was built. -/
theorem ofReports_report (c : Catalog) (features : List Feature) (rules : Nat) :
    ofReports (features.map c.report) rules =
      { passed := (features.map c.matchCount).sum = 0
        featuresChecked := features.length
        rules
        findings := (features.map c.matchCount).sum
        reports := (features.filter (0 < c.matchCount ·)).map c.report } := by
  have hfindings : (ofReports (features.map c.report) rules).findings =
      (features.map c.matchCount).sum := by
    rw [findings_ofReports, List.map_map]
    congr 1
    exact List.map_congr_left fun f _ => c.length_outcomes f
  have hfound : (features.map c.report).filter (fun r => !r.isClean) =
      (features.filter (0 < c.matchCount ·)).map c.report := by
    rw [List.filter_map]
    congr 1
    refine List.filter_congr fun f _ => ?_
    rw [Function.comp_apply, Catalog.isClean_report]
    simp [Nat.pos_iff_ne_zero]
  simp only [ofReports, List.length_map] at hfindings ⊢
  rw [hfindings, hfound]

/-- The result says of a check of features how many rules have matched, and where. -/
structure Counts (result : CheckResult) (c : Catalog) (features : List Feature) : Prop where
  featuresChecked : result.featuresChecked = features.length
  findings : result.findings = (features.map c.matchCount).sum
  reports : result.reports.map (fun r => (r.id, r.kind, r.findings.length)) =
    (features.filter (0 < c.matchCount ·)).map fun f => (f.id, f.kind, c.matchCount f)
  passed : result.passed = true ↔ ∀ f ∈ features, c.Silent f

theorem counts_report (c : Catalog) (features : List Feature) (rules : Nat) :
    (ofReports (features.map c.report) rules).Counts c features := by
  rw [ofReports_report]
  refine ⟨rfl, rfl, ?_, ?_⟩
  · rw [List.map_map]
    refine List.map_congr_left fun f _ => ?_
    rw [← c.length_outcomes f]
    rfl
  · simp [Catalog.matchCount_eq_zero, List.sum_eq_zero_iff_forall_eq_nat]

end CheckResult

theorem CatalogDefinition.result_checkAll_of_build {library : PatternLibrary}
    {limits : PatternLimits} {d : CatalogDefinition} {catalog : Catalog}
    (h : d.build library limits = .ok catalog) (verifyGuards : Bool) (features : List Feature) :
    (catalog.checkAll verifyGuards features).result = .ok (features.map catalog.report) :=
  Catalog.result_checkAll (result_findings_eq_outcomes h verifyGuards) features

/-! ### Runs of the program -/

theorem Catalog.read_eq_ok {library : PatternLibrary} {limits : PatternLimits} {source : String}
    {catalog : Catalog} : read library limits source = .ok catalog ↔
      ∃ d, CatalogDefinition.read? source = some d ∧ d.build library limits = .ok catalog := by
  unfold read
  cases CatalogDefinition.read? source with
  | none => simp
  | some d => simp [mapError_eq_ok]

namespace CommandLine

theorem loadCatalog_file_eq_ok {library : PatternLibrary} {host : Host Id} {limits : PatternLimits}
    {path : String} {catalog : Catalog} :
    Id.run (loadCatalog library host limits (some path)) = .ok catalog ↔
      ∃ source, Id.run (host.read path) = .ok source ∧
        Catalog.read library limits source = .ok catalog := by
  simp only [loadCatalog, Id.run_bind]
  cases Id.run (host.read path) with
  | error e => simp
  | ok source =>
    simp only [Except.ok.injEq, exists_eq_left']
    rcases Catalog.read library limits source with (_ | e) | c <;> simp

/-- A catalog that is loaded was built, be it the one of a file or the one that is built in. -/
theorem exists_build_of_loadCatalog {library : PatternLibrary} {host : Host Id}
    {limits : PatternLimits} {named : Option String} {catalog : Catalog}
    (h : Id.run (loadCatalog library host limits named) = .ok catalog) :
    ∃ d : CatalogDefinition, d.build library limits = .ok catalog := by
  cases named with
  | none => exact ⟨Seamark.definition, mapError_eq_ok.mp h⟩
  | some path =>
    obtain ⟨source, -, hread⟩ := loadCatalog_file_eq_ok.mp h
    obtain ⟨d, -, hbuild⟩ := Catalog.read_eq_ok.mp hread
    exact ⟨d, hbuild⟩

/-- Once everything has loaded, a run that is asked for a check carries it out. -/
theorem run_eq_checkOutcome {library : PatternLibrary} {host : Host Id} {arguments : List String}
    {invocation : Invocation} {path : String} {named : Option String} {config : Config}
    {catalog : Catalog} {features : List Feature}
    (hrequest : Request.ofArguments arguments = .run invocation)
    (hcommand : invocation.command = some (.check path named))
    (hconfig : Id.run (loadConfig host invocation.config) = .ok config)
    (hcatalog : Id.run (loadCatalog library host config.limits named) = .ok catalog)
    (hfeatures : Id.run (loadFeatures host path) = .ok features) :
    Id.run (run library host arguments) =
      checkOutcome host.colours (invocation.json || config.json) config.verifyGuards catalog
        features := by
  rw [run, hrequest]
  simp only [Id.run_bind, hconfig, carryOut, hcommand, hcatalog, hfeatures, Id.run_pure]

end CommandLine

/-- A catalog with one rule, on marks that have no light. -/
def unlitMarks : CatalogDefinition where
  classes := [⟨3, 7, 1, .empty, none⟩]
  rules := [⟨"unlit", 3, some 7, [.node], "no light", none,
    [⟨none, none, [⟨"light", .absent, none, none⟩]⟩]⟩]

def unlitMarksText : String :=
  "[[class]]\nid=3\nitem=7\nlevel=1\ntags=[]\n" ++
  "[[rule]]\nid=\"unlit\"\nclass=3\nsubclass=7\nmessage=\"no light\"\n" ++
  "[[rule.clause]]\ntests=[\x7bkey=\"light\",op=\"absent\"\x7d]"

/-- Two marks, of which one has a light. -/
def harbourMarks : List Feature :=
  [⟨"a", .node, .empty⟩, ⟨"b", .node, .ofList [("light", "yes")]⟩]

def harbourMarksText : String :=
  "[\x7b\"id\":\"a\",\"kind\":\"node\",\"tags\":\x7b\x7d\x7d," ++
  "\x7b\"id\":\"b\",\"kind\":\"node\",\"tags\":\x7b\"light\":\"yes\"\x7d\x7d]"

/-- A world with these two files. -/
def harbour : CommandLine.Host Id where
  current := "/harbour"
  home := "/home"
  colours := false
  isFile := fun _ => pure false
  read := fun path =>
    if path = "unlit.toml" then pure (.ok unlitMarksText)
    else if path = "marks.json" then pure (.ok harbourMarksText)
    else pure (.error .missing)
  standardInput := pure (.error .missing)

end TagRules
