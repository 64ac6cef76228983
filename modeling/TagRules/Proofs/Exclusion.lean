/-
# Rules that exclude each other

Two tests exclude each other if no value of their key passes both: different texts, the same
text and not that text, a missing key and one that is needed. Clauses exclude each other if
some of their tests do, and rules if all of their clauses do. The check looks at definitions
only, so it can be computed for a catalog, and of rules that exclude each other at most one
reports (`CatalogDefinition.reports_at_most_one`).

In the seamark catalog the diagnoses on what a mark is exclude each other, and so do the two
on wrecks (`Seamark.contradictions_apart`).

Key definitions: `RuleDefinition.Excludes`, `CatalogDefinition.Exclusive`,
`Catalog.ruleFindings`.
Key theorems: `RuleDefinition.Excludes.reading_eq_none`,
`CatalogDefinition.result_findings_eq_ruleFindings`, `CatalogDefinition.reports_at_most_one`,
`Seamark.contradictions_apart`.
-/
import TagRules.Proofs.Reading
import TagRules.Proofs.SeamarkCatalog

namespace TagRules

/-! ### Tests, clauses and rules -/

variable {found : String → String → Bool}

namespace TestDefinition

/-- Whether a test says of its key what another one denies: another text, that it is not the
text, or that there is no such key. -/
def Denies (t t' : TestDefinition) : Prop :=
  t.key = t'.key ∧
    (t.op = .eq ∧ t'.op = .eq ∧ t.operand ≠ t'.operand ∨
      t.op = .eq ∧ t'.op = .ne ∧ t.operand = t'.operand ∨
      t.op = .absent ∧ t'.op.needsKey = true)

instance (t t' : TestDefinition) : Decidable (t.Denies t') :=
  inferInstanceAs (Decidable (_ ∧ _))

theorem Denies.not_holds {tags : TagSet} {t t' : TestDefinition} (h : t.Denies t')
    (ht : t.Holds found tags) : ¬ t'.Holds found tags := by
  intro ht'
  obtain ⟨hkey, ⟨hop, hop', hne⟩ | ⟨hop, hop', heq⟩ | ⟨hop, hneeds⟩⟩ := h
  · simp only [Holds, hop] at ht
    simp only [Holds, hop', ← hkey] at ht'
    exact hne (Option.some.inj (ht.symm.trans ht'))
  · simp only [Holds, hop] at ht
    simp only [Holds, hop', ← hkey, ← heq] at ht'
    exact ht' ht
  · simp only [Holds, hop] at ht
    rw [← t'.needsKey_compiled found] at hneeds
    have hcontains := Test.contains_of_holds hneeds ((t'.holds_compiled found tags).mpr ht')
    exact ht (hkey ▸ hcontains)

end TestDefinition

/-- Whether some test of one clause denies one of the other. -/
def ClauseDefinition.Excludes (c c' : ClauseDefinition) : Prop :=
  ∃ t ∈ c.tests, ∃ t' ∈ c'.tests, t.Denies t' ∨ t'.Denies t

instance (c c' : ClauseDefinition) : Decidable (c.Excludes c') :=
  inferInstanceAs (Decidable (∃ t ∈ c.tests, ∃ t' ∈ c'.tests, t.Denies t' ∨ t'.Denies t))

theorem ClauseDefinition.Excludes.not_holds {tags : TagSet} {c c' : ClauseDefinition}
    (h : c.Excludes c') (hc : c.Holds found tags) : ¬ c'.Holds found tags := by
  intro hc'
  obtain ⟨t, ht, t', ht', hdenies | hdenies⟩ := h
  · exact hdenies.not_holds (hc t ht) (hc' t' ht')
  · exact hdenies.not_holds (hc' t' ht') (hc t ht)

namespace RuleDefinition

/-- Whether each clause of one rule excludes each of the other. -/
def Excludes (d d' : RuleDefinition) : Prop := ∀ c ∈ d.clauses, ∀ c' ∈ d'.clauses, c.Excludes c'

instance (d d' : RuleDefinition) : Decidable (d.Excludes d') :=
  inferInstanceAs (Decidable (∀ c ∈ d.clauses, ∀ c' ∈ d'.clauses, c.Excludes c'))

theorem reading_eq_none {d : RuleDefinition} {tags : TagSet} :
    d.reading found tags = none ↔ ∀ c ∈ d.clauses, ¬ c.Holds found tags := by
  simp [reading]

/-- Of two rules that exclude each other, one reports nothing. -/
theorem Excludes.reading_eq_none (found : String → String → Bool) {d d' : RuleDefinition}
    (h : d.Excludes d') (tags : TagSet) :
    d.reading found tags = none ∨ d'.reading found tags = none := by
  by_cases hd : d.reading found tags = none
  · exact .inl hd
  · rw [RuleDefinition.reading_eq_none] at hd
    push Not at hd
    obtain ⟨c, hc, hholds⟩ := hd
    exact .inr (RuleDefinition.reading_eq_none.mpr fun c' hc' =>
      (h c hc c' hc').not_holds hholds)

/-- A rule without defects gives what its definition says. -/
theorem result_run_compiled {library : PatternLibrary} {limits : PatternLimits} {d : RuleDefinition}
    (h : d.ownDefects library limits = []) (verifyGuards : Bool) (tags : TagSet) :
    ((d.compiled found).run verifyGuards tags).result = .ok (d.reading found tags) := by
  obtain ⟨-, hmessage, -, -⟩ := ownDefects_eq_nil.mp h
  rw [(sound_compiled h).result_run, outcome_compiled found hmessage]

end RuleDefinition

/-! ### Findings with their rules -/

/-- What the rules for a kind report of a tag set, in catalog order, each finding with the id
of its rule. -/
def Catalog.ruleFindings (verifyGuards : Bool) (c : Catalog) (kind : FeatureKind)
    (tags : TagSet) : List (String × Finding) :=
  (c.rules.filter (·.appliesTo kind)).filterMap fun r =>
    match (r.run verifyGuards tags).result with
    | .ok (some finding) => some (r.id, finding)
    | _ => none

namespace CatalogDefinition

variable {library : PatternLibrary} {limits : PatternLimits} {found : String → String → Bool}
  {d : CatalogDefinition}

theorem ruleFindings_compiled (h : d.defects library limits = []) (verifyGuards : Bool)
    (kind : FeatureKind) (tags : TagSet) :
    (d.compiled found).ruleFindings verifyGuards kind tags =
      (d.rules.filter (kind ∈ ·.kinds)).filterMap fun r =>
        (r.reading found tags).map (r.id, ·) := by
  rw [Catalog.ruleFindings, filter_appliesTo_compiled, List.filterMap_map]
  refine List.filterMap_congr fun r hr => ?_
  have hrun : ((r.compiled found).run verifyGuards tags).result = .ok (r.reading found tags) :=
    RuleDefinition.result_run_compiled (ownDefects_of_mem h (List.mem_filter.mp hr).1) ..
  rw [Function.comp_apply, hrun]
  cases r.reading found tags <;> rfl

/-- The findings of a visit are those of the rules. -/
theorem result_findings_eq_ruleFindings {c : Catalog} (h : d.build library limits = .ok c)
    (verifyGuards : Bool) (kind : FeatureKind) (tags : TagSet) :
    (c.findings verifyGuards kind tags).result =
      .ok ((c.ruleFindings verifyGuards kind tags).map (·.2)) := by
  rw [result_findings_of_build h]
  obtain ⟨hd, rfl⟩ := build_eq_ok.mp h
  rw [ruleFindings_compiled hd, List.map_filterMap, reading]
  simp [Function.comp_def]

/-- Whether the rules with some ids exclude each other. -/
def Exclusive (d : CatalogDefinition) (ids : List String) : Prop :=
  d.rules.Pairwise fun r r' => r.id ∈ ids → r'.id ∈ ids → r.Excludes r'

instance (d : CatalogDefinition) (ids : List String) : Decidable (d.Exclusive ids) :=
  inferInstanceAs (Decidable (List.Pairwise _ _))

/-- **Of rules that exclude each other at most one reports.** -/
theorem reports_at_most_one {c : Catalog} (h : d.build library limits = .ok c) {ids : List String}
    (hexclusive : d.Exclusive ids) (verifyGuards : Bool) (kind : FeatureKind) (tags : TagSet) :
    ((c.ruleFindings verifyGuards kind tags).filter (·.1 ∈ ids)).length ≤ 1 := by
  obtain ⟨hd, rfl⟩ := build_eq_ok.mp h
  rw [ruleFindings_compiled hd, List.filter_filterMap]
  refine length_filterMap_le_one ((hexclusive.filter _).imp fun {r r'} hr => ?_)
  -- Nothing is left of a rule with another id, whatever it reports.
  by_cases hid : r.id ∈ ids
  · by_cases hid' : r'.id ∈ ids
    · obtain hnone | hnone := (hr hid hid').reading_eq_none (library.found limits) tags
      · exact .inl (by simp [hnone])
      · exact .inr (by simp [hnone])
    · exact .inr (by simp [Option.filter_map, Function.comp_def, hid'])
  · exact .inl (by simp [Option.filter_map, Function.comp_def, hid])

/-- Of rules that exclude each other no two findings come together. -/
theorem eq_of_mem_ruleFindings {c : Catalog} (h : d.build library limits = .ok c)
    {ids : List String} (hexclusive : d.Exclusive ids) {verifyGuards : Bool} {kind : FeatureKind}
    {tags : TagSet} {e e' : String × Finding} (he : e ∈ c.ruleFindings verifyGuards kind tags)
    (he' : e' ∈ c.ruleFindings verifyGuards kind tags) (hid : e.1 ∈ ids) (hid' : e'.1 ∈ ids) :
    e = e' := by
  have hmem : e ∈ (c.ruleFindings verifyGuards kind tags).filter (·.1 ∈ ids) :=
    List.mem_filter.mpr ⟨he, decide_eq_true hid⟩
  have hmem' : e' ∈ (c.ruleFindings verifyGuards kind tags).filter (·.1 ∈ ids) :=
    List.mem_filter.mpr ⟨he', decide_eq_true hid'⟩
  have hlength := Nat.le_antisymm (reports_at_most_one h hexclusive verifyGuards kind tags)
    (List.length_pos_of_mem hmem)
  obtain ⟨a, ha⟩ := List.length_eq_one_iff.mp hlength
  rw [ha, List.mem_singleton] at hmem hmem'
  exact hmem.trans hmem'.symm

end CatalogDefinition

/-! ### The seamark catalog -/

namespace Seamark

/-- The rules that say what is wrong with a lateral or cardinal mark, a wreck or a rock. -/
def markDiagnoses : List String :=
  ["seamark-lateral-without-system", "seamark-lateral-category-colour",
   "seamark-cardinal-category-colour", "seamark-wreck-without-category",
   "seamark-rock-without-water-level"]

/-- **Contradictory diagnoses never come together.** The seamark catalog can be built with the
engine, and with each other library that takes its words. With whatever library it was built, and
whatever the tags of a point, at most one of the findings is from the rules on marks, wrecks
and rocks, and a wreck without a category is not also said to be no wreck. -/
theorem contradictions_apart : (∃ c, catalog .engine .standard = .ok c) ∧
    (∀ library : PatternLibrary, (∀ words ∈ wordLists, Query.Takes library words) →
      ∃ c, catalog library .standard = .ok c) ∧
    ∀ (library : PatternLibrary) (limits : PatternLimits) (c : Catalog),
      catalog library limits = .ok c → ∀ (verifyGuards : Bool) (tags : TagSet),
        (c.findings verifyGuards .node tags).result =
          .ok ((c.ruleFindings verifyGuards .node tags).map (·.2)) ∧
        ((c.ruleFindings verifyGuards .node tags).filter (·.1 ∈ markDiagnoses)).length ≤ 1 ∧
        ¬ ((∃ f, ("seamark-wreck-without-category", f) ∈ c.ruleFindings verifyGuards .node tags) ∧
          ∃ f, ("seamark-wreck-category-without-type", f) ∈
            c.ruleFindings verifyGuards .node tags) := by
  have hmarks : definition.Exclusive markDiagnoses := by decide +kernel
  have hwrecks : definition.Exclusive
      ["seamark-wreck-without-category", "seamark-wreck-category-without-type"] := by
    decide +kernel
  refine ⟨exists_catalog_engine, fun library h => exists_catalog h,
    fun library limits c h verifyGuards tags => ⟨?_, ?_, ?_⟩⟩
  · exact CatalogDefinition.result_findings_eq_ruleFindings h verifyGuards .node tags
  · exact CatalogDefinition.reports_at_most_one h hmarks verifyGuards .node tags
  · rintro ⟨⟨f, hf⟩, f', hf'⟩
    have hsame := CatalogDefinition.eq_of_mem_ruleFindings h hwrecks hf hf' (by simp) (by simp)
    exact absurd (Prod.mk.inj hsame).1 (by decide)

theorem bare_wreck_diagnosed_once :
    ∃ c, catalog .engine .standard = .ok c ∧
      c.ruleFindings true .node (.ofList [("seamark:type", "wreck")]) =
        [("seamark-wreck-without-category",
          ⟨9012006, 408021642, "wreck have no seamark:wreck:category"⟩)] ∧
      (c.findings true .node (.ofList [("seamark:type", "wreck")])).result =
        .ok [⟨9012006, 408021642, "wreck have no seamark:wreck:category"⟩] ∧
      ¬ ∃ f, ("seamark-wreck-category-without-type", f) ∈
        c.ruleFindings true .node (.ofList [("seamark:type", "wreck")]) := by
  obtain ⟨⟨c, h⟩, -, happart⟩ := contradictions_apart
  obtain ⟨hfindings, -, hnot⟩ :=
    happart .engine .standard c h true (.ofList [("seamark:type", "wreck")])
  have hrules : c.ruleFindings true .node (.ofList [("seamark:type", "wreck")]) =
      [("seamark-wreck-without-category",
        ⟨9012006, 408021642, "wreck have no seamark:wreck:category"⟩)] := by
    obtain ⟨hd, rfl⟩ := CatalogDefinition.build_eq_ok.mp h
    rw [CatalogDefinition.ruleFindings_compiled hd]
    decide +kernel
  have hwreck : ∃ f, ("seamark-wreck-without-category", f) ∈
      c.ruleFindings true .node (.ofList [("seamark:type", "wreck")]) :=
    ⟨_, hrules ▸ List.mem_singleton_self _⟩
  refine ⟨c, h, hrules, ?_, fun hother => hnot ⟨hwreck, hother⟩⟩
  rw [hfindings, hrules]
  rfl

end Seamark

end TagRules
