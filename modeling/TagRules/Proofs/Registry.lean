/-
# The registry of classes

Classes are accepted only if their ids differ (`CatalogDefinition.classDefects_eq_nil`), so a
catalog that was built has every class of its definition under its id, and no other
(`CatalogDefinition.class?_compiled_eq_some_iff`). Listed, they ascend by their ids.

A rule is accepted only if its class is known. So each rule is counted under exactly one of the
classes that are listed, and the counts add up to the number of rules
(`Catalog.sum_ruleCount`). A finding comes from a rule and reports under its class, so the class of
a finding is listed, and not with a count of zero (`CatalogDefinition.registry_of_build`).

Key theorems: `CatalogDefinition.perm_entries_compiled`,
`CatalogDefinition.class?_compiled_eq_some_iff`, `Catalog.sum_ruleCount`,
`CatalogDefinition.registry_of_build`.
-/
import Mathlib.Algebra.BigOperators.Group.Finset.Basic
import Mathlib.Algebra.GroupWithZero.Nat
import TagRules.Proofs.Independence
import TagRules.Report

namespace TagRules

/-! ### The classes that are registered -/

namespace CatalogDefinition

variable {found : String → String → Bool} {d : CatalogDefinition}

theorem classDefects_eq_nil : d.classDefects = [] ↔ d.classes.Pairwise (·.id ≠ ·.id) := by
  have hclass : ∀ (i : Nat) (c : Classification),
      c.defects (d.classes.take i) = [] ↔ ∀ c' ∈ d.classes.take i, c'.id ≠ c.id := by
    intro i c
    simp [Classification.defects]
  rw [classDefects, flatMap_zipIdx_eq_nil_iff, ← forall_take_iff_pairwise]
  exact forall₃_congr fun i c _ => hclass i c

/-- Each class becomes one entry, at its id. -/
theorem perm_entries_compiled (h : d.classDefects = []) :
    (d.compiled found).classes.entries.Perm (d.classes.map fun c => (c.id, c)) := by
  have hdiffer : (d.classes.map fun c => (c.id, c)).Pairwise (·.1 ≠ ·.1) := by
    rw [List.pairwise_map]
    exact classDefects_eq_nil.mp h
  exact SortedMap.perm_entries_ofList hdiffer

theorem class?_compiled_eq_some_iff (h : d.classDefects = []) {id : UInt32} {c : Classification} :
    (d.compiled found).class? id = some c ↔ c ∈ d.classes ∧ c.id = id := by
  rw [Catalog.class?, SortedMap.get?_eq_some_iff, (perm_entries_compiled h).mem_iff, List.mem_map]
  constructor
  · rintro ⟨c', hc', he⟩
    obtain ⟨rfl, rfl⟩ := Prod.mk.inj he
    exact ⟨hc', rfl⟩
  · rintro ⟨hc, rfl⟩
    exact ⟨c, hc, rfl⟩

theorem perm_values_compiled (h : d.classDefects = []) :
    (d.compiled found).classes.values.Perm d.classes := by
  have hmap := (perm_entries_compiled h : (d.compiled found).classes.entries.Perm _).map (·.2)
  rw [List.map_map] at hmap
  exact hmap.trans (.of_eq (List.map_id d.classes))

/-- Entries ascend by their keys, and the keys are the ids of the classes. -/
theorem pairwise_values_compiled (h : d.classDefects = []) :
    (d.compiled found).classes.values.Pairwise (·.id < ·.id) := by
  have hkey : ∀ e ∈ (d.compiled found).classes.entries, e.2.id = e.1 := by
    intro e he
    obtain ⟨c, -, rfl⟩ := List.mem_map.mp ((perm_entries_compiled h).mem_iff.mp he)
    rfl
  rw [SortedMap.values, List.pairwise_map]
  refine (d.compiled found).classes.ascending.imp_of_mem fun {e e'} he he' hlt => ?_
  rwa [hkey e he, hkey e' he']

end CatalogDefinition

/-! ### Rules and findings under the classes -/

namespace Catalog

theorem ruleCount_eq_count (c : Catalog) (id : UInt32) :
    c.ruleCount id = (c.rules.map (·.classId) : Multiset UInt32).count id := by
  rw [ruleCount, Multiset.coe_count, List.count_eq_countP, List.countP_map]
  rfl

/-- If all rules report under some of the classes `ids`, each of them is counted once. -/
theorem sum_ruleCount {c : Catalog} {ids : List UInt32} (hids : ids.Nodup)
    (h : ∀ r ∈ c.rules, r.classId ∈ ids) : (ids.map c.ruleCount).sum = c.rules.length := by
  have hmem : ∀ id ∈ (c.rules.map (·.classId) : Multiset UInt32), id ∈ ids.toFinset := by
    intro id hid
    obtain ⟨r, hr, rfl⟩ := List.mem_map.mp (Multiset.mem_coe.mp hid)
    exact List.mem_toFinset.mpr (h r hr)
  calc
    (ids.map c.ruleCount).sum = ids.toFinset.sum c.ruleCount :=
      (List.sum_toFinset c.ruleCount hids).symm
    _ = ids.toFinset.sum fun id => (c.rules.map (·.classId) : Multiset UInt32).count id :=
      Finset.sum_congr rfl fun id _ => c.ruleCount_eq_count id
    _ = (c.rules.map (·.classId) : Multiset UInt32).card := Multiset.sum_count_eq_card hmem
    _ = c.rules.length := List.length_map _

theorem ruleCount_pos {c : Catalog} {r : Rule} (hr : r ∈ c.rules) : 1 ≤ c.ruleCount r.classId :=
  List.countP_pos_iff.mpr ⟨r, hr, by simp⟩

/-- What is found comes from a rule, and has its class. -/
theorem exists_rule_of_mem_outcomes {c : Catalog} {kind : FeatureKind} {tags : TagSet} {f : Finding}
    (h : f ∈ c.outcomes kind tags) : ∃ r ∈ c.rules, f.classId = r.classId := by
  obtain ⟨r, hr, hf⟩ := List.mem_filterMap.mp h
  obtain ⟨clause, -, rfl⟩ := Option.map_eq_some_iff.mp hf
  exact ⟨r, (List.mem_filter.mp hr).1, rfl⟩

end Catalog

namespace CatalogDefinition

variable {library : PatternLibrary} {limits : PatternLimits} {found : String → String → Bool}
  {d : CatalogDefinition}

/-- All rules of a definition without defects report under classes that it defines. -/
theorem exists_class_of_mem_compiled (h : d.defects library limits = []) {r : Rule}
    (hr : r ∈ (d.compiled found).rules) : ∃ c ∈ d.classes, c.id = r.classId := by
  obtain ⟨rd, hrd, rfl⟩ := List.mem_map.mp hr
  obtain ⟨-, -, hrules⟩ := defects_eq_nil.mp h
  exact (hrules rd hrd).1

/-- **The registry is complete.** The classes of a catalog that was built are listed with ascending
ids, each class of the definition once and no others. Each is listed with the number of rules that
are defined under it, and these numbers add up to the number of rules. Whatever a visit finds has a
class that is known and listed with at least one rule. -/
theorem registry_of_build {catalog : Catalog} (h : d.build library limits = .ok catalog) :
    ((ClassList.ofCatalog catalog).entries.map (·.classification)).Perm d.classes ∧
    (ClassList.ofCatalog catalog).entries.Pairwise (·.classification.id < ·.classification.id) ∧
    (∀ e ∈ (ClassList.ofCatalog catalog).entries,
      e.rules = d.rules.countP (·.classId = e.classification.id)) ∧
    ((ClassList.ofCatalog catalog).entries.map (·.rules)).sum = catalog.rules.length ∧
    ∀ verifyGuards kind tags, ∃ found,
      (catalog.findings verifyGuards kind tags).result = .ok found ∧
      ∀ f ∈ found, ∃ c, catalog.class? f.classId = some c ∧ c.id = f.classId ∧
        ∃ e ∈ (ClassList.ofCatalog catalog).entries, e.classification = c ∧ 1 ≤ e.rules := by
  have hfindings := result_findings_eq_outcomes h
  obtain ⟨hnone, rfl⟩ := build_eq_ok.mp h
  obtain ⟨hclasses, -, -⟩ := defects_eq_nil.mp hnone
  let compiled := d.compiled (library.found limits)
  have hperm : compiled.classes.values.Perm d.classes := perm_values_compiled hclasses
  have hascending : compiled.classes.values.Pairwise (·.id < ·.id) :=
    pairwise_values_compiled hclasses
  have hlisted : (ClassList.ofCatalog compiled).entries.map (·.classification) =
      compiled.classes.values := by
    rw [ClassList.ofCatalog, List.map_map]
    exact List.map_id _
  refine ⟨by rwa [hlisted], ?_, fun e he => ?_, ?_, fun verifyGuards kind tags => ?_⟩
  · rw [← hlisted, List.pairwise_map] at hascending
    exact hascending
  · obtain ⟨c, -, rfl⟩ := List.mem_map.mp he
    exact List.countP_map
  · -- no rule is counted under two classes, and none under no class
    have hids : (compiled.classes.values.map (·.id)).Nodup := by
      rw [List.Nodup, List.pairwise_map]
      refine hascending.imp fun {c c'} hlt he => ?_
      rw [he] at hlt
      exact KeyOrder.irrefl c'.id hlt
    have hknown : ∀ r ∈ compiled.rules, r.classId ∈ compiled.classes.values.map (·.id) := by
      intro r hr
      obtain ⟨c, hc, hid⟩ := exists_class_of_mem_compiled hnone hr
      exact List.mem_map.mpr ⟨c, hperm.mem_iff.mpr hc, hid⟩
    rw [← Catalog.sum_ruleCount hids hknown, ClassList.ofCatalog, List.map_map, List.map_map]
    rfl
  · refine ⟨_, hfindings verifyGuards kind tags, fun f hf => ?_⟩
    obtain ⟨r, hr, hclass⟩ := Catalog.exists_rule_of_mem_outcomes hf
    obtain ⟨c, hc, hid⟩ := exists_class_of_mem_compiled hnone hr
    have hidf : c.id = f.classId := hid.trans hclass.symm
    have hpos : 1 ≤ compiled.ruleCount c.id := hid ▸ Catalog.ruleCount_pos hr
    exact ⟨c, (class?_compiled_eq_some_iff hclasses).mpr ⟨hc, hidf⟩, hidf, _,
      List.mem_map.mpr ⟨c, hperm.mem_iff.mpr hc, rfl⟩, rfl, hpos⟩

/-- A catalog with classes that are not defined in the order of their ids. One of them has no
rules. -/
def sharedClass : CatalogDefinition where
  classes := [⟨9, 7, 2, .empty, none⟩, ⟨5, 7, 3, .empty, none⟩, ⟨3, 7, 1, .empty, none⟩]
  rules := [{ colouredMark "buoy" with classId := 9 }, colouredMark "beacon",
    { colouredMark "light" with classId := 9 }]

theorem sharedClass_registry :
    let redBuoy : TagSet := .ofList [("seamark:buoy:colour", "red")]
    ∃ catalog, sharedClass.build .engine .standard = .ok catalog ∧
      (ClassList.ofCatalog catalog).entries.map (fun e => (e.classification.id, e.rules)) =
        [(3, 1), (5, 0), (9, 2)] ∧
      ((ClassList.ofCatalog catalog).entries.map (·.rules)).sum = 3 ∧
      (catalog.findings true .node redBuoy).result = .ok [⟨9, 7, "red buoy"⟩] ∧
      ∃ c, catalog.class? 9 = some c ∧
        ∃ e ∈ (ClassList.ofCatalog catalog).entries, e.classification = c ∧ 1 ≤ e.rules := by
  intro redBuoy
  have h : sharedClass.build .engine .standard = .ok _ := build_eq_ok.mpr ⟨by decide +kernel, rfl⟩
  have hbuoy : ((sharedClass.compiled (PatternLibrary.found .engine .standard)).findings true .node
      redBuoy).result = .ok [⟨9, 7, "red buoy"⟩] := by decide +kernel
  obtain ⟨-, -, -, hsum, hfindings⟩ := registry_of_build h
  obtain ⟨found, hfound, hclass⟩ := hfindings true .node redBuoy
  obtain rfl : found = [⟨9, 7, "red buoy"⟩] := Except.ok.inj (hfound.symm.trans hbuoy)
  obtain ⟨c, hc, -, hlisted⟩ := hclass _ List.mem_cons_self
  exact ⟨_, h, by decide +kernel, hsum, hbuoy, c, hc, hlisted⟩

end CatalogDefinition

end TagRules
