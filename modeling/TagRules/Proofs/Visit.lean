/-
# What a visit of a feature finds

The index of a catalog lists for each kind the positions of the rules that apply to it, each
once and in order (`KindIndex.positions_ofRules`), so a visit runs exactly these rules
(`Catalog.applicable_ofRules`). If all rules are sound, none of them fails, and a visit finds
what each rule has to say, in catalog order (`Catalog.result_findings`), whether or not
guards are checked; so does a check of many features (`Catalog.result_checkAll`).

If nothing is known of the rules, a visit is still their runs one after the other
(`Catalog.result_runRules_eq_mapM`). The first rule that fails ends it; otherwise it finds what
each rule reports (`Catalog.visit_any_rules`).

Key definition: `Catalog.outcomes`.
Key theorems: `KindIndex.positions_ofRules`, `Catalog.result_findings`,
`Catalog.result_checkAll`, `Catalog.visit_any_rules`.
-/
import Mathlib.Data.List.Basic
import Mathlib.Data.List.Forall2
import Mathlib.Data.List.ReduceOption
import TagRules.Batch
import TagRules.Proofs.Dispatch

namespace TagRules

theorem FeatureKind.mem_all (kind : FeatureKind) : kind ∈ all := by
  cases kind <;> decide

namespace KindIndex

theorem positions_cons (x : KindIndex) (position : Nat) (kind kind' : FeatureKind) :
    (x.cons position kind').positions kind =
      if kind = kind' then position :: x.positions kind else x.positions kind := by
  cases kind <;> cases kind' <;> rfl

/-- A position is put in front of some kinds, once for each of them. -/
theorem positions_foldl (position : Nat) (kind : FeatureKind) :
    ∀ {kinds : List FeatureKind}, kinds.Nodup → ∀ x : KindIndex,
      (kinds.foldl (fun x kind => x.cons position kind) x).positions kind =
        if kind ∈ kinds then position :: x.positions kind else x.positions kind
  | [], _, x => rfl
  | kind' :: kinds, h, x => by
    obtain ⟨hnot, h⟩ := List.nodup_cons.mp h
    rw [List.foldl_cons, positions_foldl position kind h, positions_cons]
    by_cases hk : kind = kind'
    · subst hk
      rw [if_neg hnot, if_pos rfl, if_pos List.mem_cons_self]
    · rw [if_neg hk]
      by_cases hks : kind ∈ kinds
      · rw [if_pos hks, if_pos (List.mem_cons_of_mem _ hks)]
      · rw [if_neg hks, if_neg (by simp [hk, hks])]

theorem positions_ofRules (kind : FeatureKind) : ∀ (rs : List Rule) (first : Nat),
    (ofRules first rs).positions kind =
      ((rs.zipIdx first).filter (·.1.appliesTo kind)).map (·.2)
  | [], _ => by cases kind <;> rfl
  | r :: rs, first => by
    have hnodup : (FeatureKind.all.filter r.appliesTo).Nodup :=
      List.Nodup.sublist List.filter_sublist (by decide)
    have hmem : kind ∈ FeatureKind.all.filter r.appliesTo ↔ r.appliesTo kind = true := by
      rw [List.mem_filter]
      exact and_iff_right kind.mem_all
    rw [ofRules, positions_foldl first kind hnodup, positions_ofRules kind rs (first + 1),
      List.zipIdx_cons]
    by_cases h : r.appliesTo kind = true
    · rw [if_pos (hmem.mpr h), List.filter_cons_of_pos (by exact h)]
      rfl
    · rw [if_neg fun hk => h (hmem.mp hk), List.filter_cons_of_neg (by exact h)]

end KindIndex

namespace Catalog

variable {verifyGuards : Bool}

/-- The rules that a visit runs are those that apply to the kind, in order. -/
theorem applicable_ofRules (rs : List Rule) (classes : SortedMap UInt32 Classification)
    (kind : FeatureKind) : (ofRules rs classes).applicable kind =
      (rs.zipIdx.filter (·.1.appliesTo kind)).map fun x => (x.2, x.1) := by
  have hrule : ∀ x ∈ rs.zipIdx.filter (·.1.appliesTo kind),
      ((rs[x.2]?).map fun r => (x.2, r)) = some (x.2, x.1) := by
    intro x hx
    rw [List.mem_zipIdx_iff_getElem?.mp (List.mem_filter.mp hx).1]
    rfl
  calc
    (ofRules rs classes).applicable kind =
        (rs.zipIdx.filter (·.1.appliesTo kind)).filterMap
          fun x => (rs[x.2]?).map fun r => (x.2, r) := by
      rw [applicable, ofRules, KindIndex.positions_ofRules, List.filterMap_map]
      rfl
    _ = (rs.zipIdx.filter (·.1.appliesTo kind)).filterMap fun x => some (x.2, x.1) :=
      List.filterMap_congr hrule
    _ = (rs.zipIdx.filter (·.1.appliesTo kind)).map fun x => (x.2, x.1) :=
      congrFun List.filterMap_eq_map' _

theorem result_runRules (tags : TagSet) : ∀ {rs : List (Nat × Rule)},
    (∀ x ∈ rs, x.2.Sound) → (runRules verifyGuards tags rs).result =
      .ok (rs.filterMap fun x => x.2.outcome tags)
  | [], _ => rfl
  | (i, r) :: rs, h => by
    have hr : (runRule verifyGuards i r tags).result = .ok (r.outcome tags) :=
      (h (i, r) List.mem_cons_self).result_run verifyGuards tags
    have ih := result_runRules tags fun x hx => h x (List.mem_cons_of_mem _ hx)
    rw [runRules, Traced.result_andThen, hr]
    simp only [Traced.result_map, ih, List.filterMap_cons]
    cases r.outcome tags <;> rfl

/-- What the rules for a kind have to say of tags, in catalog order. -/
def outcomes (c : Catalog) (kind : FeatureKind) (tags : TagSet) : List Finding :=
  (c.rules.filter (·.appliesTo kind)).filterMap (·.outcome tags)

/-- **A visit finds the outcomes of the rules.** No rule is skipped and none fails. -/
theorem result_findings {rs : List Rule} (h : ∀ r ∈ rs, r.Sound)
    (classes : SortedMap UInt32 Classification) (kind : FeatureKind) (tags : TagSet) :
    ((ofRules rs classes).findings verifyGuards kind tags).result =
      .ok ((ofRules rs classes).outcomes kind tags) := by
  have hrules : (rs.zipIdx.filter (·.1.appliesTo kind)).map (·.1) =
      rs.filter (·.appliesTo kind) := by
    conv_rhs => rw [← List.zipIdx_map_fst 0 rs, List.filter_map]
    rfl
  rw [findings, applicable_ofRules, result_runRules, List.filterMap_map]
  · rw [outcomes, ofRules, ← hrules, List.filterMap_map]
    rfl
  · intro x hx
    obtain ⟨y, hy, rfl⟩ := List.mem_map.mp hx
    exact h y.1 (List.fst_mem_of_mem_zipIdx (List.mem_filter.mp hy).1)

theorem result_checkAll {c : Catalog} {found : FeatureKind → TagSet → List Finding}
    (h : ∀ kind tags, (c.findings verifyGuards kind tags).result = .ok (found kind tags)) :
    ∀ fs : List Feature, (c.checkAll verifyGuards fs).result =
      .ok (fs.map fun f => ⟨f.id, f.kind, found f.kind f.tags⟩)
  | [] => rfl
  | f :: fs => by
    have hf : (c.checkOne verifyGuards f).result = .ok ⟨f.id, f.kind, found f.kind f.tags⟩ := by
      rw [checkOne, Traced.result_map, h]
      rfl
    rw [checkAll, Traced.result_andThen, hf]
    simp only [Traced.result_map, result_checkAll h fs]
    rfl

end Catalog

/-! ### Rules that are not known to be sound -/

namespace Catalog

/-- The rules for a kind are those that name it, each once for every position at which it
stands. -/
theorem mem_applicable_ofRules {rs : List Rule} {classes : SortedMap UInt32 Classification}
    {kind : FeatureKind} {i : Nat} {r : Rule} :
    (i, r) ∈ (ofRules rs classes).applicable kind ↔ rs[i]? = some r ∧ kind ∈ r.kinds := by
  rw [applicable_ofRules, List.mem_map]
  constructor
  · rintro ⟨x, hx, hxr⟩
    obtain ⟨rfl, rfl⟩ := Prod.mk.inj hxr
    obtain ⟨hmem, happlies⟩ := List.mem_filter.mp hx
    exact ⟨List.mem_zipIdx_iff_getElem?.mp hmem, List.contains_iff_mem.mp happlies⟩
  · rintro ⟨hstands, hkind⟩
    exact ⟨(r, i), List.mem_filter.mpr
      ⟨List.mk_mem_zipIdx_iff_getElem?.mpr hstands, List.contains_iff_mem.mpr hkind⟩, rfl⟩

theorem pairwise_applicable_ofRules (rs : List Rule) (classes : SortedMap UInt32 Classification)
    (kind : FeatureKind) : ((ofRules rs classes).applicable kind).Pairwise (·.1 < ·.1) := by
  have hpositions : rs.zipIdx.Pairwise (·.2 < ·.2) := by
    rw [← List.pairwise_map (f := Prod.snd) (R := (· < ·)), List.zipIdx_map_snd]
    exact List.pairwise_lt_range'
  rw [applicable_ofRules, List.pairwise_map]
  exact hpositions.filter _

theorem map_snd_applicable_ofRules (rs : List Rule) (classes : SortedMap UInt32 Classification)
    (kind : FeatureKind) :
    ((ofRules rs classes).applicable kind).map (·.2) = rs.filter (kind ∈ ·.kinds) := by
  have hkinds : (fun r : Rule => r.appliesTo kind) = fun r => decide (kind ∈ r.kinds) := by
    funext r
    exact List.contains_eq_mem kind r.kinds
  rw [applicable_ofRules, List.map_map, ← hkinds]
  conv_rhs => rw [← List.zipIdx_map_fst 0 rs, List.filter_map]
  rfl

/-- The rules run one after the other, and what they find is put together. -/
theorem result_runRules_eq_mapM (verifyGuards : Bool) (tags : TagSet) :
    ∀ rs : List (Nat × Rule), (runRules verifyGuards tags rs).result =
      ((rs.map (·.2)).mapM fun r : Rule => (r.run verifyGuards tags).result).map
        List.reduceOption
  | [] => rfl
  | (i, r) :: rs => by
    have hrun : (runRule verifyGuards i r tags).result = (r.run verifyGuards tags).result := rfl
    have ih := result_runRules_eq_mapM verifyGuards tags rs
    rw [runRules, Traced.result_andThen, hrun, List.map_cons, List.mapM_cons]
    cases (r.run verifyGuards tags).result with
    | error e => rfl
    | ok o =>
      simp only [Traced.result_map, ih]
      cases (rs.map (·.2)).mapM fun r : Rule => (r.run verifyGuards tags).result with
      | error e => rfl
      | ok os => cases o <;> rfl

/-- **A visit of any catalog.** The rules that a visit runs are those that name the kind, once for
each position and in order, whatever their ids, kinds, guards and messages. The visit fails exactly
if one of them fails, with the error of the first that does; otherwise it finds what they report,
each of them one finding or none, in the same order. -/
theorem visit_any_rules (rs : List Rule) (classes : SortedMap UInt32 Classification)
    (kind : FeatureKind) (verifyGuards : Bool) (tags : TagSet) :
    let c := ofRules rs classes
    let visit := (c.findings verifyGuards kind tags).result
    let applicable := rs.filter (kind ∈ ·.kinds)
    ((∀ i r, (i, r) ∈ c.applicable kind ↔ rs[i]? = some r ∧ kind ∈ r.kinds) ∧
      (c.applicable kind).Pairwise (·.1 < ·.1) ∧
      (c.applicable kind).map (·.2) = applicable) ∧
    ((∃ e, visit = .error e) ↔ ∃ r ∈ applicable, ∃ e, (r.run verifyGuards tags).result = .error e) ∧
    (∀ e, visit = .error e ↔ ∃ before r after, applicable = before ++ r :: after ∧
      (∀ r' ∈ before, ∃ o, (r'.run verifyGuards tags).result = .ok o) ∧
      (r.run verifyGuards tags).result = .error e) ∧
    ∀ found, visit = .ok found ↔ ∃ outcomes : List (Option Finding),
      List.Forall₂ (fun r o => (r.run verifyGuards tags).result = .ok o) applicable outcomes ∧
      outcomes.reduceOption = found := by
  intro c visit applicable
  have hvisit : visit =
      (applicable.mapM fun r : Rule => (r.run verifyGuards tags).result).map List.reduceOption := by
    have hrun := result_runRules_eq_mapM verifyGuards tags (c.applicable kind)
    rwa [map_snd_applicable_ofRules] at hrun
  have herror : ∀ e, visit = .error e ↔
      (applicable.mapM fun r : Rule => (r.run verifyGuards tags).result) = .error e := by
    intro e
    rw [hvisit]
    cases applicable.mapM fun r : Rule => (r.run verifyGuards tags).result <;> simp [Except.map]
  refine ⟨⟨fun i r => mem_applicable_ofRules, pairwise_applicable_ofRules rs classes kind,
    map_snd_applicable_ofRules rs classes kind⟩, ?_, fun e => ?_, fun found => ?_⟩
  · simp only [herror, exists_mapM_eq_error_iff]
  · rw [herror, mapM_eq_error_iff]
  · simp only [hvisit, ← mapM_eq_ok_iff]
    cases applicable.mapM fun r : Rule => (r.run verifyGuards tags).result <;> simp [Except.map]

end Catalog

end TagRules
