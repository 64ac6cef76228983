/-
# Maps made from a list at once

A map need not be built by one write after the other. The pairs of a list can be put in the order of
their keys first, with those of one key left in the order in which they came; then the last of each
run of pairs with one key becomes the entry (`SortedMap.collect`). This is the map that the writes
would give (`SortedMap.collect_eq_ofList`): sorting leaves the last pair of a key the last one
(`lastValue_mergeSort`), because it is stable, and from the runs the last values are read
(`lookup_lastOfRuns`).

Key definitions: `keyLe`, `lastOfRuns`, `SortedMap.collect`.
Key theorems: `lookup_lastOfRuns`, `lastValue_mergeSort`, `SortedMap.collect_eq_ofList`.
-/
import TagRules.Sorted.Map

namespace TagRules

section

variable {κ ν : Type} [LT κ] [DecidableLT κ]

/-- Whether the key of one pair does not come after that of another. -/
def keyLe (e e' : κ × ν) : Bool := !decide (e'.1 < e.1)

theorem keyLe_iff {e e' : κ × ν} : keyLe e e' = true ↔ ¬ e'.1 < e.1 := by
  simp [keyLe]

theorem keyLe_total [KeyOrder κ] (a b : κ × ν) : (keyLe a b || keyLe b a) = true := by
  rw [Bool.or_eq_true, keyLe_iff, keyLe_iff]
  by_cases h : b.1 < a.1
  · exact Or.inr fun h' => KeyOrder.irrefl a.1 (KeyOrder.trans h' h)
  · exact Or.inl h

theorem keyLe_trans [DecidableEq κ] [KeyOrder κ] (a b c : κ × ν) (hab : keyLe a b = true)
    (hbc : keyLe b c = true) : keyLe a c = true := by
  rw [keyLe_iff] at *
  intro hca
  by_cases h : a.1 < b.1
  · exact hbc (KeyOrder.trans hca h)
  · have heq : a.1 = b.1 := KeyOrder.eq_of_not_lt h hab
    exact hbc (heq ▸ hca)

variable [DecidableEq κ]

/-- The last pair of each run of pairs with one key. -/
def lastOfRuns : List (κ × ν) → List (κ × ν)
  | [] => []
  | e :: es => if es.head?.any (e.1 = ·.1) then lastOfRuns es else e :: lastOfRuns es

omit [LT κ] [DecidableLT κ] in
theorem lastOfRuns_sublist : ∀ es : List (κ × ν), (lastOfRuns es).Sublist es
  | [] => .slnil
  | e :: es => by
    unfold lastOfRuns
    split
    · exact (lastOfRuns_sublist es).cons e
    · exact (lastOfRuns_sublist es).cons_cons e

/-- Where a run ends in a list with ascending keys, all keys after it are higher. -/
theorem lt_of_run_ends [KeyOrder κ] {e : κ × ν} {es : List (κ × ν)}
    (h : (e :: es).Pairwise (keyLe · ·)) (hends : ¬ es.head?.any (e.1 = ·.1) = true) :
    ∀ x ∈ es, e.1 < x.1 := by
  cases es with
  | nil => simp
  | cons d ds =>
    obtain ⟨he, hds⟩ := List.pairwise_cons.mp h
    have hne : e.1 ≠ d.1 := by simpa using hends
    have hed : e.1 < d.1 := Decidable.byContradiction fun hnot =>
      hne (KeyOrder.eq_of_not_lt hnot (keyLe_iff.mp (he d List.mem_cons_self)))
    intro x hx
    rcases List.mem_cons.mp hx with rfl | hx
    · exact hed
    · refine Decidable.byContradiction fun hnot => ?_
      have heq : e.1 = x.1 :=
        KeyOrder.eq_of_not_lt hnot (keyLe_iff.mp (he x (List.mem_cons_of_mem d hx)))
      have hdx := keyLe_iff.mp ((List.pairwise_cons.mp hds).1 x hx)
      exact hdx (heq ▸ hed)

/-- What is left has each key once. -/
theorem pairwise_lastOfRuns [KeyOrder κ] : ∀ {es : List (κ × ν)},
    es.Pairwise (keyLe · ·) → (lastOfRuns es).Pairwise (·.1 < ·.1)
  | [], _ => .nil
  | e :: es, h => by
    have ih := pairwise_lastOfRuns (List.pairwise_cons.mp h).2
    unfold lastOfRuns
    split
    · exact ih
    · rename_i hends
      refine List.pairwise_cons.mpr ⟨fun x hx => ?_, ih⟩
      exact lt_of_run_ends h hends x ((lastOfRuns_sublist es).mem hx)

/-- Each key is left with its last value. -/
theorem lookup_lastOfRuns [KeyOrder κ] (k : κ) : ∀ {es : List (κ × ν)},
    es.Pairwise (keyLe · ·) → (lastOfRuns es).lookup k = lastValue es k
  | [], _ => rfl
  | e :: es, h => by
    have ih := lookup_lastOfRuns k (List.pairwise_cons.mp h).2
    rw [lastValue_cons]
    unfold lastOfRuns
    by_cases hrun : es.head?.any (e.1 = ·.1) = true
    · -- the next pair has the key of `e`, so `e` is not the last with it
      rw [if_pos hrun, ih]
      by_cases hk : k = e.1
      · obtain ⟨d, hd, hkey⟩ := Option.any_eq_true _ _ |>.mp hrun
        have hsome : lastValue es k ≠ none := fun hnone =>
          lastValue_eq_none_iff.mp hnone d (List.mem_of_head? hd)
            (hk.trans (of_decide_eq_true hkey))
        obtain ⟨v, hv⟩ := Option.ne_none_iff_exists'.mp hsome
        rw [hv, Option.some_or]
      · rw [if_neg hk, Option.or_none]
    · rw [if_neg hrun, lookup_cons_eq_ite, ih]
      by_cases hk : k = e.1
      · have hnone : lastValue es k = none := by
          rw [lastValue_eq_none_iff]
          intro x hx heq
          have hlt := lt_of_run_ends h hrun x hx
          rw [← hk, heq] at hlt
          exact KeyOrder.irrefl x.1 hlt
        rw [if_pos hk, if_pos hk, hnone, Option.none_or]
      · rw [if_neg hk, if_neg hk, Option.or_none]

/-- A sort that keeps the order of pairs with one key does not change which of them is the last. -/
theorem lastValue_mergeSort [KeyOrder κ] (l : List (κ × ν)) (k : κ) :
    lastValue (l.mergeSort keyLe) k = lastValue l k := by
  have hown : (l.filter (k = ·.1)).Pairwise (keyLe · ·) := by
    rw [List.pairwise_filter]
    refine List.pairwise_of_forall fun e e' hk hk' => ?_
    rw [keyLe_iff, ← of_decide_eq_true hk, ← of_decide_eq_true hk']
    exact KeyOrder.irrefl k
  have hsub : (l.filter (k = ·.1)).Sublist (l.mergeSort keyLe) :=
    List.sublist_mergeSort keyLe_trans keyLe_total hown List.filter_sublist
  have hfilter : (l.filter (k = ·.1)).Sublist ((l.mergeSort keyLe).filter (k = ·.1)) := by
    have hself : (l.filter (k = ·.1)).filter (k = ·.1) = l.filter (k = ·.1) :=
      List.filter_eq_self.mpr fun e he => (List.mem_filter.mp he).2
    rw [← hself]
    exact hsub.filter _
  have hlength := ((List.mergeSort_perm l keyLe).filter (k = ·.1)).length_eq
  rw [lastValue, lastValue, hfilter.eq_of_length hlength.symm]

end

namespace SortedMap

variable {κ ν : Type} [LT κ] [DecidableLT κ] [DecidableEq κ] [KeyOrder κ]

/-- The map of the pairs of a list, which are put in order first. Of those with one key the last is
kept. -/
def collect (l : List (κ × ν)) : SortedMap κ ν where
  entries := lastOfRuns (l.mergeSort keyLe)
  ascending := pairwise_lastOfRuns (List.pairwise_mergeSort keyLe_trans keyLe_total l)

theorem get?_collect (l : List (κ × ν)) (k : κ) : (collect l).get? k = lastValue l k := by
  have hsorted := List.pairwise_mergeSort keyLe_trans keyLe_total l
  calc
    (collect l).get? k = lastValue (l.mergeSort keyLe) k := lookup_lastOfRuns k hsorted
    _ = lastValue l k := lastValue_mergeSort l k

/-- Sorting the pairs first gives the same map as writing them one by one. -/
theorem collect_eq_ofList (l : List (κ × ν)) : collect l = ofList l :=
  ext_get? fun k => (get?_collect l k).trans (get?_ofList l k).symm

end SortedMap

end TagRules
