/-
# Guards are kept in a normal form

A guard that is given keeps its conjuncts in their places, and each of them becomes the ascending
list of its keys, which means the same (`Guard.forall₂_ofConjuncts`, `Guard.admits_ofConjuncts`). A
guard that is derived is a set of such lists: the lists ascend themselves, and there is one for each
set of keys that some clause needs (`Guard.pairwise_ofClauses`, `Guard.mem_ofClauses`). Sets are all
that counts there: the order of clauses and of the tests in a clause does not matter, nor how often
each occurs (`Guard.ofClauses_congr`).

The order is that of the bytes of the keys, and for lists that of the first key that differs. It
shows, because catalogs list the conjuncts as they are kept.

Key definitions: `Clause.SameTests`, `SameAlternatives`.
Key theorems: `Guard.forall₂_ofConjuncts`, `Guard.admits_ofConjuncts`, `Guard.pairwise_ofClauses`,
`Guard.ofClauses_congr`, `Guard.conjuncts_canonical`.
-/
import Mathlib.Data.List.Forall2
import TagRules.Proofs.ByteOrder
import TagRules.Proofs.Guard

namespace TagRules

/-- Whether two clauses have the same tests, in whatever order and however often. -/
def Clause.SameTests (c c' : Clause) : Prop := ∀ t, t ∈ c.tests ↔ t ∈ c'.tests

theorem Clause.SameTests.neededKeys_eq {c c' : Clause} (h : c.SameTests c') :
    c.neededKeys = c'.neededKeys := by
  apply SortedSet.ext_mem
  intro k
  rw [mem_neededKeys, mem_neededKeys]
  constructor
  · rintro ⟨t, ht, hk⟩
    exact ⟨t, (h t).mp ht, hk⟩
  · rintro ⟨t, ht, hk⟩
    exact ⟨t, (h t).mpr ht, hk⟩

/-- Whether two lists have the same clauses, in whatever order and however often, and up to the
order and number of the tests in each. -/
def SameAlternatives (cs cs' : List Clause) : Prop :=
  (∀ c ∈ cs, ∃ c' ∈ cs', c.SameTests c') ∧ ∀ c' ∈ cs', ∃ c ∈ cs, c.SameTests c'

namespace Guard

/-! ### Guards that are given -/

/-- Each conjunct stays in its place, with the same keys in ascending order. -/
theorem forall₂_ofConjuncts (given : List (List String)) :
    List.Forall₂ (fun keys kept =>
      (kept.toList.map utf8).Pairwise (· < ·) ∧ ∀ k, k ∈ kept.toList ↔ k ∈ keys)
      given (ofConjuncts given).conjuncts := by
  rw [ofConjuncts, List.forall₂_map_right_iff, List.forall₂_same]
  intro keys _
  exact ⟨pairwise_utf8 (SortedSet.ofList keys).ascending, fun k => SortedSet.mem_ofList⟩

theorem admits_ofConjuncts {given : List (List String)} {tags : TagSet} :
    (ofConjuncts given).admits tags = true ↔
      ∃ keys ∈ given, ∀ k ∈ keys, tags.contains k = true := by
  rw [admits_iff]
  constructor
  · rintro ⟨_, hmem, hall⟩
    obtain ⟨keys, hkeys, rfl⟩ := List.mem_map.mp hmem
    exact ⟨keys, hkeys, fun k hk => hall k (SortedSet.mem_ofList.mpr hk)⟩
  · rintro ⟨keys, hkeys, hall⟩
    exact ⟨.ofList keys, List.mem_map_of_mem hkeys,
      fun k hk => hall k (SortedSet.mem_ofList.mp hk)⟩

/-! ### Guards that are derived -/

theorem map_toList_ofClauses (clauses : List Clause) :
    (ofClauses clauses).conjuncts.map (·.toList) =
      (SortedSet.ofList (clauses.map (·.neededKeys.toList))).toList := by
  have hsame : ∀ keys ∈ (SortedSet.ofList (clauses.map (·.neededKeys.toList))).toList,
      (SortedSet.ofList keys).toList = keys := by
    intro keys hkeys
    obtain ⟨c, -, rfl⟩ := List.mem_map.mp (SortedSet.mem_ofList.mp hkeys)
    rw [SortedSet.ofList_toList]
  rw [ofClauses, ofConjuncts, List.map_map]
  calc
    (SortedSet.ofList (clauses.map (·.neededKeys.toList))).toList.map
          (fun keys => (SortedSet.ofList keys).toList)
        = (SortedSet.ofList (clauses.map (·.neededKeys.toList))).toList.map id :=
      List.map_congr_left hsame
    _ = (SortedSet.ofList (clauses.map (·.neededKeys.toList))).toList := List.map_id _

theorem pairwise_ofClauses (clauses : List Clause) :
    (ofClauses clauses).conjuncts.Pairwise (fun keys keys' => keys.toList < keys'.toList) := by
  have hlists := (SortedSet.ofList (clauses.map (·.neededKeys.toList))).ascending
  rw [← map_toList_ofClauses, List.pairwise_map] at hlists
  exact hlists

theorem nodup_ofClauses (clauses : List Clause) : (ofClauses clauses).conjuncts.Nodup := by
  refine (pairwise_ofClauses clauses).imp fun {keys keys'} hlt heq => ?_
  rw [heq] at hlt
  exact KeyOrder.irrefl keys'.toList hlt

/-- Order and repetition of clauses, and of the tests in them, do not show in the derived guard. -/
theorem ofClauses_congr {cs cs' : List Clause} (h : SameAlternatives cs cs') :
    ofClauses cs = ofClauses cs' := by
  have hkeys : SortedSet.ofList (cs.map (·.neededKeys.toList)) =
      SortedSet.ofList (cs'.map (·.neededKeys.toList)) := by
    apply SortedSet.ext_mem
    intro keys
    rw [SortedSet.mem_ofList, SortedSet.mem_ofList, List.mem_map, List.mem_map]
    constructor
    · rintro ⟨c, hc, rfl⟩
      obtain ⟨c', hc', hsame⟩ := h.1 c hc
      exact ⟨c', hc', by rw [hsame.neededKeys_eq]⟩
    · rintro ⟨c', hc', rfl⟩
      obtain ⟨c, hc, hsame⟩ := h.2 c' hc'
      exact ⟨c, hc, by rw [hsame.neededKeys_eq]⟩
  rw [ofClauses, ofClauses, hkeys]

/-- **Conjuncts have one normal form.** A guard that is given keeps number and order of its
conjuncts, each with the same keys, once and in ascending order of bytes, and admits what has all
the keys of one of the given lists. The conjuncts of a derived guard ascend by their keys, as do the
keys in each. There is one for each set of keys that the tests of some clause need, and the order
and number of clauses and of their tests makes no difference. -/
theorem conjuncts_canonical :
    (∀ given : List (List String),
      List.Forall₂ (fun keys kept =>
        (kept.toList.map utf8).Pairwise (· < ·) ∧ ∀ k, k ∈ kept.toList ↔ k ∈ keys)
        given (ofConjuncts given).conjuncts ∧
      ∀ tags, (ofConjuncts given).admits tags = true ↔
        ∃ keys ∈ given, ∀ k ∈ keys, tags.contains k = true) ∧
    ∀ clauses : List Clause,
      (∀ keys ∈ (ofClauses clauses).conjuncts, (keys.toList.map utf8).Pairwise (· < ·)) ∧
      ((ofClauses clauses).conjuncts.map (·.toList.map utf8)).Pairwise (· < ·) ∧
      (ofClauses clauses).conjuncts.Nodup ∧
      (∀ keys, keys ∈ (ofClauses clauses).conjuncts ↔
        ∃ c ∈ clauses, ∀ k, k ∈ keys ↔ ∃ t ∈ c.tests, t.needsKey = true ∧ t.key = k) ∧
      ∀ clauses', SameAlternatives clauses clauses' → ofClauses clauses = ofClauses clauses' := by
  refine ⟨fun given => ⟨forall₂_ofConjuncts given, fun tags => admits_ofConjuncts⟩,
    fun clauses => ⟨fun keys _ => pairwise_utf8 keys.ascending, ?_, nodup_ofClauses clauses,
      fun keys => ?_, fun clauses' => ofClauses_congr⟩⟩
  · rw [List.pairwise_map]
    exact (pairwise_ofClauses clauses).imp map_utf8_lt_of_lt
  · rw [mem_ofClauses]
    refine exists_congr fun c => and_congr_right fun _ => ?_
    constructor
    · rintro rfl k
      exact Clause.mem_neededKeys
    · intro hkeys
      exact SortedSet.ext_mem fun k => Clause.mem_neededKeys.trans (hkeys k).symm

/-- Bright lights with a name, and lights. The test for the type is made twice in one list and comes
last in the other. -/
theorem conjuncts_canonical_lights :
    let type : Test := ⟨"seamark:type", .contains "light", none⟩
    let name : Test := ⟨"name:dé", .present, some 0⟩
    let dark : Test := ⟨"unlit", .absent, none⟩
    let clauses : List Clause := [⟨[type, dark], 1, none⟩, ⟨[type, name, type], 2, none⟩]
    let clauses' : List Clause :=
      [⟨[name, type], 2, none⟩, ⟨[dark, type], 1, none⟩, ⟨[name, type], 3, none⟩]
    ofClauses clauses = ofClauses clauses' ∧
      (ofClauses clauses).conjuncts.map (·.toList) =
        [["name:dé", "seamark:type"], ["seamark:type"]] ∧
      ((ofClauses clauses).conjuncts.map (·.toList.map utf8)).Pairwise (· < ·) := by
  intro type name dark clauses clauses'
  have hsame : SameAlternatives clauses clauses' := by
    simp [SameAlternatives, Clause.SameTests, clauses, clauses', or_comm]
  obtain ⟨-, hderived⟩ := conjuncts_canonical
  obtain ⟨-, hascending, -, -, hcongr⟩ := hderived clauses
  exact ⟨hcongr clauses' hsame, by decide +kernel, hascending⟩

end Guard

end TagRules
