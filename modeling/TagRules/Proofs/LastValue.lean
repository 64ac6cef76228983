/-
# A tag set is the last value of each key

Tags come as pairs, in any order and with any number of values for one key. What is kept is the last
value of each key: it is what is read (`SortedMap.get?_ofList`), the keys are those that occur in
some pair, each counted once (`SortedMap.size_ofList`), and they are listed in ascending order of
their bytes. It makes no difference whether the pairs are written one by one or sorted first
(`SortedMap.collect_eq_ofList`). So pairs with the same last values make the same tag set, and no
rule can tell them apart (`TagSet.last_values_decide`).

Key theorems: `SortedMap.mem_keys_ofList`, `SortedMap.size_ofList`, `TagSet.last_values_decide`.
-/
import Mathlib.Data.Finset.Card
import TagRules.Catalog
import TagRules.Proofs.ByteOrder
import TagRules.Sorted.Collect

namespace TagRules

namespace SortedMap

variable {κ ν : Type} [LT κ] [DecidableLT κ] [DecidableEq κ] [KeyOrder κ]

omit [DecidableLT κ] in
theorem mem_keys_iff {m : SortedMap κ ν} {k : κ} : k ∈ m.keys ↔ m.get? k ≠ none := by
  rw [keys, List.mem_map, Option.ne_none_iff_exists']
  constructor
  · rintro ⟨⟨k, v⟩, he, rfl⟩
    exact ⟨v, get?_eq_some_iff.mpr he⟩
  · rintro ⟨v, hv⟩
    exact ⟨(k, v), get?_eq_some_iff.mp hv, rfl⟩

theorem mem_keys_ofList {l : List (κ × ν)} {k : κ} : k ∈ (ofList l).keys ↔ k ∈ l.map (·.1) := by
  rw [mem_keys_iff, get?_ofList, ne_eq, lastValue_eq_none_iff, List.mem_map]
  constructor
  · intro h
    by_contra hnot
    exact h fun e he hk => hnot ⟨e, he, hk.symm⟩
  · rintro ⟨e, he, rfl⟩ h
    exact h e he rfl

/-- There are as many entries as different keys. -/
theorem size_ofList (l : List (κ × ν)) : (ofList l).size = (l.map (·.1)).toFinset.card := by
  have hkeys : (ofList l).keys.toFinset = (l.map (·.1)).toFinset := by
    ext k
    rw [List.mem_toFinset, List.mem_toFinset, mem_keys_ofList]
  calc
    (ofList l).size = (ofList l).keys.length := (List.length_map _).symm
    _ = (ofList l).keys.toFinset.card := (List.toFinset_card_of_nodup (nodup_keys _)).symm
    _ = (l.map (·.1)).toFinset.card := by rw [hkeys]

end SortedMap

/-- **Only the last value of each key counts.** Collecting pairs and writing them one by one give
the same tags. A key reads as the last value that some pair has for it, it is there exactly if it
can be read, the keys are listed in ascending order of bytes, and each is counted once. Pairs with
the same last values give the same tags, and every visit finds the same in them. -/
theorem TagSet.last_values_decide :
    (∀ pairs : List (String × String),
      let tags : TagSet := pairs.foldl (fun tags e => tags.insert e.1 e.2) .empty
      SortedMap.collect pairs = tags ∧
      (∀ k, tags.get? k = ((pairs.filter (k = ·.1)).getLast?).map (·.2)) ∧
      (∀ k, tags.contains k = (tags.get? k).isSome) ∧
      (tags.keys.map utf8).Pairwise (· < ·) ∧
      tags.size = (pairs.map (·.1)).toFinset.card) ∧
    ∀ pairs pairs' : List (String × String),
      (∀ k, lastValue pairs k = lastValue pairs' k) →
        SortedMap.ofList pairs = SortedMap.ofList pairs' ∧
        ∀ verifyGuards (catalog : Catalog) kind,
          catalog.findings verifyGuards kind (.ofList pairs) =
            catalog.findings verifyGuards kind (.ofList pairs') := by
  refine ⟨fun pairs => ⟨SortedMap.collect_eq_ofList pairs, SortedMap.get?_ofList pairs,
    fun k => SortedMap.contains_eq_isSome _ k, ?_, SortedMap.size_ofList pairs⟩,
    fun pairs pairs' h => ?_⟩
  · have hkeys := (SortedMap.ofList pairs).ascending
    rw [← List.pairwise_map] at hkeys
    exact pairwise_utf8 hkeys
  · have hsame : SortedMap.ofList pairs = SortedMap.ofList pairs' := by
      apply SortedMap.ext_get?
      intro k
      rw [SortedMap.get?_ofList, SortedMap.get?_ofList, h]
    exact ⟨hsame, fun verifyGuards catalog kind => by rw [hsame]⟩

/-- The colour is given twice, with another key in between. -/
theorem TagSet.last_values_decide_colour :
    let pairs := [("colour", "red"), ("é", "1"), ("colour", "green"), ("name", "Roter Sand")]
    let pairs' := [("name", "Roter Sand"), ("colour", "green"), ("é", "1")]
    let tags : TagSet := pairs.foldl (fun tags e => tags.insert e.1 e.2) .empty
    SortedMap.collect pairs = tags ∧ tags.get? "colour" = some "green" ∧ tags.size = 3 ∧
      tags.keys = ["colour", "name", "é"] ∧
      (SortedMap.ofList pairs : TagSet) = SortedMap.ofList pairs' := by
  intro pairs pairs' tags
  obtain ⟨hbuilt, hsame⟩ := last_values_decide
  obtain ⟨hcollect, hget, -, -, hsize⟩ := hbuilt pairs
  have hlast : ∀ k, lastValue pairs k = lastValue pairs' k := by
    intro k
    simp only [pairs, pairs', lastValue_cons]
    by_cases h1 : k = "colour"
    · subst h1; decide
    · by_cases h2 : k = "name"
      · subst h2; decide
      · simp [h1, h2]
  exact ⟨hcollect, (hget "colour").trans (by decide), hsize.trans (by decide), by decide +kernel,
    (hsame pairs pairs' hlast).1⟩

end TagRules
