/-
# Guards are exact

A clause can only match tags that have all the keys it needs
(`Clause.contains_of_isMatch`), and it still matches when all other tags are taken
away (`Clause.isMatch_filterKeys`): tests that need no key hold on a missing one. So
the keys it needs are those whose tags cannot be removed (`Clause.isMatch_without`), and
the check of a guard against a clause, which compares sets of keys, says exactly that
the guard admits all tags that the clause matches (`Guard.covers_iff_admits`), if there
are any.

A guard that was derived from clauses covers each of them (`Guard.covers_ofClauses`).

Key definition: `TagSet.without`.
Key theorems: `Clause.isMatch_filterKeys`, `Clause.isMatch_without`,
`Guard.admits_of_covers`, `Guard.covers_iff_admits`, `Guard.covers_ofClauses`.
-/
import TagRules.Guard
import TagRules.Proofs.Attempt

namespace TagRules

/-! ### The keys that a clause needs -/

/-- The tags that are left when those of some keys are removed. -/
def TagSet.without (tags : TagSet) (removed : String → Bool) : TagSet :=
  tags.filterKeys fun k => !removed k

/-- A key that is removed is not there any more. -/
theorem TagSet.contains_without_of_removed (tags : TagSet) {removed : String → Bool} {k : String}
    (h : removed k = true) : (tags.without removed).contains k = false := by
  rw [SortedMap.contains_eq_isSome, without, SortedMap.get?_filterKeys, h]
  rfl

/-- On a missing key exactly the predicates hold that need none. -/
theorem Predicate.holds_none (p : Predicate) : p.holds none = !p.needsKey := by
  cases p <;> simp [holds, needsKey]

theorem Test.contains_of_holds {t : Test} {tags : TagSet} (hn : t.needsKey = true)
    (h : t.holds tags = true) : tags.contains t.key = true := by
  rw [SortedMap.contains_eq_isSome]
  cases hv : tags.get? t.key with
  | some v => rfl
  | none =>
    have hp : t.predicate.needsKey = true := hn
    rw [holds, hv, Predicate.holds_none, hp] at h
    cases h

/-- A test that holds goes on holding without the tags that are not kept, unless it needs
its key and the key is not kept. -/
theorem Test.holds_filterKeys {t : Test} {tags : TagSet} {keep : String → Bool}
    (hk : t.needsKey = true → keep t.key = true) (h : t.holds tags = true) :
    t.holds (tags.filterKeys keep) = true := by
  rw [holds, SortedMap.get?_filterKeys]
  by_cases hkeep : keep t.key = true
  · rwa [if_pos hkeep]
  · have hn : t.predicate.needsKey = false := Bool.eq_false_iff.mpr fun hn => hkeep (hk hn)
    rw [if_neg hkeep, Predicate.holds_none, hn]
    rfl

namespace Clause

theorem mem_neededKeys {c : Clause} {k : String} :
    k ∈ c.neededKeys ↔ ∃ t ∈ c.tests, t.needsKey = true ∧ t.key = k := by
  simp [neededKeys, and_assoc]

theorem contains_of_isMatch {c : Clause} {tags : TagSet} (h : c.isMatch tags = true) {k : String}
    (hk : k ∈ c.neededKeys) : tags.contains k = true := by
  obtain ⟨t, ht, hn, rfl⟩ := mem_neededKeys.mp hk
  exact Test.contains_of_holds hn (isMatch_iff.mp h t ht)

/-- A clause that matches goes on matching as long as the keys it needs are kept. -/
theorem isMatch_filterKeys {c : Clause} {tags : TagSet} {keep : String → Bool}
    (hk : ∀ k ∈ c.neededKeys, keep k = true) (h : c.isMatch tags = true) :
    c.isMatch (tags.filterKeys keep) = true := by
  refine isMatch_iff.mpr fun t ht => ?_
  have hneed : t.needsKey = true → keep t.key = true := fun hn =>
    hk t.key (mem_neededKeys.mpr ⟨t, ht, hn, rfl⟩)
  exact Test.holds_filterKeys hneed (isMatch_iff.mp h t ht)

/-- **The keys that a clause needs are those that it cannot do without.** A match stays a match
when any tags of other keys are removed, and when the tag of a needed key is removed, whatever else
is, there is no match. -/
theorem isMatch_without (c : Clause) (tags : TagSet) (removed : String → Bool) :
    (c.isMatch tags = true → (∀ k ∈ c.neededKeys, removed k = false) →
      c.isMatch (tags.without removed) = true) ∧
    ((∃ k ∈ c.neededKeys, removed k = true) → c.isMatch (tags.without removed) = false) := by
  constructor
  · intro h hkept
    exact isMatch_filterKeys (fun k hk => by rw [hkept k hk]; rfl) h
  · rintro ⟨k, hk, hremoved⟩
    rw [← Bool.not_eq_true]
    intro h
    have hcontains := contains_of_isMatch h hk
    rw [tags.contains_without_of_removed hremoved] at hcontains
    cases hcontains

/-- Lights, but not floating ones, that are not green and have no name. -/
def unnamedGlow : Clause where
  tests := [⟨"seamark:type", .contains "light", some 0⟩,
    ⟨"seamark:type", .differs "light_float", none⟩, ⟨"colour", .differs "green", some 1⟩,
    ⟨"name", .absent, none⟩]
  subclass := 7
  selector := none

theorem unnamedGlow_without :
    let tags : TagSet :=
      .ofList [("seamark:type", "light_major"), ("colour", "red"), ("depth", "3")]
    unnamedGlow.isMatch tags = true ∧
      unnamedGlow.isMatch (tags.without fun k => k = "colour" || k = "depth") = true ∧
      unnamedGlow.isMatch (tags.without (· = "seamark:type")) = false := by
  intro tags
  have h : unnamedGlow.isMatch tags = true := by decide +kernel
  exact ⟨h, (isMatch_without _ _ _).1 h (by decide +kernel),
    (isMatch_without _ _ _).2 ⟨"seamark:type", by decide +kernel, by decide⟩⟩

end Clause

/-! ### Guards -/

namespace Guard

theorem admits_iff {g : Guard} {tags : TagSet} :
    g.admits tags = true ↔ ∃ keys ∈ g.conjuncts, ∀ k ∈ keys, tags.contains k = true := by
  simp [admits, SortedSet.mem_iff_mem_toList]

theorem covers_iff {g : Guard} {c : Clause} :
    g.covers c = true ↔ ∃ keys ∈ g.conjuncts, ∀ k ∈ keys, k ∈ c.neededKeys := by
  simp [covers, SortedSet.mem_iff_mem_toList]

/-- A guard that covers a clause holds back nothing that the clause matches. -/
theorem admits_of_covers {g : Guard} {c : Clause} (hc : g.covers c = true) {tags : TagSet}
    (h : c.isMatch tags = true) : g.admits tags = true := by
  obtain ⟨keys, hkeys, hsub⟩ := covers_iff.mp hc
  exact admits_iff.mpr ⟨keys, hkeys, fun k hk => Clause.contains_of_isMatch h (hsub k hk)⟩

/-- A tag set has no other keys than a clause needs once the others are taken away, so a
guard that admits the rest covers the clause. -/
theorem covers_of_admits_filterKeys {g : Guard} {c : Clause} {tags : TagSet}
    (h : g.admits (tags.filterKeys c.neededKeys.contains) = true) : g.covers c = true := by
  obtain ⟨keys, hkeys, hall⟩ := admits_iff.mp h
  refine covers_iff.mpr ⟨keys, hkeys, fun k hk => ?_⟩
  have hc := hall k hk
  rw [SortedMap.contains_eq_isSome, SortedMap.get?_filterKeys] at hc
  by_cases hn : c.neededKeys.contains k = true
  · exact SortedSet.contains_eq_true.mp hn
  · rw [if_neg hn] at hc
    cases hc

/-- **Covering is exact.** For a clause that can match at all, a guard covers it if and only
if the guard admits every tag set that the clause matches. -/
theorem covers_iff_admits {g : Guard} {c : Clause} (hsat : ∃ tags, c.isMatch tags = true) :
    g.covers c = true ↔ ∀ tags, c.isMatch tags = true → g.admits tags = true := by
  refine ⟨fun hc tags h => admits_of_covers hc h, fun hall => ?_⟩
  obtain ⟨tags, h⟩ := hsat
  -- the match cut down to the keys that the clause needs
  have hcut : c.isMatch (tags.filterKeys c.neededKeys.contains) = true :=
    Clause.isMatch_filterKeys (fun k hk => SortedSet.contains_eq_true.mpr hk) h
  exact covers_of_admits_filterKeys (hall _ hcut)

/-- A derived guard has the needed keys of each clause as a conjunct, and no others. -/
theorem mem_ofClauses {clauses : List Clause} {keys : SortedSet String} :
    keys ∈ (ofClauses clauses).conjuncts ↔ ∃ c ∈ clauses, c.neededKeys = keys := by
  simp only [ofClauses, ofConjuncts, List.mem_map, ← SortedSet.mem_iff_mem_toList,
    SortedSet.mem_ofList]
  constructor
  · rintro ⟨_, ⟨c, hc, rfl⟩, rfl⟩
    exact ⟨c, hc, (SortedSet.ofList_toList _).symm⟩
  · rintro ⟨c, hc, rfl⟩
    exact ⟨_, ⟨c, hc, rfl⟩, SortedSet.ofList_toList _⟩

theorem covers_ofClauses {clauses : List Clause} {c : Clause} (hc : c ∈ clauses) :
    (ofClauses clauses).covers c = true :=
  covers_iff.mpr ⟨c.neededKeys, mem_ofClauses.mpr ⟨c, hc, rfl⟩, fun _ hk => hk⟩

end Guard

end TagRules
