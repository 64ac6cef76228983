/-
# Scopes stay in the room that is made for them

Before a clause is attempted, room is made for all the slots that its tests name. Each test that
runs makes the row of the scope as long as its slot needs, or leaves it (`Test.length_run`), so
after some tests the row is as long as the highest of their slots needs (`length_scopeAfter`). That
is never more than was made room for, and after a match it is all of it
(`Clause.scope_stays_in_room`). This holds after a test that fails as well, because it binds its
slot too.

A catalog is built only if its slots are low (`CatalogDefinition.slot_lt_of_build`). So the scopes
of its clauses have at most 64 slots, and a machine word can count them.

Key definition: `roomFor`.
Key theorems: `Test.length_run`, `length_scopeAfter`, `Clause.scopeLength_eq`,
`result_runTests_append`, `CatalogDefinition.slot_lt_of_build`, `Clause.scope_stays_in_room`.
-/
import TagRules.Proofs.Validation

namespace TagRules

/-- The length of a row for one slot, if there is one. -/
def roomForSlot (slot : Option Nat) : Nat := slot.elim 0 (· + 1)

/-- The length of a row for the slots of tests: one more than the highest of them. -/
def roomFor (tests : List Test) : Nat := roomForSlot (tests.filterMap (·.slot)).max?

/-! ### The highest slot -/

theorem roomForSlot_max? (l : List Nat) (n : Nat) :
    l.foldl (fun n i => max n (i + 1)) n = max n (roomForSlot l.max?) := by
  induction l generalizing n with
  | nil => simp [roomForSlot]
  | cons i l ih =>
    rw [List.foldl_cons, ih, List.max?_cons]
    cases l.max? with
    | none => simp [roomForSlot]
    | some j =>
      simp only [roomForSlot, Option.elim_some]
      omega

/-- The length that is computed for a clause is that for its highest slot. -/
theorem Clause.scopeLength_eq (c : Clause) : c.scopeLength = roomFor c.tests := by
  rw [scopeLength, roomForSlot_max?, Nat.zero_max, roomFor]

theorem roomFor_cons (t : Test) (ts : List Test) :
    roomFor (t :: ts) = max (roomForSlot t.slot) (roomFor ts) := by
  rw [roomFor, roomFor]
  cases h : t.slot with
  | none => simp [h, roomForSlot]
  | some i =>
    rw [List.filterMap_cons_some h, List.max?_cons]
    cases (ts.filterMap (·.slot)).max? with
    | none => simp [roomForSlot]
    | some j =>
      simp only [roomForSlot, Option.elim_some]
      omega

theorem roomFor_append (ts us : List Test) :
    roomFor (ts ++ us) = max (roomFor ts) (roomFor us) := by
  induction ts with
  | nil => simp [roomFor, roomForSlot]
  | cons t ts ih => rw [List.cons_append, roomFor_cons, roomFor_cons, ih, Nat.max_assoc]

theorem roomFor_take_le (n : Nat) (tests : List Test) : roomFor (tests.take n) ≤ roomFor tests := by
  have h : roomFor tests = max (roomFor (tests.take n)) (roomFor (tests.drop n)) := by
    rw [← roomFor_append, List.take_append_drop]
  rw [h]
  exact Nat.le_max_left _ _

theorem roomFor_take_succ {tests : List Test} {n : Nat} {t : Test} (h : tests[n]? = some t) :
    roomFor (tests.take (n + 1)) = max (roomFor (tests.take n)) (roomForSlot t.slot) := by
  have hone : roomFor [t] = roomForSlot t.slot := (roomFor_cons t []).trans (Nat.max_zero _)
  rw [List.take_add_one, h, roomFor_append, Option.toList_some, hone]

theorem roomFor_le {tests : List Test} {n : Nat}
    (h : ∀ t ∈ tests, ∀ i, t.slot = some i → i < n) : roomFor tests ≤ n := by
  induction tests with
  | nil => exact Nat.zero_le n
  | cons t ts ih =>
    obtain ⟨ht, hts⟩ := List.forall_mem_cons.mp h
    rw [roomFor_cons]
    refine Nat.max_le.mpr ⟨?_, ih hts⟩
    cases hslot : t.slot with
    | none => exact Nat.zero_le n
    | some i => exact ht i hslot

/-! ### The row of a scope -/

/-- A test makes the row long enough for its slot, whether it passes or not. -/
theorem Test.length_run (t : Test) (tags : TagSet) (captures : Captures) :
    (t.run tags captures).captures.slots.length =
      max captures.slots.length (roomForSlot t.slot) := by
  obtain ⟨key, predicate, slot⟩ := t
  cases slot with
  | none => cases predicate <;> simp [run, lookup, bindText, roomForSlot]
  | some i =>
    -- some predicates bind the slot twice, and the second time the row is long enough
    cases predicate <;>
      simp [run, lookup, bindText, Captures.bindTag, Captures.bindText, Captures.length_bind,
        roomForSlot]

theorem length_scopeAfter (tags : TagSet) : ∀ (tests : List Test) (captures : Captures),
    (scopeAfter tags captures tests).slots.length = max captures.slots.length (roomFor tests)
  | [], captures => by simp [scopeAfter, roomFor, roomForSlot]
  | t :: ts, captures => by
    have hstep : scopeAfter tags captures (t :: ts) =
        scopeAfter tags (t.run tags captures).captures ts := rfl
    rw [hstep, length_scopeAfter tags ts, Test.length_run, roomFor_cons, Nat.max_assoc]

/-- When tests have passed, the row is as long as before or as their slots need. -/
theorem length_of_result_runTests {tags : TagSet} {first : Nat} {captures s : Captures}
    {tests : List Test} (h : (runTests tags first captures tests).result = some s) :
    s.slots.length = max captures.slots.length (roomFor tests) := by
  rw [result_runTests] at h
  split at h
  · obtain rfl := Option.some.inj h
    exact length_scopeAfter tags tests captures
  · cases h

/-- Once some tests have passed, the others go on in the scope that these have left. -/
theorem result_runTests_append (tags : TagSet) (ts us : List Test) (first : Nat)
    (captures : Captures) :
    (runTests tags first captures (ts ++ us)).result =
      (runTests tags first captures ts).result.bind fun s =>
        (runTests tags (first + ts.length) s us).result := by
  simp only [result_runTests, List.all_append]
  by_cases h : ts.all (·.holds tags) = true
  · simp [h, scopeAfter]
  · simp [h]

/-- An attempt goes on from the scope that its first tests leave. -/
theorem Clause.result_run_of_take {c : Clause} {tags : TagSet} {n : Nat} {s : Captures}
    (h : (runTests tags 0 (.withRoom c.scopeLength) (c.tests.take n)).result = some s) :
    (c.run tags).result = (runTests tags (c.tests.take n).length s (c.tests.drop n)).result := by
  have happend := result_runTests_append tags (c.tests.take n) (c.tests.drop n) 0
    (.withRoom c.scopeLength)
  rw [List.take_append_drop, h, Nat.zero_add] at happend
  exact happend

/-! ### Slots of catalogs that were built -/

/-- If no clause has a defect, no test has a slot that is too high. -/
theorem RuleDefinition.slot_le_of_mem_compiledClauses {library : PatternLibrary}
    {limits : PatternLimits} {found : String → String → Bool} {d : RuleDefinition}
    (h : d.clauseDefects library limits = []) {c : Clause} (hc : c ∈ d.compiledClauses found)
    {t : Test} (ht : t ∈ c.tests) {i : Nat} (hi : t.slot = some i) : i ≤ maxSlot := by
  obtain ⟨cd, hcd, rfl⟩ := List.mem_map.mp hc
  obtain ⟨td, htd, rfl⟩ := List.mem_map.mp ht
  obtain ⟨position, hposition⟩ := exists_of_flatMap_zipIdx_eq_nil h hcd
  have htests := (List.append_eq_nil_iff.mp (List.append_eq_nil_iff.mp hposition).1).2
  have htest := List.flatMap_eq_nil_iff.mp htests td htd
  have hslot := flatMap_defectIf_eq_nil.mp (List.append_eq_nil_iff.mp htest).1 i
    (Option.mem_toList.mpr hi)
  exact Nat.le_of_not_lt hslot

/-- In a catalog that was built, slots are below 64. -/
theorem CatalogDefinition.slot_lt_of_build {library : PatternLibrary} {limits : PatternLimits}
    {d : CatalogDefinition} {catalog : Catalog} (h : d.build library limits = .ok catalog)
    {r : Rule} (hr : r ∈ catalog.rules) {c : Clause} (hc : c ∈ r.clauses) {t : Test}
    (ht : t ∈ c.tests) {i : Nat} (hi : t.slot = some i) : i < 64 := by
  obtain ⟨hnone, rfl⟩ := build_eq_ok.mp h
  obtain ⟨rd, hrd, rfl⟩ := List.mem_map.mp hr
  obtain ⟨-, -, hclauses, -⟩ := RuleDefinition.ownDefects_eq_nil.mp (ownDefects_of_mem hnone hrd)
  exact Nat.lt_succ_of_le (RuleDefinition.slot_le_of_mem_compiledClauses hclauses hc ht hi)

namespace Clause

/-- **The room that is made for a scope is enough, and no more than is used.** When the first tests
of an attempt have passed, the attempt goes on from the scope that they leave. The row of that scope
is as long as the highest slot so far needs, and so is the row after the test that runs next,
whether it passes or not; both fit in the room that was made. After a match the row is as long as
that room, and the bound slots are those of the clause. In a catalog that was built, that is room
for at most 64 slots, and no step from a slot to the next overflows. -/
theorem scope_stays_in_room :
    (∀ (c : Clause) (tags : TagSet),
      (∀ n s, (runTests tags 0 (.withRoom c.scopeLength) (c.tests.take n)).result = some s →
        (c.run tags).result = (runTests tags (c.tests.take n).length s (c.tests.drop n)).result ∧
        s.slots.length = roomFor (c.tests.take n) ∧ s.slots.length ≤ c.scopeLength ∧
        ∀ t, c.tests[n]? = some t →
          (t.run tags s).captures.slots.length = roomFor (c.tests.take (n + 1)) ∧
          (t.run tags s).captures.slots.length ≤ c.scopeLength) ∧
      ∀ s, (c.run tags).result = some s →
        s.slots.length = c.scopeLength ∧ ∀ i, s.isBound i = true ↔ i ∈ c.boundSlots) ∧
    ∀ (library : PatternLibrary) (limits : PatternLimits) (d : CatalogDefinition)
      (catalog : Catalog), d.build library limits = .ok catalog →
      ∀ r ∈ catalog.rules, ∀ c ∈ r.clauses,
        c.scopeLength ≤ 64 ∧
        ∀ t ∈ c.tests, ∀ i, t.slot = some i → i < 64 ∧ (UInt64.ofNat i + 1).toNat = i + 1 := by
  refine ⟨fun c tags => ⟨fun n s hs => ?_, fun s hs => ?_⟩,
    fun library limits d catalog h r hr c hc => ?_⟩
  · have hlength : s.slots.length = roomFor (c.tests.take n) :=
      (length_of_result_runTests hs).trans (Nat.zero_max _)
    refine ⟨result_run_of_take hs, hlength, ?_, fun t ht => ?_⟩
    · rw [hlength, scopeLength_eq]
      exact roomFor_take_le n c.tests
    · have hnext : (t.run tags s).captures.slots.length = roomFor (c.tests.take (n + 1)) := by
        rw [Test.length_run, hlength, roomFor_take_succ ht]
      refine ⟨hnext, ?_⟩
      rw [hnext, scopeLength_eq]
      exact roomFor_take_le (n + 1) c.tests
  · have hlength : s.slots.length = roomFor c.tests :=
      (length_of_result_runTests hs).trans (Nat.zero_max _)
    refine ⟨by rw [hlength, scopeLength_eq], ?_⟩
    rw [result_run] at hs
    split at hs
    · obtain rfl := Option.some.inj hs
      exact isBound_scope c tags
    · cases hs
  · have hslot : ∀ t ∈ c.tests, ∀ i, t.slot = some i → i < 64 := fun t ht i hi =>
      CatalogDefinition.slot_lt_of_build h hr hc ht hi
    refine ⟨?_, fun t ht i hi => ⟨hslot t ht i hi, ?_⟩⟩
    · rw [scopeLength_eq]
      exact roomFor_le hslot
    · have hlt := hslot t ht i hi
      rw [UInt64.toNat_add, UInt64.toNat_ofNat', UInt64.toNat_one]
      omega

/-- The clause of a light with a name and without a colour. Its slots are neither in order nor next
to each other. -/
def unpaintedLight : Clause where
  tests := [⟨"seamark:type", .equals "light", some 5⟩, ⟨"name", .present, some 63⟩,
    ⟨"colour", .absent, some 0⟩]
  subclass := 7
  selector := none

/-- A catalog with that clause. -/
def unpaintedLights : CatalogDefinition where
  classes := [⟨3, 7, 1, .empty, none⟩]
  rules := [{
    id := "unpainted-light"
    classId := 3
    subclass := some 7
    kinds := [.node]
    message := "\x7b5.value\x7d \x7b63.value\x7d without \x7b0.key\x7d"
    guard := none
    clauses := [⟨none, none, [⟨"seamark:type", .eq, some "light", some 5⟩,
      ⟨"name", .present, none, some 63⟩, ⟨"colour", .absent, none, some 0⟩]⟩] }]

theorem unpaintedLight_stays_in_room :
    let tags : TagSet := .ofList [("seamark:type", "light"), ("name", "West")]
    (∃ s, (runTests tags 0 (.withRoom 64) (unpaintedLight.tests.take 1)).result = some s ∧
      s.slots.length = 6 ∧
      ((⟨"name", .present, some 63⟩ : Test).run tags s).captures.slots.length = 64) ∧
    (∃ s, (unpaintedLight.run tags).result = some s ∧ s.slots.length = 64) ∧
    ∃ catalog, unpaintedLights.build .engine .standard = .ok catalog ∧
      ∀ r ∈ catalog.rules, ∀ c ∈ r.clauses, c.scopeLength ≤ 64 := by
  intro tags
  obtain ⟨hstart, hmatch⟩ := scope_stays_in_room.1 unpaintedLight tags
  have hfirst : (runTests tags 0 (.withRoom 64) (unpaintedLight.tests.take 1)).result = some _ :=
      rfl
  have hall : (unpaintedLight.run tags).result = some _ := rfl
  have hbuild : unpaintedLights.build .engine .standard = .ok _ :=
    CatalogDefinition.build_eq_ok.mpr ⟨by decide +kernel, rfl⟩
  obtain ⟨-, hlength, -, hnext⟩ := hstart 1 _ hfirst
  exact ⟨⟨_, hfirst, hlength, (hnext _ rfl).1⟩, ⟨_, hall, (hmatch _ hall).1⟩, _, hbuild,
    fun r hr c hc => (scope_stays_in_room.2 .engine .standard unpaintedLights _ hbuild r hr c hc).1⟩

end Clause

end TagRules
