/-
# What an attempt of a clause leaves in its scope

A run of a test binds the slot of the test to what the test has seen, whatever the
slot held before, and leaves every other slot alone (`Test.get?_captures_run`,
`Test.run_frame`). So a clause matches if all its tests hold (`Clause.isMatch_iff`), and
each slot then holds what the last test with that slot has seen (`Clause.get?_scope`); the
bound slots are those that the tests name (`Clause.isBound_scope`).

Key definitions: `Test.seen`, `Test.withoutSlot`, `Clause.scope`.
Key theorems: `Test.get?_captures_run`, `Test.run_frame`, `Clause.result_run`,
`Clause.get?_scope`.
-/
import TagRules.Clause

namespace TagRules

namespace Test

/-- What a test binds to its slot: its key, with the text that it compares with, or with
the value of the tag if it compares with none. -/
def seen (t : Test) (tags : TagSet) : Capture :=
  ⟨some t.key,
    match t.predicate with
    | .equals text | .differs text | .contains text => some text
    | .present | .absent | .finds _ | .avoids _ => tags.get? t.key⟩

/-- A run binds the test's own slot and no other. What the slot held before does not
matter: the tag is bound with its key before a text takes the place of the value, and
after the text of a pattern. -/
theorem get?_captures_run (t : Test) (tags : TagSet) (captures : Captures) (i : Nat) :
    (t.run tags captures).captures.get? i =
      if t.slot = some i then some (t.seen tags) else captures.get? i := by
  obtain ⟨key, predicate, slot⟩ := t
  cases slot with
  | none => cases predicate <;> simp [run, lookup, bindText]
  | some j =>
    by_cases h : i = j
    · subst h
      cases predicate <;>
        simp [run, lookup, bindText, Captures.bindTag, Captures.bindText, Captures.get?_bind, seen]
    · have h' : ¬ j = i := fun e => h e.symm
      cases predicate <;>
        simp [run, lookup, bindText, Captures.bindTag, Captures.bindText, Captures.get?_bind, h, h']

theorem captures_run_of_slot_eq_none {t : Test} (h : t.slot = none) (tags : TagSet)
    (captures : Captures) : (t.run tags captures).captures = captures := by
  obtain ⟨key, predicate, slot⟩ := t
  subst h
  cases predicate <;> rfl

def withoutSlot (t : Test) : Test := { t with slot := none }

/-- The text of a pattern does not show in the scope after a search for it: any other pattern
leaves the same. -/
theorem get?_captures_run_finds (key : String) (slot : Option Nat) (p p' : Pattern) (tags : TagSet)
    (captures : Captures) (i : Nat) :
    ((⟨key, .finds p, slot⟩ : Test).run tags captures).captures.get? i =
        ((⟨key, .finds p', slot⟩ : Test).run tags captures).captures.get? i ∧
      ((⟨key, .avoids p, slot⟩ : Test).run tags captures).captures.get? i =
        ((⟨key, .avoids p', slot⟩ : Test).run tags captures).captures.get? i := by
  simp only [get?_captures_run]
  exact ⟨rfl, rfl⟩

/-- **A verdict ignores captures, and a capture ignores the past.** A test passes in any scope
exactly if it passes without its slot in an empty one. It leaves the other slots as they are, and
without a slot the whole scope. Whether it passes or not, its own slot is bound in the end to its
key with the text it compares with, or with the value of the tag: neither the text of a pattern nor
a key from before is left. -/
theorem run_frame (t : Test) (tags : TagSet) (captures : Captures) :
    (t.run tags captures).passed = (t.withoutSlot.run tags .empty).passed ∧
    (t.slot = none → (t.run tags captures).captures = captures) ∧
    (∀ i, t.slot ≠ some i → (t.run tags captures).captures.get? i = captures.get? i) ∧
    (∀ i, t.slot = some i → (t.run tags captures).captures.get? i =
      some ⟨some t.key,
        match t.predicate with
        | .equals text | .differs text | .contains text => some text
        | .present | .absent | .finds _ | .avoids _ => tags.get? t.key⟩) ∧
    ∀ p p' i,
      (({ t with predicate := .finds p } : Test).run tags captures).captures.get? i =
        (({ t with predicate := .finds p' } : Test).run tags captures).captures.get? i ∧
      (({ t with predicate := .avoids p } : Test).run tags captures).captures.get? i =
        (({ t with predicate := .avoids p' } : Test).run tags captures).captures.get? i := by
  refine ⟨?_, fun h => captures_run_of_slot_eq_none h tags captures, fun i h => ?_, fun i h => ?_,
    fun p p' i => get?_captures_run_finds t.key t.slot p p' tags captures i⟩
  · rw [passed_run, passed_run]
    rfl
  · rw [get?_captures_run, if_neg h]
  · rw [get?_captures_run, if_pos h]
    rfl

/-- Slot 0 held a colour. A test that holds because there is no name puts its own key and its text
in the place of both halves, and slot 1 stays as it was. -/
theorem run_frame_unnamed :
    let t : Test := ⟨"name", .differs "Roter Sand", some 0⟩
    let tags : TagSet := .ofList [("colour", "red")]
    let captures : Captures :=
      ⟨[some ⟨some "colour", some "red"⟩, some ⟨none, some "light"⟩]⟩
    (t.withoutSlot.run tags .empty).passed = true ∧ (t.run tags captures).passed = true ∧
      (t.run tags captures).captures.get? 0 = some ⟨some "name", some "Roter Sand"⟩ ∧
      (t.run tags captures).captures.get? 1 = some ⟨none, some "light"⟩ ∧
      (t.withoutSlot.run tags captures).captures = captures := by
  intro t tags captures
  obtain ⟨hpassed, -, hother, hown, -⟩ := run_frame t tags captures
  obtain ⟨-, hscope, -⟩ := run_frame t.withoutSlot tags captures
  have hverdict : (t.withoutSlot.run tags .empty).passed = true := by decide +kernel
  exact ⟨hverdict, hpassed.trans hverdict, hown 0 rfl, hother 1 (by decide), hscope rfl⟩

end Test

/-- The scope after all tests of a list have run. -/
def scopeAfter (tags : TagSet) (captures : Captures) (tests : List Test) : Captures :=
  tests.foldl (fun captures t => (t.run tags captures).captures) captures

/-- Running tests ends with the scope after all of them if they all hold, else with nothing. -/
theorem result_runTests (tags : TagSet) : ∀ (tests : List Test) (first : Nat) (captures : Captures),
    (runTests tags first captures tests).result =
      if tests.all (·.holds tags) then some (scopeAfter tags captures tests) else none
  | [], _, _ => rfl
  | t :: ts, first, captures => by
    have ih := result_runTests tags ts (first + 1) (t.run tags captures).captures
    by_cases h : t.holds tags
    · simp only [runTests, Test.passed_run, h, if_true, ih, List.all_cons, Bool.true_and]
      rfl
    · simp [runTests, Test.passed_run, h]

/-- A slot holds what the last test with it has seen; without such a test it is as before. -/
theorem get?_scopeAfter (tags : TagSet) (i : Nat) : ∀ (tests : List Test) (captures : Captures),
    (scopeAfter tags captures tests).get? i =
      (((tests.filter (·.slot = some i)).getLast?).map (·.seen tags)).or (captures.get? i)
  | [], _ => by simp [scopeAfter]
  | t :: ts, captures => by
    have ih := get?_scopeAfter tags i ts (t.run tags captures).captures
    have step : scopeAfter tags captures (t :: ts) =
        scopeAfter tags (t.run tags captures).captures ts := rfl
    rw [step, ih, Test.get?_captures_run]
    by_cases h : t.slot = some i
    · rw [if_pos h, List.filter_cons_of_pos (by simpa using h), List.getLast?_cons]
      cases (ts.filter (·.slot = some i)).getLast? <;> rfl
    · rw [if_neg h, List.filter_cons_of_neg (by simpa using h)]

namespace Clause

/-- The scope of an attempt in which all tests have passed. -/
def scope (c : Clause) (tags : TagSet) : Captures := scopeAfter tags .empty c.tests

theorem result_run (c : Clause) (tags : TagSet) :
    (c.run tags).result = if c.tests.all (·.holds tags) then some (c.scope tags) else none :=
  result_runTests tags c.tests 0 .empty

theorem isMatch_iff {c : Clause} {tags : TagSet} :
    c.isMatch tags = true ↔ ∀ t ∈ c.tests, t.holds tags = true := by
  rw [isMatch, result_run, ← List.all_eq_true]
  split <;> simp [*]

theorem result_run_eq_ite (c : Clause) (tags : TagSet) :
    (c.run tags).result = if c.isMatch tags then some (c.scope tags) else none := by
  rw [isMatch, result_run]
  split <;> simp

theorem get?_scope (c : Clause) (tags : TagSet) (i : Nat) :
    (c.scope tags).get? i = ((c.tests.filter (·.slot = some i)).getLast?).map (·.seen tags) := by
  have empty : Captures.empty.get? i = none := rfl
  rw [scope, get?_scopeAfter, empty, Option.or_none]

theorem isBound_scope (c : Clause) (tags : TagSet) (i : Nat) :
    (c.scope tags).isBound i = true ↔ i ∈ c.boundSlots := by
  simp [Captures.isBound, get?_scope, boundSlots]

end Clause

end TagRules
