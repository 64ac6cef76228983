/-
# A catalog has the structure of its definition

Nothing is lost, repeated or moved when a definition is compiled. The rules of a catalog are those
of its definition, one by one and in order, and so are the clauses of a rule and the tests of a
clause. What each of them keeps is said field by field (`TestDefinition.CompilesTo`,
`ClauseDefinition.CompilesTo`, `RuleDefinition.CompilesTo`). A clause that is given no subclass gets
one from its own text, the one that is shown for it.

As ids differ, a rule is found under its id, and nothing is found under any other
(`Catalog.rule?_eq_some`, `Catalog.rule?_eq_none_iff`); the same goes for classes. So the numbers
that a validation reports are those of the definition (`CatalogDefinition.structure_of_build`).

Key definitions: `TestDefinition.CompilesTo`, `ClauseDefinition.CompilesTo`,
`RuleDefinition.CompilesTo`.
Key theorems: `RuleDefinition.compilesTo_compiled`, `CatalogDefinition.structure_of_build`.
-/
import Mathlib.Data.List.Forall2
import TagRules.Proofs.Placeholder
import TagRules.Proofs.Reading
import TagRules.Proofs.Registry

namespace TagRules

/-! ### Tests -/

namespace TestDefinition

/-- A test has the key, the operator, the text and the slot of its definition. If the text is that
of a pattern, the search is the one that the library makes of it within the limits. -/
structure CompilesTo (library : PatternLibrary) (limits : PatternLimits) (d : TestDefinition)
    (t : Test) : Prop where
  key : t.key = d.key
  op : t.predicate.operator = d.op
  value : t.predicate.operand? = d.value
  pattern : ∀ p, t.predicate.pattern? = some p →
    library.compile? limits.programSize p.source = some p.found
  slot : t.slot = d.slot.map (·.toNat)

variable {library : PatternLibrary} {limits : PatternLimits} {rule : String} {position : Nat}
  {t : TestDefinition}

/-- A test without defects has a value exactly if its operator takes one. -/
theorem isSome_value (h : t.valueDefects library limits rule position = []) :
    t.value.isSome = t.op.takesValue := by
  obtain ⟨hvalue, -⟩ := List.append_eq_nil_iff.mp h
  obtain ⟨hunexpected, hmissing⟩ := List.append_eq_nil_iff.mp hvalue
  rw [defectIf_eq_nil] at hunexpected hmissing
  cases hv : t.value <;> cases ho : t.op.takesValue <;> simp_all

theorem operator_predicate (found : String → String → Bool) (t : TestDefinition) :
    (t.predicate found).operator = t.op := by
  unfold predicate
  cases t.op <;> rfl

/-- If the value is there exactly when it has to be, the predicate compares with it. -/
theorem operand?_predicate (found : String → String → Bool)
    (h : t.value.isSome = t.op.takesValue) : (t.predicate found).operand? = t.value := by
  obtain ⟨key, op, value, slot⟩ := t
  cases op with
  | present | absent =>
    cases value with
    | none => rfl
    | some text => cases h
  | eq | ne | contains | regex | notRegex =>
    cases value with
    | none => cases h
    | some text => rfl

theorem pattern?_predicate (found : String → String → Bool) (t : TestDefinition) :
    (t.predicate found).pattern? =
      if t.op.searches then some ⟨t.value.getD "", found (t.value.getD "")⟩ else none := by
  unfold predicate
  cases t.op <;> rfl

/-- The library makes a search of the text of a pattern without defects. -/
theorem compile?_eq_some (h : t.valueDefects library limits rule position = [])
    (hsearches : t.op.searches = true) {source : String} (hsource : t.value = some source) :
    library.compile? limits.programSize source = some (library.found limits source) := by
  rw [valueDefects_of_searches hsearches hsource] at h
  obtain ⟨-, hinvalid⟩ := List.append_eq_nil_iff.mp h
  rw [defectIf_eq_nil] at hinvalid
  cases hcompile : library.compile? limits.programSize source with
  | none => exact absurd (by rw [hcompile]; rfl) hinvalid
  | some search => rw [PatternLibrary.found_of_compile? hcompile]

theorem compilesTo_compiled (h : t.defects library limits rule position = []) :
    t.CompilesTo library limits (t.compiled (library.found limits)) := by
  obtain ⟨-, hvalue⟩ := List.append_eq_nil_iff.mp h
  have hsome := isSome_value hvalue
  refine ⟨rfl, t.operator_predicate _, operand?_predicate _ hsome, fun p hp => ?_, rfl⟩
  have hpattern : (t.predicate (library.found limits)).pattern? = some p := hp
  rw [pattern?_predicate] at hpattern
  by_cases hsearches : t.op.searches = true
  · have htakes : t.op.takesValue = true := Operator.takesValue_of_searches hsearches
    obtain ⟨source, hsource⟩ := Option.isSome_iff_exists.mp (hsome.trans htakes)
    rw [if_pos hsearches, hsource] at hpattern
    obtain rfl := Option.some.inj hpattern
    exact compile?_eq_some hvalue hsearches hsource
  · rw [if_neg hsearches] at hpattern
    cases hpattern

end TestDefinition

/-! ### Clauses and rules -/

/-- A template keeps the text from which it was read. -/
theorem Template.source_of_parse {source : String} {t : Template} (h : parse source = .ok t) :
    t.source = source := by
  obtain ⟨ps, -, rfl⟩ := map_eq_ok.mp h
  rfl

namespace ClauseDefinition

/-- A clause has the selector of its definition and its tests in order. Its subclass is its own,
else that of the rule, else the fingerprint of the clause as it is shown. -/
structure CompilesTo (library : PatternLibrary) (limits : PatternLimits) (rule : String)
    (subclass : Option UInt32) (d : ClauseDefinition) (c : Clause) : Prop where
  selector : c.selector = d.selector
  tests : List.Forall₂ (TestDefinition.CompilesTo library limits) d.tests c.tests
  subclass : c.subclass = (d.subclass.or subclass).getD (fingerprint rule c.text)

theorem compilesTo_compiled {library : PatternLibrary} {limits : PatternLimits} {rule : String}
    {position : Nat} {c : ClauseDefinition}
    (h : ∀ t ∈ c.tests, t.defects library limits rule position = [])
    (subclass : Option UInt32) :
    c.CompilesTo library limits rule subclass
      (c.compiled (library.found limits) rule subclass) where
  selector := rfl
  tests := by
    rw [tests_compiled, List.forall₂_map_right_iff, List.forall₂_same]
    exact fun t ht => TestDefinition.compilesTo_compiled (h t ht)
  subclass := rfl

end ClauseDefinition

namespace RuleDefinition

/-- A rule has the id, the class, the kinds, the message and the clauses of its definition. Its
guard is the one that is given, or the one that its clauses call for. -/
structure CompilesTo (library : PatternLibrary) (limits : PatternLimits) (d : RuleDefinition)
    (r : Rule) : Prop where
  id : r.id = d.id
  classId : r.classId = d.classId
  kinds : r.kinds = d.kinds
  source : r.message.source = d.message
  message : Template.parse d.message = .ok r.message
  guard : r.guard = (d.guard.map .ofConjuncts).getD (.ofClauses r.clauses)
  clauses :
    List.Forall₂ (ClauseDefinition.CompilesTo library limits d.id d.subclass) d.clauses r.clauses

variable {library : PatternLibrary} {limits : PatternLimits} {d : RuleDefinition}

theorem compilesTo_compiled (h : d.ownDefects library limits = []) :
    d.CompilesTo library limits (d.compiled (library.found limits)) := by
  obtain ⟨-, hmessage, hclauses, -⟩ := ownDefects_eq_nil.mp h
  have hparse : Template.parse d.message = .ok d.template := parse_eq_template hmessage
  refine ⟨rfl, rfl, rfl, Template.source_of_parse hparse, hparse, ?_, ?_⟩
  · show d.compiledGuard (library.found limits) = _
    unfold compiledGuard
    cases d.guard <;> rfl
  · rw [clauses_compiled, List.forall₂_map_right_iff, List.forall₂_same]
    intro c hc
    obtain ⟨i, hi⟩ := List.mem_iff_getElem?.mp hc
    obtain ⟨-, htests⟩ := defects_of_getElem? hclauses hi
    exact ClauseDefinition.compilesTo_compiled htests d.subclass

end RuleDefinition

/-! ### Catalogs -/

namespace Catalog

variable {c : Catalog}

/-- If the ids of rules differ, each of them is the first with its id. -/
theorem rule?_eq_some (hids : c.rules.Pairwise (·.id ≠ ·.id)) {i : Nat} {r : Rule}
    (hr : c.rules[i]? = some r) : c.rule? r.id = some (i, r) := by
  have hbefore : ∀ r' ∈ c.rules.take i, decide (r'.id = r.id) = false := fun r' hr' =>
    decide_eq_false (forall_take_iff_pairwise.mpr hids i r hr r' hr')
  have hfind := find?_zipIdx_eq_some (p := fun r' : Rule => decide (r'.id = r.id))
    (decide_eq_true rfl) c.rules i 0 hr hbefore
  rw [rule?, hfind, Nat.zero_add]
  rfl

theorem rule?_eq_none_iff {id : String} : c.rule? id = none ↔ ∀ r ∈ c.rules, r.id ≠ id := by
  have hmap := find?_zipIdx (fun r : Rule => decide (r.id = id)) c.rules 0
  rw [rule?, Option.map_eq_none_iff, ← Option.map_eq_none_iff (f := (·.1)), hmap,
    List.find?_eq_none]
  simp

end Catalog

namespace CatalogDefinition

variable {library : PatternLibrary} {limits : PatternLimits} {d : CatalogDefinition}
  (found : String → String → Bool)

/-- The clauses of the catalog are those of all rules. -/
theorem clauseCount_compiled (d : CatalogDefinition) :
    (d.compiled found).clauseCount = (d.rules.map (·.clauses.length)).sum := by
  have hlength : ∀ r : RuleDefinition, (r.compiled found).clauses.length = r.clauses.length := by
    intro r
    rw [r.clauses_compiled, List.length_map]
  rw [Catalog.clauseCount, List.length_flatMap, rules_compiled, List.map_map]
  exact congrArg List.sum (List.map_congr_left fun r _ => hlength r)

/-- Each rule of a catalog without defects is found under its id. -/
theorem rule?_compiled (h : d.defects library limits = []) {i : Nat} {r : RuleDefinition}
    (hr : d.rules[i]? = some r) :
    (d.compiled found).rule? r.id = some (i, r.compiled found) := by
  obtain ⟨-, hids, -⟩ := defects_eq_nil.mp h
  have hids' : (d.compiled found).rules.Pairwise (·.id ≠ ·.id) := List.pairwise_map.mpr hids
  exact Catalog.rule?_eq_some hids' (getElem?_rules_compiled found hr)

/-- **Compiling keeps the structure.** The rules of a catalog that was built are those of its
definition in order, with their clauses and tests. A rule is found under its id with its position,
and nothing under an id that no rule has; a class is known exactly if it was defined; and a
validation reports how many rules, clauses and classes were defined. -/
theorem structure_of_build {catalog : Catalog} (h : d.build library limits = .ok catalog) :
    List.Forall₂ (RuleDefinition.CompilesTo library limits) d.rules catalog.rules ∧
    (∀ rule text, (fingerprint rule text).toNat < Nat.pow 2 31) ∧
    d.rules.Pairwise (·.id ≠ ·.id) ∧
    (∀ (i : Nat) (rd : RuleDefinition), d.rules[i]? = some rd →
      ∃ r, catalog.rules[i]? = some r ∧ rd.CompilesTo library limits r ∧
        catalog.rule? rd.id = some (i, r)) ∧
    (∀ id, catalog.rule? id = none ↔ ∀ rd ∈ d.rules, rd.id ≠ id) ∧
    (∀ id c, catalog.class? id = some c ↔ c ∈ d.classes ∧ c.id = id) ∧
    ∀ source, Validation.ofCatalog source catalog =
      { valid := true, source, rules := d.rules.length,
        clauses := (d.rules.map (·.clauses.length)).sum, classes := d.classes.length,
        error := none } := by
  obtain ⟨hnone, rfl⟩ := build_eq_ok.mp h
  obtain ⟨hclasses, hids, hrules⟩ := defects_eq_nil.mp hnone
  let compiled := d.compiled (library.found limits)
  have hcompiles : ∀ rd ∈ d.rules,
      rd.CompilesTo library limits (rd.compiled (library.found limits)) := fun rd hrd =>
    RuleDefinition.compilesTo_compiled (hrules rd hrd).2
  have hids' : compiled.rules.Pairwise (·.id ≠ ·.id) := List.pairwise_map.mpr hids
  refine ⟨?_, fingerprint_lt, hids, fun i rd hrd => ?_, fun id => ?_,
    fun id c => class?_compiled_eq_some_iff hclasses, fun source => ?_⟩
  · rw [rules_compiled, List.forall₂_map_right_iff, List.forall₂_same]
    exact hcompiles
  · have hrule := getElem?_rules_compiled (library.found limits) hrd
    exact ⟨_, hrule, hcompiles rd (List.mem_of_getElem? hrd), Catalog.rule?_eq_some hids' hrule⟩
  · rw [Catalog.rule?_eq_none_iff]
    exact List.forall_mem_map
  · have hlength : compiled.rules.length = d.rules.length := List.length_map _
    have hsize : compiled.classes.size = d.classes.length :=
      (perm_entries_compiled hclasses).length_eq.trans (List.length_map _)
    rw [Validation.ofCatalog, hlength, hsize, clauseCount_compiled]

/-- A catalog with two rules. The first has a guard and two clauses, of which one has a subclass;
the second has a subclass for its clause, and its guard is derived. -/
def guardedMarks : CatalogDefinition where
  classes := [⟨9, 7, 2, .empty, none⟩, ⟨3, 7, 1, .empty, some "lights"⟩]
  rules := [{
    id := "mark"
    classId := 3
    subclass := none
    kinds := [.node, .area]
    message := "{0.value} mark"
    guard := some [["colour", "type"], ["type"]]
    clauses := [
      ⟨some "buoy", none, [⟨"type", .eq, some "buoy", none⟩, ⟨"colour", .present, none, some 0⟩]⟩,
      ⟨none, some 8, [⟨"type", .regex, some "beacon|pole", some 0⟩]⟩] },
    colouredMark "light"]

theorem guardedMarks_structure :
    ∃ catalog r, guardedMarks.build .engine .standard = .ok catalog ∧
      List.Forall₂ (RuleDefinition.CompilesTo .engine .standard) guardedMarks.rules catalog.rules ∧
      catalog.rules[0]? = some r ∧ catalog.rule? "mark" = some (0, r) ∧
      r.clauses.map (·.subclass) =
        [fingerprint "mark" "[\"type\"=\"buoy\"][\"colour\"]", 8] ∧
      r.guard.conjuncts.map (·.toList) = [["colour", "type"], ["type"]] ∧
      catalog.rule? "wreck" = none ∧
      catalog.class? 3 = some ⟨3, 7, 1, .empty, some "lights"⟩ ∧
      Validation.ofCatalog "marks.toml" catalog = ⟨true, "marks.toml", 2, 3, 2, none⟩ := by
  have h : guardedMarks.build .engine .standard = .ok _ := build_eq_ok.mpr ⟨by decide +kernel, rfl⟩
  obtain ⟨hrules, -, -, hrule, hnone, hclass, hvalidation⟩ := structure_of_build h
  obtain ⟨r, hr, hcompiles, hid⟩ := hrule 0 _ rfl
  have hguard : r.guard = .ofConjuncts [["colour", "type"], ["type"]] := hcompiles.guard
  refine ⟨_, r, h, hrules, hr, hid, ?_, ?_, (hnone "wreck").mpr (by decide +kernel),
    (hclass 3 _).mpr (by decide +kernel), hvalidation "marks.toml"⟩
  · obtain rfl := Option.some.inj hr
    rfl
  · rw [hguard]
    decide +kernel

end CatalogDefinition

end TagRules
