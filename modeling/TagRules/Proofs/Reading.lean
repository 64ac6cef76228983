/-
# What definitions say

A definition read as it stands, without guards, compiling or capture scopes. A test holds of
a tag set or not (`TestDefinition.Holds`); of each rule the first clause counts all of whose
tests hold; its message is the template with each slot reference replaced by the key or the
text of the last test with that slot (`ClauseDefinition.shown`); the rules for a kind are
read in order (`CatalogDefinition.reading`). Whether the pattern of a text is found in a value
is given from outside, as `found`.

What was built from a definition finds exactly what the definition says, if the library with
which it was built is asked for `found` (`CatalogDefinition.result_findings_of_build`).

Key definitions: `TestDefinition.Holds`, `ClauseDefinition.shown`, `RuleDefinition.reading`,
`CatalogDefinition.reading`.
Key theorems: `ClauseDefinition.isMatch_compiled`, `ClauseDefinition.shown_scope_compiled`,
`CatalogDefinition.result_findings_of_build`.
-/
import TagRules.Proofs.Validation

namespace TagRules

variable (found : String → String → Bool)

/-! ### Tests -/

namespace TestDefinition

/-- The text that a test compares with. -/
def operand (t : TestDefinition) : String := t.value.getD ""

/-- Whether a test holds of a tag set. -/
def Holds (tags : TagSet) (t : TestDefinition) : Prop :=
  match t.op with
  | .present => tags.contains t.key = true
  | .absent => ¬ tags.contains t.key = true
  | .eq => tags.get? t.key = some t.operand
  | .ne => ¬ tags.get? t.key = some t.operand
  | .contains => ∃ v ∈ tags.get? t.key, t.operand.toList <:+: v.toList
  | .regex => ∃ v ∈ tags.get? t.key, found t.operand v = true
  | .notRegex => ¬ ∃ v ∈ tags.get? t.key, found t.operand v = true

instance (tags : TagSet) : DecidablePred (Holds found tags)
  | ⟨key, .present, _, _⟩ => inferInstanceAs (Decidable (tags.contains key = true))
  | ⟨key, .absent, _, _⟩ => inferInstanceAs (Decidable (¬ tags.contains key = true))
  | ⟨key, .eq, value, _⟩ => inferInstanceAs (Decidable (tags.get? key = some (value.getD "")))
  | ⟨key, .ne, value, _⟩ => inferInstanceAs (Decidable (¬ tags.get? key = some (value.getD "")))
  | ⟨key, .contains, value, _⟩ =>
    inferInstanceAs (Decidable (∃ v ∈ tags.get? key, (value.getD "").toList <:+: v.toList))
  | ⟨key, .regex, value, _⟩ => inferInstanceAs
    (Decidable (∃ v ∈ tags.get? key, found (value.getD "") v = true))
  | ⟨key, .notRegex, value, _⟩ => inferInstanceAs
    (Decidable (¬ ∃ v ∈ tags.get? key, found (value.getD "") v = true))

/-- What a slot shows after the test: the key, or the text that the key is compared with, or
the value of the key if there is no such text. -/
def captured (tags : TagSet) (t : TestDefinition) : SlotPart → String
  | .key => t.key
  | .value =>
    match t.op with
    | .eq | .ne | .contains => t.operand
    | .present | .absent | .regex | .notRegex => (tags.get? t.key).getD ""

/-- The test in the notation of selectors. -/
def text (t : TestDefinition) : String :=
  let key := "\"" ++ t.key ++ "\""
  match t.op with
  | .present => "[" ++ key ++ "]"
  | .absent => "[!" ++ key ++ "]"
  | .eq => "[" ++ key ++ "=\"" ++ t.operand ++ "\"]"
  | .ne => "[" ++ key ++ "!=\"" ++ t.operand ++ "\"]"
  | .contains => "[" ++ key ++ "*=\"" ++ t.operand ++ "\"]"
  | .regex => "[" ++ key ++ "=~/" ++ t.operand ++ "/]"
  | .notRegex => "[" ++ key ++ "!~/" ++ t.operand ++ "/]"

theorem holds_compiled (t : TestDefinition) (tags : TagSet) :
    (t.compiled found).holds tags = true ↔ t.Holds found tags := by
  unfold Test.holds compiled predicate Holds
  rw [SortedMap.contains_eq_isSome]
  cases t.op with
  | present => exact Iff.rfl
  | absent => simp [Predicate.holds]
  | eq => simp [Predicate.holds, operand]
  | ne => simp [Predicate.holds, operand]
  | contains =>
    simp [Predicate.holds, operand, Text.hasPart, Text.occursIn_iff_isInfix, Option.any_eq_true]
  | regex => simp [Predicate.holds, operand, Option.any_eq_true]
  | notRegex => simp [Predicate.holds, operand, Option.any_eq_false]

theorem half_seen_compiled (t : TestDefinition) (tags : TagSet) (part : SlotPart) :
    (((t.compiled found).seen tags).half part).getD "" = t.captured tags part := by
  cases part with
  | key => rfl
  | value =>
    unfold Test.seen compiled predicate captured
    cases t.op <;> rfl

theorem text_compiled (t : TestDefinition) : (t.compiled found).text = t.text := by
  unfold Test.text compiled predicate text
  cases t.op <;> rfl

end TestDefinition

/-! ### Clauses -/

namespace ClauseDefinition

/-- Whether all tests of a clause hold. -/
def Holds (tags : TagSet) (c : ClauseDefinition) : Prop := ∀ t ∈ c.tests, t.Holds found tags

instance (tags : TagSet) : DecidablePred (Holds found tags) :=
  fun c => inferInstanceAs (Decidable (∀ t ∈ c.tests, t.Holds found tags))

/-- The last test with a slot. -/
def lastTest? (c : ClauseDefinition) (slot : Nat) : Option TestDefinition :=
  (c.tests.filter (·.slotNumber = some slot)).getLast?

/-- What a slot reference in the message shows. -/
def shown (tags : TagSet) (c : ClauseDefinition) (ref : SlotRef) : String :=
  ((c.lastTest? ref.slot).map (·.captured tags ref.part)).getD ""

/-- The clause in the notation of selectors. -/
def text (c : ClauseDefinition) : String := String.join (c.tests.map (·.text))

variable (rule : String) (subclass : Option UInt32) (c : ClauseDefinition) (tags : TagSet)

theorem isMatch_compiled :
    (c.compiled found rule subclass).isMatch tags = true ↔ c.Holds found tags := by
  rw [Clause.isMatch_iff]
  constructor
  · intro h t ht
    exact (t.holds_compiled found tags).mp (h (t.compiled found) (List.mem_map_of_mem ht))
  · intro h _ hmem
    obtain ⟨t, ht, rfl⟩ := List.mem_map.mp hmem
    exact (t.holds_compiled found tags).mpr (h t ht)

/-- The scope shows for each slot what the last test with that slot captures. -/
theorem shown_scope_compiled :
    ((c.compiled found rule subclass).scope tags).shown = c.shown tags := by
  funext ref
  have hlast : ((c.compiled found rule subclass).tests.filter (·.slot = some ref.slot)).getLast? =
      (c.lastTest? ref.slot).map (·.compiled found) := by
    rw [compiled, List.filter_map, List.getLast?_map]
    rfl
  rw [Captures.shown, Clause.get?_scope, hlast, shown]
  cases c.lastTest? ref.slot with
  | none => rfl
  | some t => exact t.half_seen_compiled found tags ref.part

theorem subclass_compiled : (c.compiled found rule subclass).subclass =
    (c.subclass.or subclass).getD (fingerprint rule c.text) := by
  have htext : (c.tests.map (·.compiled found)).map (·.text) = c.tests.map (·.text) := by
    rw [List.map_map]
    exact List.map_congr_left fun t _ => t.text_compiled found
  rw [compiled, htext, text]

end ClauseDefinition

/-! ### Rules and catalogs -/

namespace RuleDefinition

/-- What the rule reports if a clause counts. -/
def finding (d : RuleDefinition) (tags : TagSet) (c : ClauseDefinition) : Finding where
  classId := d.classId
  subclass := (c.subclass.or d.subclass).getD (fingerprint d.id c.text)
  text := String.ofList (fillIn (c.shown tags) 0 d.message.toList)

/-- What the rule says of a tag set: the first clause counts all of whose tests hold. -/
def reading (d : RuleDefinition) (tags : TagSet) : Option Finding :=
  (d.clauses.find? (·.Holds found tags)).map (d.finding tags)

theorem parse_eq_template {d : RuleDefinition} (h : d.messageDefects = []) :
    Template.parse d.message = .ok d.template := by
  unfold messageDefects at h
  unfold template
  cases hm : Template.parse d.message with
  | error e => rw [hm] at h; cases h
  | ok message => rfl

theorem finding_compiled {d : RuleDefinition} (h : d.messageDefects = []) (tags : TagSet)
    (c : ClauseDefinition) :
    (d.compiled found).finding tags (c.compiled found d.id d.subclass) = d.finding tags c := by
  rw [Rule.finding, c.subclass_compiled, c.shown_scope_compiled, compiled,
    Template.text_of_parse (parse_eq_template h), finding]

/-- The compiled rule has to say what its definition says. -/
theorem outcome_compiled {d : RuleDefinition} (h : d.messageDefects = []) (tags : TagSet) :
    (d.compiled found).outcome tags = d.reading found tags := by
  have hholds : ((fun c : Clause => c.isMatch tags) ∘ fun c => c.compiled found d.id d.subclass) =
      fun c : ClauseDefinition => decide (c.Holds found tags) := by
    funext c
    rw [Bool.eq_iff_iff, decide_eq_true_iff]
    exact c.isMatch_compiled found d.id d.subclass tags
  have hfinding : ((d.compiled found).finding tags ∘ fun c => c.compiled found d.id d.subclass) =
      d.finding tags := funext fun c => finding_compiled found h tags c
  calc
    (d.compiled found).outcome tags =
        ((d.clauses.map (·.compiled found d.id d.subclass)).find? (·.isMatch tags)).map
          ((d.compiled found).finding tags) := rfl
    _ = (d.clauses.find? (·.Holds found tags)).map (d.finding tags) := by
      rw [List.find?_map, hholds, Option.map_map, hfinding]

end RuleDefinition

namespace CatalogDefinition

/-- What the rules for a kind say of a tag set, in the order of the definition. -/
def reading (d : CatalogDefinition) (kind : FeatureKind) (tags : TagSet) : List Finding :=
  (d.rules.filter (kind ∈ ·.kinds)).filterMap (·.reading found tags)

/-- The rules for a kind are those whose definitions name it. -/
theorem filter_appliesTo_compiled (d : CatalogDefinition) (kind : FeatureKind) :
    (d.compiled found).rules.filter (·.appliesTo kind) =
      (d.rules.filter (kind ∈ ·.kinds)).map (·.compiled found) := by
  have hkinds : ((fun r : Rule => r.appliesTo kind) ∘ fun r => r.compiled found) =
      fun r : RuleDefinition => decide (kind ∈ r.kinds) := by
    funext r
    exact List.contains_eq_mem kind r.kinds
  rw [rules_compiled, List.filter_map, hkinds]

theorem outcomes_compiled {library : PatternLibrary} {limits : PatternLimits}
    {d : CatalogDefinition} (h : d.defects library limits = []) (kind : FeatureKind)
    (tags : TagSet) :
    (d.compiled found).outcomes kind tags = d.reading found kind tags := by
  have houtcomes : ∀ r ∈ d.rules.filter (kind ∈ ·.kinds),
      (r.compiled found).outcome tags = r.reading found tags := by
    intro r hr
    have hown := ownDefects_of_mem h (List.mem_filter.mp hr).1
    obtain ⟨-, hmessage, -, -⟩ := RuleDefinition.ownDefects_eq_nil.mp hown
    exact RuleDefinition.outcome_compiled found hmessage tags
  rw [Catalog.outcomes, filter_appliesTo_compiled, List.filterMap_map, reading]
  exact List.filterMap_congr houtcomes

/-- **What was built finds what its definition says**, with the patterns of the library that it
was built with. Guards, whether guards are checked, the index of kinds, kept searches, scopes and
templates do not show in the result. -/
theorem result_findings_of_build {library : PatternLibrary} {limits : PatternLimits}
    {d : CatalogDefinition} {catalog : Catalog} (h : d.build library limits = .ok catalog)
    (verifyGuards : Bool) (kind : FeatureKind) (tags : TagSet) :
    (catalog.findings verifyGuards kind tags).result =
      .ok (d.reading (library.found limits) kind tags) := by
  rw [result_findings_eq_outcomes h]
  obtain ⟨hd, rfl⟩ := build_eq_ok.mp h
  rw [outcomes_compiled _ hd]

/-- A catalog with one rule, on lights whose colour is not one of two. -/
def oddLights : CatalogDefinition where
  classes := [⟨3, 7, 1, .empty, none⟩]
  rules := [{
    id := "odd-light"
    classId := 3
    subclass := some 7
    kinds := [.node]
    message := "\x7b0.value\x7d with \x7b1.key\x7d \x7b1.value\x7d"
    guard := some [["seamark:type"]]
    clauses := [⟨none, none, [⟨"seamark:type", .regex, some "^light_(major|minor)$", some 0⟩,
      ⟨"colour", .notRegex, some "red|green", some 1⟩]⟩] }]

theorem result_findings_oddLights :
    let blueLight : TagSet := .ofList [("seamark:type", "light_minor"), ("colour", "blue")]
    ∃ catalog, oddLights.build .engine .standard = .ok catalog ∧
      (catalog.findings true .node blueLight).result =
        .ok [⟨3, 7, "light_minor with colour blue"⟩] := by
  intro blueLight
  have h : oddLights.build .engine .standard = .ok _ := build_eq_ok.mpr ⟨by decide +kernel, rfl⟩
  have hreading : oddLights.reading (PatternLibrary.found .engine .standard) .node blueLight =
      [⟨3, 7, "light_minor with colour blue"⟩] := by decide +kernel
  refine ⟨_, h, ?_⟩
  rw [result_findings_of_build h, hreading]

end CatalogDefinition

end TagRules
