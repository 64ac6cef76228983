/-
# The seamark catalog is accepted

The patterns of the built-in catalog are lists of words. With a library that makes searches of
these, the catalog has no defect within the standard limits, so it can be built
(`Seamark.exists_catalog`). The clauses are accepted form by form: a clause of queries has no
defect if each query asks for what its operator takes, and a query for any of some words does
if they are accepted as a pattern (`Seamark.Query.fits_finds`).

The engine makes searches of all words that are plain and few enough
(`Seamark.Query.Words.takes_engine`). So the long patterns on notices are never compiled here.

Key definitions: `Seamark.Query.Fits`, `Seamark.Query.Words`, `Seamark.Query.Takes`,
`Seamark.Fits`.
Key theorems: `Seamark.fits_clause`, `Seamark.defects_definition`, `Seamark.exists_catalog`,
`Seamark.exists_catalog_engine`.
-/
import TagRules.Proofs.Independence
import TagRules.Proofs.WordPattern
import TagRules.Seamark.Catalog

namespace TagRules.Seamark

variable {library : PatternLibrary}

/-! ### Queries -/

namespace Query

/-- Whether nothing is wrong with what a query asks about its key. -/
def Fits (library : PatternLibrary) (q : Query) : Prop :=
  ∀ rule clause, q.test.valueDefects library .standard rule clause = []

theorem fits_of_searches_eq_false {q : Query} (hsearches : q.test.op.searches = false)
    (hvalue : q.test.value.isSome = q.test.op.takesValue) : q.Fits library := by
  intro rule clause
  have hnone : q.test.value.isNone = !q.test.op.takesValue := by
    rw [← hvalue, Option.not_isSome]
  simp [TestDefinition.valueDefects, TestDefinition.sources, hsearches, hvalue, hnone]

variable (name text : String)

@[simp]
theorem fits_has : (has name).Fits library := fits_of_searches_eq_false rfl rfl

@[simp]
theorem fits_lacks : (lacks name).Fits library := fits_of_searches_eq_false rfl rfl

@[simp]
theorem fits_is : (is name text).Fits library := fits_of_searches_eq_false rfl rfl

@[simp]
theorem fits_isQuoted : (isQuoted name text).Fits library := fits_of_searches_eq_false rfl rfl

@[simp]
theorem fits_isNot : (isNot name text).Fits library := fits_of_searches_eq_false rfl rfl

@[simp]
theorem fits_includes : (includes name text).Fits library := fits_of_searches_eq_false rfl rfl

/-- Words of which some may be looked for. -/
structure Words (words : List String) : Prop where
  ne_nil : words ≠ []
  plain : ∀ w ∈ words, ∀ b ∈ w.toByteArray.data.toList,
    b ∉ Pattern.metacharacters.map (·.val.toUInt8)
  few : (words.map (·.utf8ByteSize + 1)).sum ≤ 4096

-- With `all`, only the bytes of a word are looked at, not all bytes that there are.
instance (words : List String) : Decidable (Words words) :=
  decidable_of_iff (words ≠ [] ∧
      (∀ w ∈ words, w.toByteArray.data.toList.all
        (· ∉ Pattern.metacharacters.map (·.val.toUInt8)) = true) ∧
      (words.map (·.utf8ByteSize + 1)).sum ≤ 4096)
    (by
      simp only [List.all_eq_true, decide_eq_true_eq]
      exact ⟨fun ⟨hne, hplain, hfew⟩ => ⟨hne, hplain, hfew⟩,
        fun h => ⟨h.ne_nil, h.plain, h.few⟩⟩)

/-- Whether a library takes some words as a pattern. -/
def Takes (library : PatternLibrary) (words : List String) : Prop :=
  (library.compile? PatternLimits.standard.programSize (anyOf words)).isSome = true

/-- Whether nothing is wrong with some words as a pattern. -/
def Accepted (library : PatternLibrary) (words : List String) : Prop :=
  ∀ rule, patternDefects library .standard rule (anyOf words) = []

/-- Few words are no longer than a pattern may be. -/
theorem Words.accepted {words : List String} (h : Words words) (htakes : Takes library words) :
    Accepted library words := by
  intro rule
  have hlength : ¬ PatternLimits.standard.sourceLength < (anyOf words).utf8ByteSize := by
    have hbytes : (anyOf words).utf8ByteSize + 1 = _ := utf8ByteSize_words h.ne_nil
    have hfew := h.few
    rw [← hbytes] at hfew
    exact Nat.not_lt.mpr (Nat.le_of_succ_le hfew)
  have hnone : ¬ (library.compile? PatternLimits.standard.programSize (anyOf words)).isNone := by
    rw [← Option.not_isSome, htakes]
    decide
  rw [patternDefects, defectIf_neg hlength, defectIf_neg hnone]
  rfl

/-- The engine takes all words that are plain and few. -/
theorem Words.takes_engine {words : List String} (h : Words words) : Takes .engine words :=
  PatternLibrary.isSome_compile?_words h.ne_nil
    (fun w hw => Pattern.isPlain_of_bytes (h.plain w hw))
    (Nat.le_trans (Nat.mul_le_mul_left 128 h.few) (by decide))

theorem fits_finds {words : List String} (h : Accepted library words) :
    (finds name (anyOf words)).Fits library := by
  intro rule clause
  rw [TestDefinition.valueDefects_of_searches rfl rfl]
  exact h rule

theorem fits_avoids {words : List String} (h : Accepted library words) :
    (avoids name (anyOf words)).Fits library := by
  intro rule clause
  rw [TestDefinition.valueDefects_of_searches rfl rfl]
  exact h rule

end Query

/-! ### Clauses -/

/-- Whether a clause has tests without defects that bind one slot after the other. -/
structure Fits (library : PatternLibrary) (c : ClauseDefinition) : Prop where
  ne_nil : c.tests ≠ []
  tests : ∀ (rule : String) (position : Nat), ∀ t ∈ c.tests,
    t.defects library .standard rule position = []
  slots : c.slots = List.range c.tests.length

theorem Fits.defects_eq_nil {c : ClauseDefinition} (h : Fits library c) {slots : List Nat}
    (hslots : ∀ slot ∈ slots, slot < c.tests.length) (rule : String) (position : Nat) :
    c.defects library .standard rule slots position = [] := by
  have hbinds : ∀ slot ∈ slots, ¬ slot ∉ c.slots := by
    intro slot hslot
    rw [h.slots, Classical.not_not, List.mem_range]
    exact hslots slot hslot
  rw [ClauseDefinition.defects, defectIf_neg h.ne_nil,
    List.flatMap_eq_nil_iff.mpr (h.tests rule position), flatMap_defectIf_eq_nil.mpr hbinds]
  rfl

theorem length_numbered (qs : List Query) (first : Nat) :
    (numbered first qs).length = qs.length := by
  induction qs generalizing first with
  | nil => rfl
  | cons q qs ih => exact congrArg (· + 1) (ih (first + 1))

theorem slots_numbered (qs : List Query) {first : Nat} (h : first + qs.length ≤ maxSlot + 1) :
    (numbered first qs).filterMap (·.slotNumber) = List.range' first qs.length := by
  induction qs generalizing first with
  | nil => rfl
  | cons q qs ih =>
    rw [List.length_cons] at h
    have hlt : first < maxSlot + 1 := by omega
    have hfirst : first.toUInt64.toNat = first :=
      UInt64.toNat_ofNat_of_lt' (Nat.lt_trans hlt (by decide))
    have hslot : TestDefinition.slotNumber { q.test with slot := some first.toUInt64 } =
        some first := congrArg some hfirst
    rw [numbered, List.filterMap_cons_some hslot, List.length_cons, List.range'_succ,
      ih (by omega)]

theorem exists_query_of_mem_numbered {qs : List Query} {first : Nat} {t : TestDefinition}
    (h : t ∈ numbered first qs) : ∃ q ∈ qs, ∃ slot, t = { q.test with slot } := by
  induction qs generalizing first with
  | nil => cases h
  | cons q qs ih =>
    cases h with
    | head => exact ⟨q, List.mem_cons_self, _, rfl⟩
    | tail _ h =>
      obtain ⟨q', hq', hslot⟩ := ih h
      exact ⟨q', List.mem_cons_of_mem q hq', hslot⟩

/-- A clause of queries fits if there is a slot for each query. -/
theorem fits_clause {qs : List Query} (hne : qs ≠ []) (hle : qs.length ≤ 64)
    (h : ∀ q ∈ qs, q.Fits library) : Fits library (clause qs) := by
  have hmax : maxSlot + 1 = 64 := rfl
  have hlength : (clause qs).tests.length = qs.length := length_numbered qs 0
  have hslots : (clause qs).slots = List.range (clause qs).tests.length := by
    rw [hlength, List.range_eq_range']
    exact slots_numbered qs (by omega)
  refine ⟨?_, fun rule position t ht => ?_, hslots⟩
  · rw [← List.length_pos_iff, hlength]
    exact List.length_pos_iff.mpr hne
  · have hbound : ∀ slot ∈ t.slotNumber.toList, ¬ maxSlot < slot := by
      intro slot hslot
      have hmem : slot ∈ (clause qs).slots :=
        List.mem_filterMap.mpr ⟨t, ht, Option.mem_toList.mp hslot⟩
      rw [hslots, hlength, List.mem_range] at hmem
      omega
    obtain ⟨q, hq, _, rfl⟩ := exists_query_of_mem_numbered ht
    rw [TestDefinition.defects, flatMap_defectIf_eq_nil.mpr hbound]
    exact h q hq rule position

/-- The words that the patterns of the catalog look for. -/
def wordLists : List (List String) :=
  [colourPatterns, ["starboard", "waterway_left", "channel_left"],
   ["port", "waterway_right", "channel_right"],
   ["preferred_channel_starboard", "preferred_channel_port", "waterway_separation",
    "channel_separation"],
   ["preferred_channel_starboard", "turnoff_right"], ["preferred_channel_port", "turnoff_left"],
   cevniProhibitions, cevniRegulations, cevniRestrictions, cevniRecommendations,
   cevniInformations, ["no_anchoring"], bniwrRegulations, ["limited_headroom"],
   bniwrRecommendations, bniwrInformations, ppwbcRegulations, ppwbcInformations,
   ["bniwr2", "ppwbc"], ["right", "left"]]

/-- Whether a rule has no defect, if its clauses fit. -/
def Frames (d : RuleDefinition) : Prop :=
  d.clauses ≠ [] ∧ d.messageDefects = [] ∧
    (∀ slot ∈ d.messageSlots, ∀ c ∈ d.clauses, slot < c.tests.length) ∧ d.guardDefects = []

instance : DecidablePred Frames := fun _ => inferInstanceAs (Decidable (_ ∧ _ ∧ _ ∧ _))

/-- What is found of the catalog by computing: its words can be looked for, no two classes and no
two rules share an id, and each rule is of a known class, with no defect but perhaps in clauses. -/
theorem words_and_frames : (∀ words ∈ wordLists, Query.Words words) ∧ definition.classDefects = [] ∧
    definition.rules.Pairwise (·.id ≠ ·.id) ∧
    ∀ r ∈ definition.rules, (∃ c ∈ definition.classes, c.id = r.classId) ∧ Frames r := by
  decide +kernel

theorem fits_multicolour (mark : String) : Fits library (multicolour mark) :=
  fits_clause (by simp) (by simp) (by simp)

theorem fits_unrecognizedPattern (mark : String) (h : Query.Accepted library colourPatterns) :
    Fits library (unrecognizedPattern mark) :=
  fits_clause (by simp) (by simp) (by simp [Query.fits_avoids _ h])

theorem fits_lateral (mark system colourKey colour category : String) :
    Fits library (lateral mark system colourKey colour category) :=
  fits_clause (by simp) (by simp) (by simp)

theorem fits_cevniWithout (mark colour : String) {categories : List String}
    (h : Query.Accepted library categories) :
    Fits library (cevniWithout mark colour categories) :=
  fits_clause (by simp) (by simp [cevniColour]) (by simp [cevniColour, Query.fits_avoids _ h])

theorem fits_cevni (mark colour category : String) : Fits library (cevni mark colour category) :=
  fits_clause (by simp) (by simp [cevniColour]) (by simp [cevniColour])

theorem fits_cevniYellow (mark category : String) {topmark : Query} (h : topmark.Fits library) :
    Fits library (cevniYellow mark category topmark) :=
  fits_clause (by simp) (by simp [cevniColour]) (by simp [cevniColour, h])

theorem fits_cevniNotices (function : String) {categories : List String}
    (h : Query.Accepted library categories) :
    ∀ c ∈ cevniNotices function categories, Fits library c :=
  List.forall_mem_map.mpr fun _ _ => fits_clause (by simp) (by simp)
    (by simp [Query.fits_finds _ h])

theorem fits_systemNotice (system function : String) {categories : List String}
    (h : Query.Accepted library categories) (notice : String) :
    Fits library (systemNotice system function categories notice) :=
  fits_clause (by simp) (by simp) (by simp [Query.fits_finds _ h])

theorem fits_bniwrNotices (function : String) {categories : List String}
    (h : Query.Accepted library categories) :
    ∀ c ∈ bniwrNotices function categories, Fits library c := by
  intro c hc
  obtain ⟨notice, -, hc⟩ := List.mem_flatMap.mp hc
  obtain ⟨system, -, rfl⟩ := List.mem_map.mp hc
  exact fits_systemNotice system function h notice

theorem fits_ppwbcNotices (function : String) {categories : List String}
    (h : Query.Accepted library categories) :
    ∀ c ∈ ppwbcNotices function categories, Fits library c :=
  List.forall_mem_map.mpr fun notice _ => fits_systemNotice "ppwbc" function h notice

/-! ### The rules of the catalog -/

section

variable (haccepted : ∀ words ∈ wordLists, Query.Accepted library words)

include haccepted

theorem fits_cevniClauses (mark : String) : ∀ c ∈ cevniClauses mark, Fits library c := by
  have hwithout : ∀ (colour : String) {categories : List String}, categories ∈ wordLists →
      Fits library (cevniWithout mark colour categories) := fun colour categories h =>
    fits_cevniWithout mark colour (haccepted categories h)
  have hpatterns :
      Fits library
        (cevniWithout mark "green" ["starboard", "waterway_left", "channel_left"]) ∧
      Fits library (cevniWithout mark "red" ["port", "waterway_right", "channel_right"]) ∧
      Fits library (cevniWithout mark "red;green;red;green" ["preferred_channel_starboard",
        "preferred_channel_port", "waterway_separation", "channel_separation"]) ∧
      Fits library
        (cevniWithout mark "red;green;red" ["preferred_channel_starboard", "turnoff_right"]) ∧
      Fits library
        (cevniWithout mark "green;red;green" ["preferred_channel_port", "turnoff_left"]) := by
    refine ⟨hwithout _ ?_, hwithout _ ?_, hwithout _ ?_, hwithout _ ?_, hwithout _ ?_⟩ <;>
    simp [wordLists]
  simp [cevniClauses, fits_cevni, fits_cevniYellow, hpatterns]

theorem fits_lateralCategoryColour : ∀ c ∈ lateralCategoryColour.clauses, Fits library c := by
  have hiala : ∀ c ∈ ialaClauses, Fits library c := by
    simp [ialaClauses, lateralBuoy, lateralBeacon, fits_lateral]
  rw [lateralCategoryColour, List.forall_mem_append, List.forall_mem_append]
  exact ⟨⟨hiala, fits_cevniClauses haccepted _⟩, fits_cevniClauses haccepted _⟩

omit haccepted in
theorem fits_cardinalCategoryColour : ∀ c ∈ cardinalCategoryColour.clauses, Fits library c := by
  have hcardinal : ∀ colour category, ∀ c ∈ cardinal colour category, Fits library c := by
    intro colour category c hc
    simp only [cardinal, List.mem_cons, List.not_mem_nil, or_false] at hc
    obtain rfl | rfl := hc
    · exact fits_clause (by simp) (by simp) (by simp)
    · exact fits_clause (by simp) (by simp) (by simp)
  simp only [cardinalCategoryColour, List.forall_mem_append]
  exact ⟨⟨⟨hcardinal _ _, hcardinal _ _⟩, hcardinal _ _⟩, hcardinal _ _⟩

theorem fits_noticeFunctionCategory : ∀ c ∈ noticeFunctionCategory.clauses, Fits library c := by
  have hberths : ∀ c ∈ numberedNotices.map fun notice =>
      clause [is (notice ++ ":system") "cevni", isNot (notice ++ ":function") "information",
        isQuoted (notice ++ ":category") "berthing_lateral_limit"], Fits library c :=
    List.forall_mem_map.mpr fun notice _ => fits_clause (by simp) (by simp) (by simp)
  simp only [noticeFunctionCategory, List.forall_mem_append, and_assoc]
  refine ⟨fits_cevniNotices _ (haccepted _ ?_), fits_cevniNotices _ (haccepted _ ?_),
    fits_cevniNotices _ (haccepted _ ?_), fits_cevniNotices _ (haccepted _ ?_),
    fits_cevniNotices _ (haccepted _ ?_), hberths, fits_bniwrNotices _ (haccepted _ ?_),
    fits_bniwrNotices _ (haccepted _ ?_), fits_bniwrNotices _ (haccepted _ ?_),
    fits_bniwrNotices _ (haccepted _ ?_), fits_bniwrNotices _ (haccepted _ ?_),
    fits_ppwbcNotices _ (haccepted _ ?_), fits_ppwbcNotices _ (haccepted _ ?_)⟩ <;>
  simp [wordLists]

theorem fits_noticeBank : ∀ c ∈ noticeBank.clauses, Fits library c := by
  have hsystems : Query.Accepted library ["bniwr2", "ppwbc"] := haccepted _ (by simp [wordLists])
  have hbanks : Query.Accepted library ["right", "left"] := haccepted _ (by simp [wordLists])
  exact List.forall_mem_map.mpr fun notice _ => fits_clause (by simp) (by simp)
    (by simp [Query.fits_finds _ hsystems, Query.fits_avoids _ hbanks])

/-- All clauses of the catalog fit. -/
theorem fits_of_mem : ∀ r ∈ definition.rules, ∀ c ∈ r.clauses, Fits library c := by
  have hsystem : ∀ c ∈ lateralWithoutSystem.clauses, Fits library c :=
    List.forall_mem_map.mpr fun mark _ => fits_clause (by simp) (by simp) (by simp)
  have hwreck : ∀ c ∈ wreckWithoutCategory.clauses, Fits library c :=
    List.forall_mem_singleton.mpr (fits_clause (by simp) (by simp) (by simp))
  have hnoWreck : ∀ c ∈ wreckCategoryWithoutType.clauses, Fits library c :=
    List.forall_mem_singleton.mpr (fits_clause (by simp) (by simp) (by simp))
  have hrock : ∀ c ∈ rockWithoutWaterLevel.clauses, Fits library c :=
    List.forall_mem_singleton.mpr (fits_clause (by simp) (by simp) (by simp))
  have hnotice : ∀ c ∈ noticeCategoryWithoutSystem.clauses, Fits library c :=
    List.forall_mem_map.mpr fun notice _ => fits_clause (by simp) (by simp) (by simp)
  have hcolours : Query.Accepted library colourPatterns := haccepted _ (by simp [wordLists])
  simp only [definition, markRules, noticeRules, List.forall_mem_append, List.forall_mem_cons]
  exact ⟨⟨List.forall_mem_map.mpr fun mark _ => fits_multicolour mark,
      List.forall_mem_map.mpr fun mark _ => fits_unrecognizedPattern mark hcolours, hsystem,
      fits_lateralCategoryColour haccepted, fits_cardinalCategoryColour, hwreck, hnoWreck, hrock,
      by simp⟩,
    hnotice, fits_noticeFunctionCategory haccepted, fits_noticeBank haccepted, by simp⟩

end

theorem ownDefects_eq_nil {d : RuleDefinition} (h : Frames d)
    (hclauses : ∀ c ∈ d.clauses, Fits library c) : d.ownDefects library .standard = [] := by
  obtain ⟨hempty, hmessage, hslots, hguard⟩ := h
  have hnil : d.clauseDefects library .standard = [] := by
    rw [RuleDefinition.clauseDefects, flatMap_zipIdx_eq_nil_iff]
    intro i c hc
    have hmem := List.mem_of_getElem? hc
    exact (hclauses c hmem).defects_eq_nil (fun slot hslot => hslots slot hslot c hmem) d.id i
  exact RuleDefinition.ownDefects_eq_nil.mpr ⟨hempty, hmessage, hnil, hguard⟩

/-- If the words are taken, the definition of the catalog has no defect. -/
theorem defects_definition (h : ∀ words ∈ wordLists, Query.Takes library words) :
    definition.defects library .standard = [] := by
  obtain ⟨hwords, hclasses, hids, hrules⟩ := words_and_frames
  have haccepted : ∀ words ∈ wordLists, Query.Accepted library words := fun words hmem =>
    (hwords words hmem).accepted (h words hmem)
  refine CatalogDefinition.defects_eq_nil.mpr ⟨hclasses, hids, fun r hr => ?_⟩
  obtain ⟨hknown, hframes⟩ := hrules r hr
  exact ⟨hknown, ownDefects_eq_nil hframes (fits_of_mem haccepted r hr)⟩

/-- **The seamark catalog can be built** with each library that takes its words. -/
theorem exists_catalog (h : ∀ words ∈ wordLists, Query.Takes library words) :
    ∃ c, catalog library .standard = .ok c :=
  CatalogDefinition.exists_build_iff.mpr (defects_definition h)

theorem exists_catalog_engine : ∃ c, catalog .engine .standard = .ok c :=
  exists_catalog fun words hmem => (words_and_frames.1 words hmem).takes_engine

end TagRules.Seamark
