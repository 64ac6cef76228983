/-
# Lateral buoys and beacons

In the two IALA systems the colour of a lateral mark means a category, and the rule
`seamark-lateral-category-colour` reports marks of another one. Its clauses come in pairs, for
buoys and for beacons. A tag set is mirrored by exchanging buoy and beacon in the type and in
the keys of the mark (`Seamark.mirrored`), and one would have the rule judge both alike.

Three clauses on beacons do not mirror those on buoys: two look for the colour under the key of
buoys, and one has a misspelt category. `Seamark.lateral_marks_judged` says exactly when a buoy
and its mirror image are reported, and that the two agree where the three do not interfere.

Key definitions: `Seamark.mirrored`, `Seamark.ialaMeanings`.
Key theorems: `Seamark.get?_mirrored`, `Seamark.isSome_reading_buoy`,
`Seamark.isSome_reading_mirrored`, `Seamark.lateral_marks_judged`.
-/
import TagRules.Proofs.Correspondence
import TagRules.Proofs.Exclusion

namespace TagRules

/-! ### Exchanging keys -/

/-- A list with one start in place of another. -/
def exchangeStart {α : Type} [DecidableEq α] (a b l : List α) : List α :=
  if a.isPrefixOf l then b ++ l.drop a.length
  else if b.isPrefixOf l then a ++ l.drop b.length
  else l

section

variable {α : Type} [DecidableEq α] {a b : List α}

theorem exchangeStart_append_left (rest : List α) : exchangeStart a b (a ++ rest) = b ++ rest := by
  simp [exchangeStart]

/-- The other start is exchanged too, if neither starts the other. -/
theorem exchangeStart_append_right (hab : ¬ a <+: b) (hba : ¬ b <+: a) (rest : List α) :
    exchangeStart a b (b ++ rest) = a ++ rest := by
  have hnot : ¬ a <+: b ++ rest := fun h =>
    (List.prefix_or_prefix_of_prefix h (List.prefix_append b rest)).elim hab hba
  simp [exchangeStart, hnot]

theorem exchangeStart_exchangeStart (hab : ¬ a <+: b) (hba : ¬ b <+: a) (l : List α) :
    exchangeStart a b (exchangeStart a b l) = l := by
  by_cases ha : a <+: l
  · obtain ⟨rest, rfl⟩ := ha
    rw [exchangeStart_append_left, exchangeStart_append_right hab hba]
  · by_cases hb : b <+: l
    · obtain ⟨rest, rfl⟩ := hb
      rw [exchangeStart_append_right hab hba, exchangeStart_append_left]
    · simp [exchangeStart, ha, hb]

end

/-! ### Clauses that are left -/

namespace RuleDefinition

/-- Whether a clause excludes all clauses of a rule but some, going by their tests. -/
def Leaves (d : RuleDefinition) (c : ClauseDefinition) (left : List ClauseDefinition) : Prop :=
  (∀ c' ∈ d.clauses, c.Excludes c' ∨ ∃ l ∈ left, l.tests = c'.tests) ∧
    ∀ l ∈ left, ∃ c' ∈ d.clauses, c'.tests = l.tests

instance (d : RuleDefinition) (c : ClauseDefinition) (left : List ClauseDefinition) :
    Decidable (d.Leaves c left) := inferInstanceAs (Decidable (_ ∧ _))

/-- Where the clause holds, a rule reports exactly if one of those that are left holds. -/
theorem Leaves.isSome_reading {found : String → String → Bool} {d : RuleDefinition}
    {c : ClauseDefinition} {left : List ClauseDefinition} (h : d.Leaves c left) {tags : TagSet}
    (hc : c.Holds found tags) :
    (d.reading found tags).isSome ↔ ∃ l ∈ left, l.Holds found tags := by
  have hsome : (d.reading found tags).isSome ↔ ∃ c' ∈ d.clauses, c'.Holds found tags := by
    rw [← Option.ne_none_iff_isSome, Ne, reading_eq_none]
    push Not
    rfl
  rw [hsome]
  constructor
  · rintro ⟨c', hc', hholds⟩
    obtain hexcludes | ⟨l, hl, htests⟩ := h.1 c' hc'
    · exact absurd hholds (hexcludes.not_holds hc)
    · exact ⟨l, hl, fun t ht => hholds t (htests ▸ ht)⟩
  · rintro ⟨l, hl, hholds⟩
    obtain ⟨c', hc', htests⟩ := h.2 l hl
    exact ⟨c', hc', fun t ht => hholds t (htests ▸ ht)⟩

end RuleDefinition

namespace Seamark

def buoyStart : String := "seamark:buoy_lateral:"

def beaconStart : String := "seamark:beacon_lateral:"

/-- A key with buoy and beacon exchanged, if it is one of a lateral mark. -/
def mirroredKey (k : String) : String :=
  .ofList (exchangeStart buoyStart.toList beaconStart.toList k.toList)

/-- A value with buoy and beacon exchanged, if it is the type of a lateral mark. -/
def mirroredValue (k v : String) : String :=
  if k = "seamark:type" then
    if v = "buoy_lateral" then "beacon_lateral"
    else if v = "beacon_lateral" then "buoy_lateral"
    else v
  else v

/-- The tags with buoys and beacons exchanged in lateral marks. -/
def mirrored (tags : TagSet) : TagSet :=
  .ofList (tags.entries.map fun e => (mirroredKey e.1, mirroredValue e.1 e.2))

theorem not_buoyStart_isPrefix : ¬ buoyStart.toList <+: beaconStart.toList := by decide

theorem not_beaconStart_isPrefix : ¬ beaconStart.toList <+: buoyStart.toList := by decide

theorem mirroredKey_mirroredKey (k : String) : mirroredKey (mirroredKey k) = k := by
  rw [mirroredKey, mirroredKey, String.toList_ofList,
    exchangeStart_exchangeStart not_buoyStart_isPrefix not_beaconStart_isPrefix,
    String.ofList_toList]

theorem mirroredKey_buoy (name : String) :
    mirroredKey (buoyStart ++ name) = beaconStart ++ name := by
  rw [mirroredKey, String.toList_append, exchangeStart_append_left, ← String.toList_append,
    String.ofList_toList]

theorem mirroredKey_beacon (name : String) :
    mirroredKey (beaconStart ++ name) = buoyStart ++ name := by
  rw [← mirroredKey_buoy, mirroredKey_mirroredKey]

/-- Each tag is read under the exchanged key. -/
theorem get?_mirrored (tags : TagSet) (k : String) :
    (mirrored tags).get? (mirroredKey k) = (tags.get? k).map (mirroredValue k) :=
  SortedMap.get?_ofList_map (fun j k h => by
    rw [← mirroredKey_mirroredKey j, h, mirroredKey_mirroredKey]) mirroredValue tags k

theorem get?_mirrored_of_ne (tags : TagSet) {k : String} (hk : k ≠ "seamark:type") :
    (mirrored tags).get? (mirroredKey k) = tags.get? k := by
  have hsame : mirroredValue k = id := funext fun v => if_neg hk
  rw [get?_mirrored, hsame, Option.map_id, id]

theorem get?_mirrored_beacon (tags : TagSet) (name : String) :
    (mirrored tags).get? (beaconStart ++ name) = tags.get? (buoyStart ++ name) := by
  have hne : buoyStart ++ name ≠ "seamark:type" := fun h => by
    have hchars := congrArg String.toList h
    simp [buoyStart] at hchars
  rw [← mirroredKey_buoy, get?_mirrored_of_ne tags hne]

theorem get?_mirrored_buoy (tags : TagSet) (name : String) :
    (mirrored tags).get? (buoyStart ++ name) = tags.get? (beaconStart ++ name) := by
  have hne : beaconStart ++ name ≠ "seamark:type" := fun h => by
    have hchars := congrArg String.toList h
    simp [beaconStart] at hchars
  rw [← mirroredKey_beacon, get?_mirrored_of_ne tags hne]

/-! ### What colours mean -/

/-- What the clauses on one colour say in one of the IALA systems. -/
structure IalaMeaning where
  system : String
  colour : String
  /-- The category that the colour means. -/
  category : String
deriving DecidableEq, Repr

def ialaMeanings : List IalaMeaning :=
  [⟨"iala-a", "red", "port"⟩,
   ⟨"iala-a", "green", "starboard"⟩,
   ⟨"iala-a", "green;red;green", "preferred_channel_port"⟩,
   ⟨"iala-a", "red;green;red", "preferred_channel_starboard"⟩,
   ⟨"iala-b", "green", "port"⟩,
   ⟨"iala-b", "red", "starboard"⟩,
   ⟨"iala-b", "green;red;green", "preferred_channel_starboard"⟩,
   ⟨"iala-b", "red;green;red", "preferred_channel_port"⟩]

namespace IalaMeaning

/-- Whether the clause on beacons looks for the colour under the key of buoys. -/
def IsMisplaced (m : IalaMeaning) : Prop :=
  m.system = "iala-a" ∧ m.colour = "green" ∨ m.system = "iala-b" ∧ m.colour = "red"

/-- Whether the clause on beacons has a misspelt category. -/
def IsMisspelt (m : IalaMeaning) : Prop := m.system = "iala-b" ∧ m.colour = "green;red;green"

instance : DecidablePred IsMisplaced := fun _ => inferInstanceAs (Decidable (_ ∨ _))

instance : DecidablePred IsMisspelt := fun _ => inferInstanceAs (Decidable (_ ∧ _))

/-- The category that the clause on beacons names. -/
def beaconCategory (m : IalaMeaning) : String :=
  if m.IsMisspelt then "preferred_channel_starbord" else m.category

/-- The clause on buoys. -/
def buoyClause (m : IalaMeaning) : ClauseDefinition := lateralBuoy m.system m.colour m.category

/-- The clause on beacons. -/
def beaconClause (m : IalaMeaning) : ClauseDefinition :=
  lateral "beacon_lateral" m.system
    (if m.IsMisplaced then "buoy_lateral:colour" else "beacon_lateral:colour") m.colour
    m.beaconCategory

/-- Whether a buoy has the colour and another category. -/
def Contradicted (tags : TagSet) (m : IalaMeaning) : Prop :=
  tags.get? "seamark:buoy_lateral:colour" = some m.colour ∧
    tags.get? "seamark:buoy_lateral:category" ≠ some m.category

/-- Whether the mirror image of a buoy has the colour and another category, going by the
clause on beacons. -/
def MirrorContradicted (tags : TagSet) (m : IalaMeaning) : Prop :=
  tags.get? (if m.IsMisplaced then "seamark:beacon_lateral:colour"
      else "seamark:buoy_lateral:colour") = some m.colour ∧
    tags.get? "seamark:buoy_lateral:category" ≠ some m.beaconCategory

/-- Whether a clause on beacons that is no mirror image makes a difference to a buoy. -/
def Interferes (tags : TagSet) (m : IalaMeaning) : Prop :=
  m.IsMisplaced ∧ tags.get? "seamark:buoy_lateral:category" ≠ some m.category ∧
      ¬ (tags.get? "seamark:buoy_lateral:colour" = some m.colour ↔
        tags.get? "seamark:beacon_lateral:colour" = some m.colour) ∨
    m.IsMisspelt ∧ tags.get? "seamark:buoy_lateral:colour" = some m.colour ∧
      (tags.get? "seamark:buoy_lateral:category" = some m.category ∨
        tags.get? "seamark:buoy_lateral:category" = some m.beaconCategory)

instance (tags : TagSet) : DecidablePred (Interferes tags) :=
  fun _ => inferInstanceAs (Decidable (_ ∨ _))

/-- Without interference a buoy and its mirror image are contradicted alike. -/
theorem contradicted_iff {tags : TagSet} {m : IalaMeaning} (h : ¬ m.Interferes tags) :
    m.Contradicted tags ↔ m.MirrorContradicted tags := by
  by_cases hplace : m.IsMisplaced
  · have hspelt : ¬ m.IsMisspelt := by
      rintro ⟨-, hcolour⟩
      rcases hplace with ⟨-, hc⟩ | ⟨-, hc⟩ <;> exact absurd (hc.symm.trans hcolour) (by decide)
    have hsame : tags.get? "seamark:buoy_lateral:category" ≠ some m.category →
        (tags.get? "seamark:buoy_lateral:colour" = some m.colour ↔
          tags.get? "seamark:beacon_lateral:colour" = some m.colour) := fun hcategory =>
      Classical.not_not.mp fun hne => h (.inl ⟨hplace, hcategory, hne⟩)
    rw [Contradicted, MirrorContradicted, beaconCategory, if_pos hplace, if_neg hspelt]
    exact and_congr_left hsame
  · rw [Contradicted, MirrorContradicted, if_neg hplace]
    by_cases hspelt : m.IsMisspelt
    · refine and_congr_right fun hcolour => ?_
      obtain ⟨hne, hne'⟩ := not_or.mp fun heq => h (.inr ⟨hspelt, hcolour, heq⟩)
      exact iff_of_true hne hne'
    · rw [beaconCategory, if_neg hspelt]

end IalaMeaning

/-- The tests that a mark is of a type and a system. -/
def markOf (mark system : String) : ClauseDefinition :=
  clause [is "type" mark, is (mark ++ ":system") system]

/-- On a mark of an IALA system only the clauses on marks of the type and the system can hold. -/
theorem leaves_of_iala : ∀ system ∈ ["iala-a", "iala-b"],
    lateralCategoryColour.Leaves (markOf "buoy_lateral" system)
        ((ialaMeanings.filter (·.system = system)).map (·.buoyClause)) ∧
      lateralCategoryColour.Leaves (markOf "beacon_lateral" system)
        ((ialaMeanings.filter (·.system = system)).map (·.beaconClause)) := by
  decide +kernel

variable {found : String → String → Bool} {tags : TagSet} {system : String}

theorem holds_markOf {mark : String} : (markOf mark system).Holds found tags ↔
    tags.get? (key "type") = some mark ∧ tags.get? (key (mark ++ ":system")) = some system := by
  simp [markOf, clause, numbered, ClauseDefinition.Holds, is, TestDefinition.Holds,
    TestDefinition.operand]

theorem holds_lateral {mark colourKey colour category : String} :
    (lateral mark system colourKey colour category).Holds found tags ↔
      (markOf mark system).Holds found tags ∧ tags.get? (key colourKey) = some colour ∧
        tags.get? (key (mark ++ ":category")) ≠ some category := by
  rw [holds_markOf]
  simp [lateral, clause, numbered, ClauseDefinition.Holds, is, isNot, TestDefinition.Holds,
    TestDefinition.operand, and_assoc]

/-- If each clause on a colour of the system holds for a reason, one of them does exactly if
there is a colour with the reason. -/
theorem exists_clause_iff {f : IalaMeaning → ClauseDefinition} {P : IalaMeaning → Prop}
    (h : ∀ m : IalaMeaning, m.system = system → ((f m).Holds found tags ↔ P m)) :
    (∃ c ∈ (ialaMeanings.filter (·.system = system)).map f, c.Holds found tags) ↔
      ∃ m ∈ ialaMeanings, m.system = system ∧ P m := by
  simp only [List.mem_map, List.mem_filter, decide_eq_true_eq]
  constructor
  · rintro ⟨_, ⟨m, ⟨hm, hs⟩, rfl⟩, hholds⟩
    exact ⟨m, hm, hs, (h m hs).mp hholds⟩
  · rintro ⟨m, hm, hs, hP⟩
    exact ⟨f m, ⟨m, ⟨hm, hs⟩, rfl⟩, (h m hs).mpr hP⟩

variable (found) in
/-- A buoy is reported exactly if its colour means another category. -/
theorem isSome_reading_buoy (hiala : system ∈ ["iala-a", "iala-b"])
    (htype : tags.get? "seamark:type" = some "buoy_lateral")
    (hsystem : tags.get? "seamark:buoy_lateral:system" = some system) :
    (lateralCategoryColour.reading found tags).isSome ↔
      ∃ m ∈ ialaMeanings, m.system = system ∧ m.Contradicted tags := by
  have hmark : (markOf "buoy_lateral" system).Holds found tags := holds_markOf.mpr ⟨htype, hsystem⟩
  have hclause : ∀ m : IalaMeaning, m.system = system →
      (m.buoyClause.Holds found tags ↔ m.Contradicted tags) := by
    rintro m rfl
    rw [IalaMeaning.buoyClause, lateralBuoy, holds_lateral]
    exact and_iff_right hmark
  rw [(leaves_of_iala system hiala).1.isSome_reading hmark]
  exact exists_clause_iff hclause

variable (found) in
/-- The mirror image of a buoy is reported exactly if the colour means another category, going
by the clauses on beacons. -/
theorem isSome_reading_mirrored (hiala : system ∈ ["iala-a", "iala-b"])
    (htype : tags.get? "seamark:type" = some "buoy_lateral")
    (hsystem : tags.get? "seamark:buoy_lateral:system" = some system) :
    (lateralCategoryColour.reading found (mirrored tags)).isSome ↔
      ∃ m ∈ ialaMeanings, m.system = system ∧ m.MirrorContradicted tags := by
  have hmark : (markOf "beacon_lateral" system).Holds found (mirrored tags) := by
    have htype' := get?_mirrored tags "seamark:type"
    rw [htype] at htype'
    exact holds_markOf.mpr ⟨htype', (get?_mirrored_beacon tags "system").trans hsystem⟩
  -- A misplaced clause looks under the key of buoys, where the mirror image has what the buoy
  -- has under the key of beacons.
  have hcolour : ∀ m : IalaMeaning, (mirrored tags).get? (key
        (if m.IsMisplaced then "buoy_lateral:colour" else "beacon_lateral:colour")) =
      tags.get? (if m.IsMisplaced then "seamark:beacon_lateral:colour"
        else "seamark:buoy_lateral:colour") := by
    intro m
    split
    · exact get?_mirrored_buoy tags "colour"
    · exact get?_mirrored_beacon tags "colour"
  have hclause : ∀ m : IalaMeaning, m.system = system →
      (m.beaconClause.Holds found (mirrored tags) ↔ m.MirrorContradicted tags) := by
    rintro m rfl
    have hcategory : (mirrored tags).get? (key ("beacon_lateral" ++ ":category")) =
        tags.get? "seamark:buoy_lateral:category" := get?_mirrored_beacon tags "category"
    rw [IalaMeaning.beaconClause, holds_lateral, hcolour, hcategory]
    exact and_iff_right hmark
  rw [(leaves_of_iala system hiala).2.isSome_reading hmark]
  exact exists_clause_iff hclause

/-- The rule on the colours of lateral marks gives what its definition says. -/
theorem exists_lateral_rule {library : PatternLibrary} {limits : PatternLimits} {c : Catalog}
    (h : catalog library limits = .ok c) :
    ∃ i r, c.rule? "seamark-lateral-category-colour" = some (i, r) ∧
      ∀ (verifyGuards : Bool) (tags : TagSet),
        (r.run verifyGuards tags).result =
          .ok (lateralCategoryColour.reading (library.found limits) tags) := by
  obtain ⟨hd, rfl⟩ := CatalogDefinition.build_eq_ok.mp h
  have hrule : definition.rules[3]? = some lateralCategoryColour := rfl
  have hown := CatalogDefinition.ownDefects_of_mem hd (List.mem_of_getElem? hrule)
  exact ⟨3, _, CatalogDefinition.rule?_compiled _ hd hrule,
    RuleDefinition.result_run_compiled hown⟩

/-- **How lateral buoys and their mirror images are judged.** A buoy of an IALA system is
reported exactly if its colour means another category. Its mirror image is reported exactly if
the same is so by the clauses on beacons, of which two look for the colour under the key of
buoys and one names a misspelt category. Where these three make no difference, the buoy and its
mirror image are judged alike. -/
theorem lateral_marks_judged {library : PatternLibrary} {limits : PatternLimits} {c : Catalog}
    (h : catalog library limits = .ok c) :
    ∃ i r, c.rule? "seamark-lateral-category-colour" = some (i, r) ∧
      ∀ (verifyGuards : Bool) (tags : TagSet) (system : String),
        system ∈ ["iala-a", "iala-b"] → tags.get? "seamark:type" = some "buoy_lateral" →
        tags.get? "seamark:buoy_lateral:system" = some system →
        ∃ found found', (r.run verifyGuards tags).result = .ok found ∧
          (r.run verifyGuards (mirrored tags)).result = .ok found' ∧
          (found.isSome ↔ ∃ m ∈ ialaMeanings, m.system = system ∧ m.Contradicted tags) ∧
          (found'.isSome ↔ ∃ m ∈ ialaMeanings, m.system = system ∧ m.MirrorContradicted tags) ∧
          ((∀ m ∈ ialaMeanings, m.system = system → ¬ m.Interferes tags) →
            (found.isSome ↔ found'.isSome)) := by
  obtain ⟨i, r, hrule, hrun⟩ := exists_lateral_rule h
  refine ⟨i, r, hrule, fun verifyGuards tags system hiala htype hsystem => ?_⟩
  have hbuoy := isSome_reading_buoy (library.found limits) hiala htype hsystem
  have hmirrored := isSome_reading_mirrored (library.found limits) hiala htype hsystem
  refine ⟨_, _, hrun verifyGuards tags, hrun verifyGuards (mirrored tags), hbuoy, hmirrored,
    fun hnone => ?_⟩
  rw [hbuoy, hmirrored]
  exact exists_congr fun m => and_congr_right fun hm => and_congr_right fun hs =>
    IalaMeaning.contradicted_iff (hnone m hm hs)

/-- The tags of a buoy of the system `iala-a`. -/
def ialaABuoy (colour category : String) : TagSet :=
  .ofList [("seamark:type", "buoy_lateral"), ("seamark:buoy_lateral:system", "iala-a"),
    ("seamark:buoy_lateral:colour", colour), ("seamark:buoy_lateral:category", category)]

@[simp]
theorem get?_ialaABuoy (colour category k : String) : (ialaABuoy colour category).get? k =
    if k = "seamark:buoy_lateral:category" then some category
    else if k = "seamark:buoy_lateral:colour" then some colour
    else if k = "seamark:buoy_lateral:system" then some "iala-a"
    else if k = "seamark:type" then some "buoy_lateral"
    else none := by
  simp [ialaABuoy, SortedMap.ofList, SortedMap.get?_insert]

theorem red_starboard_mark_judged :
    ∃ c i r found found', catalog .engine .standard = .ok c ∧
      c.rule? "seamark-lateral-category-colour" = some (i, r) ∧
      (r.run true (ialaABuoy "red" "starboard")).result = .ok found ∧
      (r.run true (mirrored (ialaABuoy "red" "starboard"))).result = .ok found' ∧
      found.isSome ∧ found'.isSome := by
  obtain ⟨c, h⟩ := exists_catalog_engine
  obtain ⟨i, r, hrule, hjudged⟩ := lateral_marks_judged h
  obtain ⟨found, found', hrun, hrun', hbuoy, -, halike⟩ :=
    hjudged true (ialaABuoy "red" "starboard") "iala-a" (by simp) (by simp) (by simp)
  have hfound : found.isSome := hbuoy.mpr
    ⟨⟨"iala-a", "red", "port"⟩, by simp [ialaMeanings], rfl, by simp [IalaMeaning.Contradicted]⟩
  have hnone : ∀ m ∈ ialaMeanings, m.system = "iala-a" →
      ¬ m.Interferes (ialaABuoy "red" "starboard") := by
    simp [ialaMeanings, IalaMeaning.Interferes, IalaMeaning.IsMisplaced, IalaMeaning.IsMisspelt]
  exact ⟨c, i, r, found, found', h, hrule, hrun, hrun', hfound, (halike hnone).mp hfound⟩

/-- A green buoy to port is reported, and its mirror image is not. -/
theorem green_port_marks_differ :
    (ialaABuoy "green" "port").get? "seamark:type" = some "buoy_lateral" ∧
    (ialaABuoy "green" "port").get? "seamark:buoy_lateral:system" = some "iala-a" ∧
    ∃ c i r found, catalog .engine .standard = .ok c ∧
      c.rule? "seamark-lateral-category-colour" = some (i, r) ∧
      (r.run true (ialaABuoy "green" "port")).result = .ok (some found) ∧
      (r.run true (mirrored (ialaABuoy "green" "port"))).result = .ok none := by
  obtain ⟨c, h⟩ := exists_catalog_engine
  obtain ⟨i, r, hrule, hrun⟩ := exists_lateral_rule h
  let searched := PatternLibrary.found .engine .standard
  have htype : (ialaABuoy "green" "port").get? "seamark:type" = some "buoy_lateral" := by simp
  have hsystem : (ialaABuoy "green" "port").get? "seamark:buoy_lateral:system" = some "iala-a" := by
    simp
  have hbuoy : (lateralCategoryColour.reading searched (ialaABuoy "green" "port")).isSome :=
    (isSome_reading_buoy _ (by simp) htype hsystem).mpr ⟨⟨"iala-a", "green", "starboard"⟩,
      by simp [ialaMeanings], rfl, by simp [IalaMeaning.Contradicted]⟩
  have hbeacon : lateralCategoryColour.reading searched
      (mirrored (ialaABuoy "green" "port")) = none := by
    rw [← Option.not_isSome_iff_eq_none, isSome_reading_mirrored _ (by simp) htype hsystem]
    simp [ialaMeanings, IalaMeaning.MirrorContradicted, IalaMeaning.IsMisplaced]
  obtain ⟨found, hfound⟩ := Option.isSome_iff_exists.mp hbuoy
  exact ⟨htype, hsystem, c, i, r, found, h, hrule, by rw [hrun, hfound], by rw [hrun, hbeacon]⟩

end Seamark

end TagRules
