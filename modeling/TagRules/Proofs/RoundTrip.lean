/-
# Definitions are read as they were written

What a writer leaves out, the reader has to fill in: an option that is none is not written, and a
missing field takes its standard value. Both sides name each field by itself, so nothing but the
names ties them together. A written record can be opened, and under each name is what was written
there (`Data.Fields.open?_record`); from there each kind of field is read back
(`Data.Fields.required?_eq`, `Data.Fields.orElse?_eq`, `Data.Fields.optional?_eq`), and so are, from
the tests up, the five kinds of records (`CatalogDefinition.ofValue?_toValue`).

The standard kinds of a rule are not none at all, so a rule for no kind has to be written as such.

Key definition: `Data.ReadsBack`.
Key theorems: `Data.Fields.open?_record`, `CatalogDefinition.ofValue?_toValue`,
`CatalogDefinition.survives_writing`.
-/
import Mathlib.Data.List.Nodup
import TagRules.Codec.Definition

namespace TagRules

open Data (Value Format Fields)

namespace Data

variable {α : Type} {read : Value → Option α} {write : α → Value}

/-- What is written of any item is read as this item. -/
def ReadsBack (read : Value → Option α) (write : α → Value) : Prop :=
  ∀ a, read (write a) = some a

/-! ### Values -/

theorem Value.readsBack_text : ReadsBack text? .text := fun _ => rfl

/-- A list is read back if its items are. -/
theorem ReadsBack.list (h : ReadsBack read write) :
    ReadsBack (Value.list? read) fun l => .list (l.map write)
  | [] => rfl
  | a :: l => by
    have ih : (l.map write).mapM read = some l := h.list l
    rw [Value.list?, List.map_cons, List.mapM_cons, h a, ih]
    rfl

theorem Value.below?_nat {bound n : Nat} (h : n < bound) : below? bound (.nat n) = some n :=
  if_pos h

/-! ### Records -/

namespace Fields

variable {fs : Fields} {name : String}

/-- A field that has no value is not written, so nothing is found under its name. -/
theorem lookup_written (name : String) : ∀ {fields : List (String × Option Value)},
    (fields.map (·.1)).Nodup →
    (fields.filterMap fun e => e.2.map fun v => (e.1, v)).lookup name = (fields.lookup name).join
  | [], _ => rfl
  | (key, value) :: fields, h => by
    obtain ⟨hnot, hrest⟩ := List.nodup_cons.mp h
    have ih := lookup_written name hrest
    rw [List.filterMap_cons, List.lookup_cons]
    by_cases hk : name = key
    · subst hk
      cases value with
      | some v => simp
      | none =>
        -- Nothing is written here, and no later field has the name.
        have hnone : fields.lookup name = none := by
          refine List.lookup_eq_none_iff.mpr fun e he => ?_
          have hmem : e.1 ∈ fields.map (·.1) := List.mem_map_of_mem he
          have hne : name ≠ e.1 := fun hname => hnot (hname ▸ hmem)
          simpa using hne
        simp [ih, hnone]
    · have hb : (name == key) = false := beq_false_of_ne hk
      cases value <;> simp [List.lookup_cons, hb, ih]

/-- A written record can be opened, and each field is found under its name. -/
theorem open?_record (format : Format) (names : List String) (v : Value)
    {fields : List (String × Option Value)} (hv : v = .record fields)
    (hfields : fields.map (·.1) = names) (hnames : names.Nodup) :
    ∃ fs, open? format names v = some fs ∧ ∀ name, fs.get? name = (fields.lookup name).join := by
  subst hv hfields
  have honce : ∀ name, (fields.filterMap fun e => e.2.map fun v => (e.1, v)).countP
      (·.1 = name) ≤ 1 := by
    intro name
    calc
      _ ≤ fields.countP (·.1 = name) := by
        rw [List.countP_filterMap]
        refine List.countP_mono_left fun e _ hcounts => ?_
        cases hv : e.2 <;> simp_all
      _ = (fields.map (·.1)).count name := by
        rw [List.count_eq_countP, List.countP_map]
        rfl
      _ ≤ 1 := List.nodup_iff_count_le_one.mp hnames name
  refine ⟨_, if_neg ?_, fun name => lookup_written name hnames⟩
  simpa using fun name _ _ => honce name

theorem required?_eq (h : ReadsBack read write) {a : α} (hget : fs.get? name = some (write a)) :
    fs.required? name read = some a := by
  rw [required?, hget, Option.bind_some, h a]

theorem orElse?_eq (h : ReadsBack read write) {standard a : α}
    (hget : fs.get? name = some (write a)) : fs.orElse? name standard read = some a := by
  rw [orElse?, hget]
  exact h a

/-- An option is read back if it is never there and written as having no value. -/
theorem optional?_eq (h : ReadsBack read write) (hnull : ∀ a, write a ≠ .null) {o : Option α}
    (hget : fs.get? name = o.map write) : fs.optional? name read = some o := by
  cases o with
  | none =>
    rw [optional?, hget]
    rfl
  | some a =>
    rw [optional?, hget, Option.map_some]
    split
    · contradiction
    · rename_i hv
      exact absurd (Option.some.inj hv) (hnull a)
    · rename_i v _ hv
      rw [← Option.some.inj hv, h a, Option.map_some]

end Fields

end Data

open Data (ReadsBack)

/-! ### Numbers and names -/

theorem readsBack_word : ReadsBack readWord? wordValue := by
  intro n
  rw [readWord?, wordValue, Value.below?_nat n.toNat_lt]
  simp

theorem readsBack_texts : ReadsBack (Value.list? Value.text?) textsValue :=
  Value.readsBack_text.list

theorem Classification.readsBack_level :
    ReadsBack (fun v => (v.below? UInt8.size).map (·.toUInt8)) fun n => .nat n.toNat := by
  intro n
  simp only [Value.below?_nat n.toNat_lt]
  simp

theorem TestDefinition.readsBack_slot :
    ReadsBack (fun v => (v.below? UInt64.size).map (·.toUInt64)) fun n => .nat n.toNat := by
  intro n
  simp only [Value.below?_nat n.toNat_lt]
  simp

theorem Operator.readsBack_name (format : Format) :
    ReadsBack (Value.name? format ofName?) fun op => .text op.name := by
  intro op
  show ofName? op.name = some op
  cases op <;> simp [Operator.ofName?, Operator.all, Operator.name]

theorem FeatureKind.readsBack_name (format : Format) :
    ReadsBack (Value.name? format ofName?) fun kind => .text kind.name := by
  intro kind
  show ofName? kind.name = some kind
  cases kind <;> simp [FeatureKind.ofName?, FeatureKind.all, FeatureKind.name]

/-! ### Definitions -/

variable (format : Format)

theorem Classification.ofValue?_toValue : ReadsBack (ofValue? format) toValue := by
  intro c
  obtain ⟨fs, hopen, hget⟩ := Fields.open?_record format fieldNames c.toValue rfl rfl (by decide)
  simp only [ofValue?, hopen, Option.bind_eq_bind, Option.bind_some,
    Fields.required?_eq readsBack_word (hget "id"),
    Fields.required?_eq readsBack_word (hget "item"),
    Fields.required?_eq readsBack_level (hget "level"),
    Fields.orElse?_eq readsBack_texts (hget "tags"),
    Fields.optional?_eq Value.readsBack_text (fun _ => nofun) (hget "title"),
    SortedSet.ofList_toList]
  rfl

theorem TestDefinition.ofValue?_toValue : ReadsBack (ofValue? format) toValue := by
  intro t
  obtain ⟨fs, hopen, hget⟩ := Fields.open?_record format fieldNames t.toValue rfl rfl (by decide)
  simp only [ofValue?, hopen, Option.bind_eq_bind, Option.bind_some,
    Fields.required?_eq Value.readsBack_text (hget "key"),
    Fields.required?_eq (Operator.readsBack_name format) (hget "op"),
    Fields.optional?_eq Value.readsBack_text (fun _ => nofun) (hget "value"),
    Fields.optional?_eq readsBack_slot (fun _ => nofun) (hget "slot")]
  rfl

theorem ClauseDefinition.ofValue?_toValue : ReadsBack (ofValue? format) toValue := by
  intro c
  obtain ⟨fs, hopen, hget⟩ := Fields.open?_record format fieldNames c.toValue rfl rfl (by decide)
  simp only [ofValue?, hopen, Option.bind_eq_bind, Option.bind_some,
    Fields.optional?_eq Value.readsBack_text (fun _ => nofun) (hget "selector"),
    Fields.optional?_eq readsBack_word (fun _ => nofun) (hget "subclass"),
    Fields.orElse?_eq (TestDefinition.ofValue?_toValue format).list (hget "tests")]
  rfl

theorem RuleDefinition.ofValue?_toValue : ReadsBack (ofValue? format) toValue := by
  intro r
  obtain ⟨fs, hopen, hget⟩ := Fields.open?_record format fieldNames r.toValue rfl rfl (by decide)
  have hkinds : fs.get? "kinds" = some (.list (r.kinds.map fun kind => .text kind.name)) := by
    have hnames : textsValue (r.kinds.map (·.name)) =
        .list (r.kinds.map fun kind => .text kind.name) := by
      rw [textsValue, List.map_map]
      rfl
    exact (hget "kinds").trans (congrArg some hnames)
  simp only [ofValue?, hopen, Option.bind_eq_bind, Option.bind_some,
    Fields.required?_eq Value.readsBack_text (hget "id"),
    Fields.required?_eq readsBack_word (hget "class"),
    Fields.optional?_eq readsBack_word (fun _ => nofun) (hget "subclass"),
    Fields.orElse?_eq (FeatureKind.readsBack_name format).list hkinds,
    Fields.required?_eq Value.readsBack_text (hget "message"),
    Fields.optional?_eq readsBack_texts.list (fun _ => nofun) (hget "guard"),
    Fields.orElse?_eq (ClauseDefinition.ofValue?_toValue format).list (hget "clause")]
  rfl

namespace CatalogDefinition

theorem ofValue?_toValue : ReadsBack (ofValue? format) toValue := by
  intro d
  obtain ⟨fs, hopen, hget⟩ := Fields.open?_record format fieldNames d.toValue rfl rfl (by decide)
  simp only [ofValue?, hopen, Option.bind_eq_bind, Option.bind_some,
    Fields.orElse?_eq (Classification.ofValue?_toValue format).list (hget "class"),
    Fields.orElse?_eq (RuleDefinition.ofValue?_toValue format).list (hget "rule")]
  rfl

/-- **Definitions survive writing and reading.** Whatever is in a definition, what is written of it
is read as the same definition. So a value that is read as a definition may leave out what has a
standard value and be written again in full: that is read the same, and writing once more changes
nothing. -/
theorem survives_writing :
    (∀ d : CatalogDefinition, ofValue? .json d.toValue = some d) ∧
    ∀ format v d, ofValue? format v = some d →
      ofValue? .json d.toValue = some d ∧
      ∀ d', ofValue? .json d.toValue = some d' → d'.toValue = d.toValue := by
  have hread : ∀ d : CatalogDefinition, ofValue? .json d.toValue = some d := ofValue?_toValue .json
  refine ⟨hread, fun format v d _ => ⟨hread d, fun d' hd' => ?_⟩⟩
  obtain rfl := Option.some.inj ((hread d).symm.trans hd')
  rfl

/-- A definition as a person may write it. A class has a tag twice. Of two rules on marks the first
says neither its kinds nor a guard, and its test is a list with the greatest of all slots; the
second is for no kind at all, with a guard that nothing passes. -/
def sparseMarks : Value :=
  .table [
    ("rule", .list [
      .table [("message", .text "a mark"), ("id", .text "marks"), ("note", .real "1.5"),
        ("class", .nat 3),
        ("clause", .list [.table [("tests", .list
          [.list [.text "mark", .text "present", .null, .nat 18446744073709551615]])]])],
      .table [("id", .text "none"), ("class", .nat 3), ("message", .text ""), ("kinds", .list []),
        ("guard", .list [])]]),
    ("class", .list [.table [("id", .nat 3), ("item", .nat 7), ("level", .nat 255),
      ("tags", .list [.text "sea", .text "mark", .text "sea"]), ("title", .null)]])]

/-- What it says. -/
def marksDefinition : CatalogDefinition where
  classes := [⟨3, 7, 255, .ofList ["mark", "sea"], none⟩]
  rules := [
    ⟨"marks", 3, none, [.node], "a mark", none,
      [⟨none, none, [⟨"mark", .present, none, some 18446744073709551615⟩]⟩]⟩,
    ⟨"none", 3, none, [], "", some [], []⟩]

theorem sparseMarks_survive_writing :
    ofValue? .json sparseMarks = some marksDefinition ∧
      ofValue? .json marksDefinition.toValue = some marksDefinition ∧
      ∀ d', ofValue? .json marksDefinition.toValue = some d' →
        d'.toValue = marksDefinition.toValue := by
  have h : ofValue? .json sparseMarks = some marksDefinition := by decide +kernel
  exact ⟨h, survives_writing.2 .json sparseMarks marksDefinition h⟩

end CatalogDefinition

end TagRules
