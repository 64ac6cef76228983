/-
# Building reports the first defect

A definition is built exactly if its list of defects is empty, and what is built is then
its compiled form; otherwise the first defect of the list is the error
(`CatalogDefinition.build_eq`, `CatalogDefinition.build_finds_first_defect`).

A step of building is compared with a list of defects and a result (`Build.Finds`): it
stops at the first defect of the list, and without any it gives the result. Steps that
follow each other find the defects of both, in order (`Build.Finds.bind`), so each
function of the build pass has one lemma that says what it finds. The searches that are
kept change nothing, because a search is kept only for a text that the library compiled to
it within the limits (`Build.Sound`), and the length of a text is looked at before that.

Key definitions: `Build.Sound`, `Build.Finds`.
Key theorems: `Build.finds_pattern`, `Build.finds_rule`, `CatalogDefinition.build_eq`.
-/
import TagRules.Proofs.Compiled
import TagRules.Proofs.Defects
import TagRules.Proofs.Guard

namespace TagRules

namespace Build

variable (library : PatternLibrary) (limits : PatternLimits)

/-- Each search that is kept is what its text compiles to within the limits. -/
def Sound (cache : PatternCache) : Prop :=
  ∀ source search, cache.get? source = some search →
    library.compile? limits.programSize source = some search

theorem sound_empty : Sound library limits .empty := by
  intro source search h
  cases h

variable {library limits} in
theorem sound_insert {cache : PatternCache} (hs : Sound library limits cache) {source : String}
    {search : String → Bool} (hp : library.compile? limits.programSize source = some search) :
    Sound library limits (cache.insert source search) := by
  intro source' search' h
  rw [SortedMap.get?_insert] at h
  by_cases he : source' = source
  · subst he
    rw [if_pos rfl] at h
    rw [hp, h]
  · rw [if_neg he] at h
    exact hs source' search' h

/-- The step finds the defects of a list: it stops at the first one, and if there is none
it gives `a`. Whatever searches are kept before are sound, and so are those after it. -/
def Finds {α : Type} (x : Build α) (defects : List CatalogError) (a : α) : Prop :=
  ∀ cache, Sound library limits cache →
    match defects with
    | [] => ∃ cache', x.run cache = .ok (a, cache') ∧ Sound library limits cache'
    | e :: _ => x.run cache = .error e

section

variable {library limits} {α β : Type} {x : Build α} {ds es : List CatalogError} {a : α}

theorem finds_pure (a : α) : Finds library limits (pure a) [] a :=
  fun cache hs => ⟨cache, rfl, hs⟩

theorem finds_throw (e : CatalogError) (ds : List CatalogError) (a : α) :
    Finds library limits (throw e) (e :: ds) a :=
  fun _ _ => rfl

/-- A step finds what it finds before the steps that go on from its result do. -/
theorem Finds.bind {f : α → Build β} {b : β} (hx : Finds library limits x ds a)
    (hf : ds = [] → Finds library limits (f a) es b) :
    Finds library limits (x >>= f) (ds ++ es) b := by
  intro cache hs
  have hrun : (x >>= f).run cache = x.run cache >>= fun y => (f y.1).run y.2 := rfl
  cases ds with
  | nil =>
    obtain ⟨cache', hx', hs'⟩ := hx cache hs
    rw [hrun, hx']
    exact hf rfl cache' hs'
  | cons e ds =>
    have hx' : x.run cache = .error e := hx cache hs
    change (x >>= f).run cache = .error e
    rw [hrun, hx']
    rfl

/-- What a step finds when it starts with no searches. -/
theorem Finds.run'_empty (hx : Finds library limits x ds a) :
    x.run' .empty = unlessDefect a ds := by
  have h := hx .empty (sound_empty library limits)
  rw [StateT.run'_eq]
  cases ds with
  | nil =>
    obtain ⟨cache, hrun, -⟩ := h
    rw [hrun]
    rfl
  | cons e ds =>
    have hrun : x.run .empty = .error e := h
    rw [hrun]
    rfl

theorem Finds.bind_pure (f : α → β) (hx : Finds library limits x ds a) :
    Finds library limits (x >>= fun y => pure (f y)) ds (f a) := by
  have h := hx.bind (f := fun y => pure (f y)) fun _ => finds_pure (f a)
  rwa [List.append_nil] at h

theorem Finds.map (f : α → β) (hx : Finds library limits x ds a) :
    Finds library limits (f <$> x) ds (f a) := by
  rw [map_eq_pure_bind]
  exact hx.bind_pure f

/-- A check comes before what it guards. -/
theorem Finds.check {p : Prop} [Decidable p] {e : CatalogError}
    (hx : ¬ p → Finds library limits x ds a) :
    Finds library limits (if p then throw e else x) (defectIf p e ++ ds) a := by
  by_cases h : p
  · rw [if_pos h, defectIf_pos h]
    exact finds_throw e ds a
  · rw [if_neg h, defectIf_neg h]
    exact hx h

/-- A step that stops at the first item with a reason for a defect, and goes on without one. -/
theorem Finds.search {p : β → Bool} {q : β → Prop} [DecidablePred q] (hq : ∀ b, p b = true ↔ q b)
    {e : β → CatalogError} {l : List β} (hsome : ∀ b, l.find? p = some b → x = throw (e b))
    (hnone : l.find? p = none → Finds library limits x ds a) :
    Finds library limits x ((l.flatMap fun b => defectIf (q b) (e b)) ++ ds) a := by
  obtain rfl : p = fun b => decide (q b) :=
    funext fun b => by rw [Bool.eq_iff_iff, hq, decide_eq_true_iff]
  cases hfind : l.find? fun b => decide (q b) with
  | some b =>
    obtain ⟨es, hes⟩ := flatMap_defectIf_of_find?_eq_some (e := e) hfind
    rw [hsome b hfind, hes]
    exact finds_throw _ _ _
  | none =>
    rw [flatMap_defectIf_eq_nil.mpr (by simpa using hfind)]
    exact hnone hfind

theorem Finds.mapM {f : β → Build α} {g : β → α} {d : β → List CatalogError} :
    ∀ {l : List β}, (∀ b ∈ l, Finds library limits (f b) (d b) (g b)) →
      Finds library limits (l.mapM f) (l.flatMap d) (l.map g)
  | [], _ => finds_pure []
  | b :: l, h => by
    rw [List.mapM_cons, List.flatMap_cons, List.map_cons]
    refine (h b List.mem_cons_self).bind fun _ => ?_
    exact (Finds.mapM fun b' hb' => h b' (List.mem_cons_of_mem _ hb')).map (g b :: ·)

end

/-! ### Patterns and tests -/

variable {library limits} in
/-- A text that is short enough is compiled unless its search is kept. -/
theorem run_pattern {rule source : String} (h : ¬ limits.sourceLength < source.utf8ByteSize)
    (cache : PatternCache) :
    (pattern library limits rule source).run cache =
      match cache.get? source with
      | some search => .ok (⟨source, search⟩, cache)
      | none =>
        match library.compile? limits.programSize source with
        | none => .error (.invalidRegex rule source)
        | some search => .ok (⟨source, search⟩, cache.insert source search) := by
  have hget : ∀ f : PatternCache → Build Pattern, (get >>= f).run cache = (f cache).run cache :=
    fun _ => rfl
  rw [pattern, if_neg h, hget]
  cases cache.get? source with
  | some search => rfl
  | none => cases library.compile? limits.programSize source <;> rfl

/-- A text whose search is kept gives the pattern that compiling it again would give. -/
theorem finds_pattern (rule source : String) :
    Finds library limits (pattern library limits rule source)
      (patternDefects library limits rule source) ⟨source, library.found limits source⟩ := by
  by_cases hlen : limits.sourceLength < source.utf8ByteSize
  · rw [pattern, if_pos hlen, patternDefects, defectIf_pos hlen]
    exact finds_throw _ _ _
  -- a search that was kept is the one that the library would make once more
  intro cache hs
  rw [patternDefects, defectIf_neg hlen, run_pattern hlen]
  cases hc : library.compile? limits.programSize source with
  | none =>
    cases hk : cache.get? source with
    | none => rfl
    | some search =>
      have hsearch := hs source search hk
      rw [hc] at hsearch
      cases hsearch
  | some search =>
    rw [PatternLibrary.found_of_compile? hc]
    cases hk : cache.get? source with
    | none => exact ⟨_, rfl, sound_insert hs hc⟩
    | some search' =>
      have hsearch := hs source search' hk
      rw [hc] at hsearch
      exact ⟨cache, by rw [Option.some.inj hsearch], hs⟩

theorem finds_predicate (rule : String) (position : Nat) (t : TestDefinition) :
    Finds library limits (predicate library limits rule position t)
      (t.valueDefects library limits rule position) (t.predicate (library.found limits)) := by
  obtain ⟨key, op, value, slot⟩ := t
  cases value with
  | none => cases op <;> first | exact finds_pure _ | exact finds_throw _ _ _
  | some text =>
    cases op with
    | present => exact finds_throw _ _ _
    | absent => exact finds_throw _ _ _
    | eq => exact finds_pure _
    | ne => exact finds_pure _
    | contains => exact finds_pure _
    | regex =>
      rw [TestDefinition.valueDefects_of_searches rfl rfl]
      exact (finds_pattern library limits rule text).map Predicate.finds
    | notRegex =>
      rw [TestDefinition.valueDefects_of_searches rfl rfl]
      exact (finds_pattern library limits rule text).map Predicate.avoids

theorem finds_test (rule : String) (position : Nat) (t : TestDefinition) :
    Finds library limits (test library limits rule position t)
      (t.defects library limits rule position) (t.compiled (library.found limits)) := by
  obtain ⟨key, op, value, slot⟩ := t
  have hvalue := finds_predicate library limits rule position ⟨key, op, value, slot⟩
  cases slot with
  | none => exact hvalue.bind_pure fun p => (⟨key, p, none⟩ : Test)
  | some slot =>
    by_cases hmax : maxSlot < slot.toNat
    · simp only [test, TestDefinition.defects, TestDefinition.slotNumber, Option.map_some,
        Option.filter_some, hmax, decide_true, if_true, Option.toList_some, List.flatMap_singleton,
        defectIf_pos]
      exact finds_throw _ _ _
    · simp only [test, TestDefinition.defects, TestDefinition.slotNumber, Option.map_some,
        Option.filter_some, hmax, decide_false, Bool.false_eq_true, if_false, Option.toList_some,
        List.flatMap_singleton, defectIf_neg, not_false_eq_true, List.nil_append]
      exact hvalue.bind_pure fun p => (⟨key, p, some slot.toNat⟩ : Test)

/-! ### Clauses -/

theorem finds_clause (rule : String) (subclass : Option UInt32) (position : Nat)
    (c : ClauseDefinition) :
    Finds library limits (clause library limits rule subclass position c)
      (defectIf (c.tests = []) (.emptyClause rule position) ++
        c.tests.flatMap (·.defects library limits rule position))
      (c.compiled (library.found limits) rule subclass) := by
  have hempty : (c.tests.isEmpty = true) = (c.tests = []) := by
    rw [List.isEmpty_iff]
  have htests := Finds.mapM (l := c.tests) fun t _ => finds_test library limits rule position t
  unfold clause
  simp only [hempty]
  refine Finds.check fun _ => ?_
  rw [← List.append_nil (c.tests.flatMap _)]
  exact htests.bind fun _ => finds_pure _

theorem finds_clauses (rule : String) (subclass : Option UInt32) (slots : List Nat) :
    ∀ (cs : List ClauseDefinition) (first : Nat),
    Finds library limits (clauses library limits rule subclass slots first cs)
      ((cs.zipIdx first).flatMap fun (c, position) => c.defects library limits rule slots position)
      (cs.map (·.compiled (library.found limits) rule subclass))
  | [], _ => finds_pure []
  | c :: cs, first => by
    have hrest := finds_clauses rule subclass slots cs (first + 1)
    have hunbound : ∀ slot : Nat,
        (!(c.compiled (library.found limits) rule subclass).boundSlots.contains slot) = true ↔
          slot ∉ c.slots :=
      fun _ => not_eq_true_iff (SortedSet.contains_eq_true.trans
        (c.mem_boundSlots_compiled (library.found limits) rule subclass))
    rw [clauses, List.zipIdx_cons, List.flatMap_cons, List.map_cons]
    change Finds library limits _ (c.defects library limits rule slots first ++ _) _
    rw [ClauseDefinition.defects, List.append_assoc]
    refine (finds_clause library limits rule subclass first c).bind fun _ => ?_
    refine Finds.search hunbound (fun slot h => by rw [h]) fun h => ?_
    rw [h]
    exact hrest.bind_pure (c.compiled (library.found limits) rule subclass :: ·)

/-! ### Rules -/

theorem finds_guard (d : RuleDefinition) :
    Finds library limits (guard d.id (d.compiledClauses (library.found limits)) d.guard)
      d.guardDefects (d.compiledGuard (library.found limits)) := by
  unfold RuleDefinition.guardDefects RuleDefinition.compiledGuard
  cases d.guard with
  | none => exact finds_pure _
  | some conjuncts =>
    have hcovers : ∀ x : ClauseDefinition × Nat,
        (!(Guard.ofConjuncts conjuncts).covers
            (x.1.compiled (library.found limits) d.id d.subclass)) = true ↔
          ¬ x.1.CoveredBy conjuncts :=
      fun x => not_eq_true_iff
        (x.1.covers_compiled (library.found limits) d.id d.subclass conjuncts)
    have hfind : (d.compiledClauses (library.found limits)).findIdx?
          (fun c => !(Guard.ofConjuncts conjuncts).covers c) =
        (d.clauses.zipIdx.find? fun x => !(Guard.ofConjuncts conjuncts).covers
          (x.1.compiled (library.found limits) d.id d.subclass)).map (·.2) := by
      rw [RuleDefinition.compiledClauses, List.findIdx?_map, List.findIdx?_eq_fst_find?_zipIdx]
      rfl
    rw [Option.toList_some, List.flatMap_singleton, guard, ← List.append_nil (List.flatMap _ _)]
    refine Finds.search hcovers (fun x h => by rw [hfind, h]; rfl) fun h => ?_
    rw [hfind, h]
    exact finds_pure _

theorem finds_rule (d : RuleDefinition) :
    Finds library limits (rule library limits d) (d.ownDefects library limits)
      (d.compiled (library.found limits)) := by
  have hempty : (d.clauses.isEmpty = true) = (d.clauses = []) := by
    rw [List.isEmpty_iff]
  unfold rule RuleDefinition.ownDefects
  simp only [hempty, List.append_assoc]
  refine Finds.check fun _ => ?_
  cases hm : Template.parse d.message with
  | error e =>
    simp only [RuleDefinition.messageDefects, hm, List.singleton_append]
    exact finds_throw _ _ _
  | ok message =>
    have hslots : d.messageSlots = message.slots.toList := by
      simp only [RuleDefinition.messageSlots, hm]
    have htemplate : d.template = message := by simp only [RuleDefinition.template, hm]
    have hclauses := finds_clauses library limits d.id d.subclass message.slots.toList d.clauses 0
    simp only [RuleDefinition.messageDefects, hm, List.nil_append]
    rw [RuleDefinition.clauseDefects, hslots]
    refine hclauses.bind fun _ => ?_
    have hguard := (finds_guard library limits d).bind_pure fun guard =>
      ({ d.compiled (library.found limits) with guard := guard, message := message } : Rule)
    rw [← htemplate] at hguard ⊢
    exact hguard

/-- The rules after the rules `earlier`, whose ids are those in `seen`. -/
theorem finds_rules {known : SortedMap UInt32 Classification} {classes : List Classification}
    (hclasses : ∀ id, known.contains id = true ↔ ∃ c ∈ classes, c.id = id) :
    ∀ (rs earlier : List RuleDefinition) (seen : List String),
      (∀ id, seen.contains id = true ↔ ∃ r ∈ earlier, r.id = id) →
      Finds library limits (rules library limits known seen rs)
        ((rs.zipIdx earlier.length).flatMap fun (r, i) =>
          r.defects library limits classes ((earlier ++ rs).take i))
        (rs.map (·.compiled (library.found limits)))
  | [], _, _, _ => finds_pure []
  | r :: rs, earlier, seen, hseen => by
    -- the ids that were seen come last first, the rules before come in order
    have hseen' : ∀ id, (r.id :: seen).contains id = true ↔ ∃ r' ∈ earlier ++ [r], r'.id = id := by
      intro id
      rw [List.contains_cons, Bool.or_eq_true, hseen, beq_iff_eq]
      constructor
      · rintro (rfl | ⟨r', hr', rfl⟩)
        · exact ⟨r, List.mem_append_right _ List.mem_cons_self, rfl⟩
        · exact ⟨r', List.mem_append_left _ hr', rfl⟩
      · rintro ⟨r', hr', rfl⟩
        rcases List.mem_append.mp hr' with hr' | hr'
        · exact Or.inr ⟨r', hr', rfl⟩
        · exact Or.inl (by rw [List.mem_singleton.mp hr'])
    have hrest := finds_rules hclasses rs (earlier ++ [r]) (r.id :: seen) hseen'
    rw [List.length_append, List.append_assoc] at hrest
    have hdup : (seen.contains r.id = true) = ∃ r' ∈ earlier, r'.id = r.id := propext (hseen r.id)
    have hclass : ((!known.contains r.classId) = true) = ¬ ∃ c ∈ classes, c.id = r.classId :=
      propext (not_eq_true_iff (hclasses r.classId))
    rw [rules, List.zipIdx_cons, List.flatMap_cons, List.map_cons]
    change Finds library limits _
      (r.defects library limits classes ((earlier ++ r :: rs).take earlier.length) ++ _) _
    rw [List.take_left, RuleDefinition.defects, List.append_assoc, List.append_assoc]
    simp only [hdup, hclass]
    refine Finds.check fun _ => Finds.check fun _ => ?_
    exact (finds_rule library limits r).bind fun _ =>
      hrest.bind_pure (r.compiled (library.found limits) :: ·)

end Build

/-! ### The whole definition -/

/-- What classes are registered as. -/
def registered (seen : SortedMap UInt32 Classification) (cs : List Classification) :
    SortedMap UInt32 Classification :=
  cs.foldl (fun m c => m.insert c.id c) seen

theorem contains_insert_class (m : SortedMap UInt32 Classification) (c : Classification)
    (id : UInt32) : (m.insert c.id c).contains id = true ↔ m.contains id = true ∨ c.id = id := by
  rw [SortedMap.contains_eq_isSome, SortedMap.contains_eq_isSome, SortedMap.get?_insert]
  by_cases h : id = c.id
  · simp [h]
  · simp [h, Ne.symm h]

theorem contains_registered : ∀ (cs : List Classification) (seen : SortedMap UInt32 Classification)
    (id : UInt32), (registered seen cs).contains id = true ↔
      seen.contains id = true ∨ ∃ c ∈ cs, c.id = id
  | [], _, _ => by simp [registered]
  | c :: cs, seen, id => by
    have h : registered seen (c :: cs) = registered (seen.insert c.id c) cs := rfl
    rw [h, contains_registered cs, contains_insert_class]
    simp [or_assoc]

/-- The classes after the classes `earlier`, whose ids are those in `seen`. -/
theorem buildClasses_eq : ∀ (cs earlier : List Classification)
    (seen : SortedMap UInt32 Classification),
    (∀ id, seen.contains id = true ↔ ∃ c ∈ earlier, c.id = id) →
    buildClasses seen cs = unlessDefect (registered seen cs)
      ((cs.zipIdx earlier.length).flatMap fun (c, i) => c.defects ((earlier ++ cs).take i))
  | [], _, _, _ => rfl
  | c :: cs, earlier, seen, hseen => by
    rw [buildClasses, List.zipIdx_cons, List.flatMap_cons]
    change _ = unlessDefect _ (c.defects ((earlier ++ c :: cs).take earlier.length) ++ _)
    rw [List.take_left, Classification.defects]
    by_cases hdup : ∃ c' ∈ earlier, c'.id = c.id
    · rw [if_pos ((hseen c.id).mpr hdup), defectIf_pos hdup]
      rfl
    · have hseen' : ∀ id, (seen.insert c.id c).contains id = true ↔
          ∃ c' ∈ earlier ++ [c], c'.id = id := by
        intro id
        rw [contains_insert_class, hseen]
        simp [or_and_right, exists_or]
      have hrest := buildClasses_eq cs (earlier ++ [c]) (seen.insert c.id c) hseen'
      rw [List.length_append, List.append_assoc] at hrest
      rw [if_neg fun h => hdup ((hseen c.id).mp h), defectIf_neg hdup, hrest]
      rfl

namespace CatalogDefinition

/-- **Building checks everything and nothing else.** A definition without defects gives its
compiled form, and any other gives the first of its defects. -/
theorem build_eq (library : PatternLibrary) (limits : PatternLimits) (d : CatalogDefinition) :
    d.build library limits =
      unlessDefect (d.compiled (library.found limits)) (d.defects library limits) := by
  have hclasses : buildClasses .empty d.classes =
      unlessDefect (registered .empty d.classes) d.classDefects :=
    buildClasses_eq d.classes [] .empty (by simp [SortedMap.contains_eq_isSome])
  have hknown : ∀ id, (registered .empty d.classes).contains id = true ↔
      ∃ c ∈ d.classes, c.id = id := by
    intro id
    rw [contains_registered, SortedMap.contains_eq_isSome, SortedMap.get?_empty]
    simp
  have hrules : Build.Finds library limits
      (Build.rules library limits (registered .empty d.classes) [] d.rules)
      (d.ruleDefects library limits) (d.rules.map (·.compiled (library.found limits))) :=
    Build.finds_rules library limits hknown d.rules [] [] (by simp)
  have hcompiled : Catalog.ofRules (d.rules.map (·.compiled (library.found limits)))
      (registered .empty d.classes) = d.compiled (library.found limits) := by
    rw [compiled, SortedMap.ofList, List.foldl_map]
    rfl
  have hbuild : d.build library limits = buildClasses .empty d.classes >>= fun classes =>
      (Build.rules library limits classes [] d.rules).run' .empty >>= fun rules =>
        pure (Catalog.ofRules rules classes) := rfl
  rw [hbuild, defects, hclasses]
  refine unlessDefect_bind ?_
  rw [hrules.run'_empty, ← hcompiled]
  cases d.ruleDefects library limits <;> rfl

theorem build_eq_ok {library : PatternLibrary} {limits : PatternLimits} {d : CatalogDefinition}
    {catalog : Catalog} : d.build library limits = .ok catalog ↔
      d.defects library limits = [] ∧ catalog = d.compiled (library.found limits) := by
  rw [build_eq]
  cases d.defects library limits with
  | nil => exact ⟨fun h => ⟨rfl, (Except.ok.inj h).symm⟩, fun h => by rw [h.2]; rfl⟩
  | cons e es => exact ⟨nofun, nofun⟩

theorem build_eq_error {library : PatternLibrary} {limits : PatternLimits} {d : CatalogDefinition}
    {e : CatalogError} :
    d.build library limits = .error e ↔ (d.defects library limits).head? = some e := by
  rw [build_eq]
  cases d.defects library limits with
  | nil => exact ⟨nofun, nofun⟩
  | cons e' es => exact ⟨fun h => by rw [Except.error.inj h]; rfl,
      fun h => by rw [unlessDefect, Option.some.inj h]⟩

/-- **Validation is exact.** With any library and any limits, a definition is accepted exactly if
it has no defect; else the error is its first defect. -/
theorem build_finds_first_defect (library : PatternLibrary) (limits : PatternLimits)
    (d : CatalogDefinition) :
    ((∃ catalog, d.build library limits = .ok catalog) ↔ d.defects library limits = []) ∧
      ∀ e, d.build library limits = .error e ↔ (d.defects library limits).head? = some e := by
  refine ⟨⟨?_, fun h => ⟨_, build_eq_ok.mpr ⟨h, rfl⟩⟩⟩, fun e => build_eq_error⟩
  rintro ⟨catalog, h⟩
  exact (build_eq_ok.mp h).1

end CatalogDefinition

end TagRules
