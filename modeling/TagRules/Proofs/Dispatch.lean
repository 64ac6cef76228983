/-
# What a rule reports

The clauses of a rule are tried in order, and the first that matches wins
(`result_firstMatch`), so a run of a rule is decided by that clause and by the guard
(`Rule.result_run`). A rule whose guard covers all clauses, and whose message reads only
slots that every clause binds, is sound (`Rule.Sound`): whatever the tags, it reports what
the first clause that matches has to say, and it never fails (`Rule.Sound.result_run`).

A rule that is not sound fails exactly where it has to. If the guard lets the tags through, the
slots that the winning clause names decide whether its message can be filled in
(`Rule.report_eq_match`); what other clauses have bound does not count. If the guard holds back
a match, that shows only when guards are checked (`Rule.result_run_cases`).

Key definitions: `Rule.finding`, `Rule.outcome`, `Rule.Sound`, `Rule.Wins`.
Key theorems: `result_firstMatch`, `Rule.result_run`, `Rule.Sound.result_run`,
`Rule.report_eq_match`, `Rule.result_run_cases`.
-/
import TagRules.Proofs.Guard
import TagRules.Proofs.Template
import TagRules.Rule

namespace TagRules

theorem result_firstMatch (tags : TagSet) : ∀ (cs : List Clause) (first : Nat),
    (firstMatch tags first cs).result =
      ((cs.zipIdx first).find? (·.1.isMatch tags)).map fun x => (x.2, x.1, x.1.scope tags)
  | [], _ => rfl
  | c :: cs, first => by
    have hrun := c.result_run_eq_ite tags
    rw [List.zipIdx_cons, List.find?_cons]
    by_cases h : c.isMatch tags = true
    · rw [if_pos h] at hrun
      simp only [firstMatch, Traced.result_relabel, hrun, h]
      rfl
    · rw [if_neg h] at hrun
      simp only [firstMatch, Traced.result_relabel, hrun, h]
      exact result_firstMatch tags cs (first + 1)

namespace Rule

theorem result_run (verifyGuards : Bool) (r : Rule) (tags : TagSet) :
    (r.run verifyGuards tags).result =
      match r.clauses.zipIdx.find? (·.1.isMatch tags) with
      | none => .ok none
      | some (c, i) =>
        if r.guard.admits tags then (r.report c (c.scope tags)).map some
        else if verifyGuards then .error (.guardUnsound r.id i)
        else .ok none := by
  unfold run
  by_cases hguard : r.guard.admits tags = true
  · rw [if_pos hguard, Traced.result_map, result_firstMatch]
    cases r.clauses.zipIdx.find? (·.1.isMatch tags) <;> simp [hguard]
  · rw [if_neg hguard]
    cases verifyGuards with
    | true =>
      rw [if_pos rfl, Traced.result_map, result_firstMatch]
      cases r.clauses.zipIdx.find? (·.1.isMatch tags) <;> simp [hguard]
    | false =>
      cases r.clauses.zipIdx.find? (·.1.isMatch tags) <;> simp [hguard]

/-- What the rule reports if a clause wins. -/
def finding (r : Rule) (tags : TagSet) (c : Clause) : Finding :=
  ⟨r.classId, c.subclass, r.message.text (c.scope tags).shown⟩

/-- What the first clause that matches has to say. -/
def outcome (r : Rule) (tags : TagSet) : Option Finding :=
  (r.clauses.find? (·.isMatch tags)).map (r.finding tags)

/-- The guard holds back no match, and every clause binds what the message reads. -/
structure Sound (r : Rule) : Prop where
  covers : ∀ c ∈ r.clauses, r.guard.covers c = true
  binds : ∀ c ∈ r.clauses, ∀ ref ∈ r.message.placeholders, ref.slot ∈ c.boundSlots

theorem report_eq {r : Rule} {c : Clause}
    (h : ∀ ref ∈ r.message.placeholders, ref.slot ∈ c.boundSlots) (tags : TagSet) :
    r.report c (c.scope tags) = .ok (r.finding tags c) := by
  have hread : ∀ ref ∈ r.message.placeholders,
      (c.scope tags).read ref = .ok ((c.scope tags).shown ref) := fun ref href =>
    Captures.read_eq_shown ((c.isBound_scope tags ref.slot).mpr (h ref href))
  rw [report, Template.render_eq hread]
  rfl

/-- **A sound rule never fails.** It reports the first clause that matches, whether or not
its guard is checked. -/
theorem Sound.result_run {r : Rule} (hr : r.Sound) (verifyGuards : Bool) (tags : TagSet) :
    (r.run verifyGuards tags).result = .ok (r.outcome tags) := by
  rw [Rule.result_run, outcome, ← find?_zipIdx _ r.clauses 0]
  cases hfind : r.clauses.zipIdx.find? (·.1.isMatch tags) with
  | none => rfl
  | some x =>
    have hmem : x.1 ∈ r.clauses := List.fst_mem_of_mem_zipIdx (List.mem_of_find?_eq_some hfind)
    have hmatch : x.1.isMatch tags = true :=
      List.find?_some (p := fun x : Clause × Nat => x.1.isMatch tags) hfind
    have hadmits : r.guard.admits tags = true := Guard.admits_of_covers (hr.covers _ hmem) hmatch
    simp only [hadmits, if_true, report_eq (hr.binds _ hmem) tags]
    rfl

/-! ### Rules that are not known to be sound -/

/-- The slots that a clause names decide whether it can be reported. If the message refers to
others, the first reference to one of them is the error. -/
theorem report_eq_match (r : Rule) (c : Clause) (tags : TagSet) :
    r.report c (c.scope tags) =
      match r.message.placeholders.find? (·.slot ∉ c.boundSlots) with
      | some ref => .error (.unresolvedPlaceholder r.id ref.slot)
      | none => .ok (r.finding tags c) := by
  have hbound : (fun ref : SlotRef => !(c.scope tags).isBound ref.slot) =
      fun ref => decide (ref.slot ∉ c.boundSlots) := by
    funext ref
    rw [Bool.eq_iff_iff, Bool.not_eq_true', decide_eq_true_iff, ← c.isBound_scope tags,
      Bool.not_eq_true]
  rw [report, Template.render_eq_match, hbound]
  cases r.message.placeholders.find? (·.slot ∉ c.boundSlots) <;> rfl

/-- The clause at a position is the first that matches. -/
structure Wins (r : Rule) (tags : TagSet) (position : Nat) (c : Clause) : Prop where
  stands : r.clauses[position]? = some c
  isMatch : c.isMatch tags = true
  first : ∀ d ∈ r.clauses.take position, d.isMatch tags = false

theorem exists_wins (r : Rule) (tags : TagSet) :
    (∀ c ∈ r.clauses, c.isMatch tags = false) ∨ ∃ position c, r.Wins tags position c := by
  by_cases hmatch : ∃ c ∈ r.clauses, c.isMatch tags = true
  · have hlt : r.clauses.findIdx (·.isMatch tags) < r.clauses.length :=
      List.findIdx_lt_length_of_exists hmatch
    refine .inr ⟨_, _, List.getElem?_eq_getElem hlt,
      List.findIdx_getElem (p := fun c : Clause => c.isMatch tags), fun d hd => ?_⟩
    obtain ⟨j, hj, rfl⟩ := List.mem_take_iff_getElem.mp hd
    have hbefore : j < r.clauses.findIdx (·.isMatch tags) := by omega
    simpa using List.not_of_lt_findIdx hbefore
  · refine .inl fun c hc => ?_
    rw [← Bool.not_eq_true]
    exact fun h => hmatch ⟨c, hc, h⟩

theorem Wins.result_run {r : Rule} {tags : TagSet} {position : Nat} {c : Clause}
    (h : r.Wins tags position c) (verifyGuards : Bool) :
    (r.run verifyGuards tags).result =
      if r.guard.admits tags then (r.report c (c.scope tags)).map some
      else if verifyGuards then .error (.guardUnsound r.id position)
      else .ok none := by
  have hfind : r.clauses.zipIdx.find? (·.1.isMatch tags) = some (c, position) := by
    have hzip := find?_zipIdx_eq_some (p := fun c : Clause => c.isMatch tags) h.isMatch r.clauses
      position 0 h.stands h.first
    rwa [Nat.zero_add] at hzip
  rw [Rule.result_run, hfind]

theorem result_run_eq_none {r : Rule} {tags : TagSet}
    (h : ∀ c ∈ r.clauses, c.isMatch tags = false) (verifyGuards : Bool) :
    (r.run verifyGuards tags).result = .ok none := by
  have hfind : r.clauses.zipIdx.find? (·.1.isMatch tags) = none := by
    refine List.find?_eq_none.mpr fun x hx => ?_
    simp [h x.1 (List.fst_mem_of_mem_zipIdx hx)]
  rw [Rule.result_run, hfind]

/-- **What any rule reports.** If the guard rejects the tags and is trusted, or if no clause
matches, the rule reports nothing. Otherwise the first clause that matches decides: a guard
that rejects the tags is an error at this clause; a message that refers only to slots which this
clause names is filled in and reported; any other message is an error, with the first slot that
this clause does not name. -/
theorem result_run_cases (r : Rule) (tags : TagSet) :
    ((∀ c ∈ r.clauses, c.isMatch tags = false) ∨ ∃ position c, r.Wins tags position c) ∧
    (r.guard.admits tags = false → (r.run false tags).result = .ok none) ∧
    (∀ verifyGuards, (∀ c ∈ r.clauses, c.isMatch tags = false) →
      (r.run verifyGuards tags).result = .ok none) ∧
    ∀ position c, r.Wins tags position c →
      (r.guard.admits tags = false →
        (r.run true tags).result = .error (.guardUnsound r.id position)) ∧
      (r.guard.admits tags = true → ∀ verifyGuards,
        ((∀ ref ∈ r.message.placeholders, ref.slot ∈ c.boundSlots) →
          (r.run verifyGuards tags).result = .ok (some (r.finding tags c))) ∧
        ∀ before ref after, r.message.placeholders = before ++ ref :: after →
          (∀ earlier ∈ before, earlier.slot ∈ c.boundSlots) → ref.slot ∉ c.boundSlots →
          (r.run verifyGuards tags).result = .error (.unresolvedPlaceholder r.id ref.slot)) := by
  refine ⟨r.exists_wins tags, fun hguard => ?_,
    fun verifyGuards h => result_run_eq_none h verifyGuards,
    fun position c hwins => ⟨fun hguard => ?_, fun hguard verifyGuards => ⟨fun hbound => ?_,
      fun before ref after hsplit hbefore href => ?_⟩⟩⟩
  · rw [run, if_neg (by simp [hguard])]
    rfl
  · rw [hwins.result_run, if_neg (by simp [hguard]), if_pos rfl]
  · rw [hwins.result_run, if_pos hguard, report_eq hbound]
    rfl
  · -- the first reference that cannot be read is the one before which all can
    have hfind : r.message.placeholders.find? (·.slot ∉ c.boundSlots) = some ref := by
      rw [hsplit, List.find?_append, List.find?_eq_none.mpr (by simpa using hbefore),
        Option.none_or, List.find?_cons_of_pos (by simpa using href)]
    rw [hwins.result_run, if_pos hguard, report_eq_match, hfind]
    rfl

/-- A rule on lights. Its first clause binds two slots, its second only one of them. -/
def lights (guard : Guard) (message : Template) : Rule where
  id := "light"
  classId := 7
  kinds := [.node]
  guard := guard
  clauses := [⟨[⟨"light", .present, some 0⟩, ⟨"name", .present, some 1⟩], 1, none⟩,
    ⟨[⟨"light", .present, some 0⟩], 2, none⟩]
  message := message

/-- On a light without a name the first clause binds both slots and then fails. The second wins,
and it does not bind the slot of the name. -/
theorem unnamedLight_run_cases :
    let tags : TagSet := .ofList [("light", "red")]
    let lit : Template := ⟨"\x7b0.value\x7d light", [.ref ⟨0, .value⟩, .text " light"]⟩
    let named : Template :=
      ⟨"\x7b0.key\x7d \x7b1.value\x7d", [.ref ⟨0, .key⟩, .text " ", .ref ⟨1, .value⟩]⟩
    Template.parse "\x7b0.value\x7d light" = .ok lit ∧
    Template.parse "\x7b0.key\x7d \x7b1.value\x7d" = .ok named ∧
    ((lights ⟨[.empty]⟩ lit).run true tags).result = .ok (some ⟨7, 2, "red light"⟩) ∧
    ((lights ⟨[.empty]⟩ named).run false tags).result =
      .error (.unresolvedPlaceholder "light" 1) ∧
    ((lights ⟨[]⟩ lit).run true tags).result = .error (.guardUnsound "light" 1) ∧
    ((lights ⟨[]⟩ lit).run false tags).result = .ok none ∧
    ((lights ⟨[.empty]⟩ lit).run true .empty).result = .ok none := by
  intro tags lit named
  have hwins : ∀ guard message, (lights guard message).Wins tags 1 ⟨[⟨"light", .present, some 0⟩],
      2, none⟩ := fun guard message =>
    ⟨rfl, by decide +kernel, by simp only [lights]; decide +kernel⟩
  refine ⟨by cbv, by cbv, ?_, ?_, ?_, ?_, ?_⟩
  · obtain ⟨-, -, -, hwinner⟩ := result_run_cases (lights ⟨[.empty]⟩ lit) tags
    exact ((hwinner 1 _ (hwins _ _)).2 (by decide) true).1 (by decide +kernel)
  · obtain ⟨-, -, -, hwinner⟩ := result_run_cases (lights ⟨[.empty]⟩ named) tags
    exact ((hwinner 1 _ (hwins _ _)).2 (by decide) false).2 [⟨0, .key⟩] ⟨1, .value⟩ [] rfl
      (by decide +kernel) (by decide +kernel)
  · obtain ⟨-, -, -, hwinner⟩ := result_run_cases (lights ⟨[]⟩ lit) tags
    exact (hwinner 1 _ (hwins _ _)).1 rfl
  · exact (result_run_cases (lights ⟨[]⟩ lit) tags).2.1 rfl
  · exact (result_run_cases (lights ⟨[.empty]⟩ lit) .empty).2.2.1 true (by decide +kernel)

end Rule

end TagRules
