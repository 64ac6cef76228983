/-
# A batch does not depend on the order of evaluation

The features of a batch are evaluated side by side: each is a task, and a step is taken by any task
that is still running, so every order of the features is possible, and so is every way to switch
between them. A task searches for one pattern at a time, which adds one to a counter that all tasks
share, and then ends with its report or its error (`Batch.Step`). The first error that a task ends
with is the outcome of the batch, and the other tasks may then be left as they are; without one, the
outcome is the reports in the order of the features, once all of them are there
(`Batch.Stage.outcome`).

A task is not given the counters, so no step changes what a task will end with. Nor does a step
change what the counters will be after all searches that are still ahead, or which errors can be
the outcome (`Batch.Stage.Sound`). So the outcome and the counters come out the same on every run
that does not fail (`Batch.Stage.Sound.of_outcome_eq_ok`), and no run goes on forever or stops
without an outcome. To check features one after the other is one of these runs
(`Batch.exists_run_checkAll`).

Key definitions: `Batch.Task`, `Batch.Stage`, `Batch.Step`, `Batch.Stage.outcome`.
Key theorems: `Batch.Step.sound`, `Batch.wellFounded_step`, `Batch.exists_run_checkAll`,
`Batch.outcome_any_order`.
-/
import Mathlib.Data.List.Forall2
import Mathlib.Logic.Relation
import TagRules.Batch
import TagRules.Proofs.Counting

namespace TagRules

theorem Counters.after_perm {searches more : List Site} (h : searches.Perm more) (n : Counters) :
    n.after searches = n.after more := by
  funext s
  rw [after_apply, after_apply, h.count_eq]

namespace Catalog

variable {verifyGuards : Bool} {c : Catalog} {f : Feature}

theorem result_checkOne_eq_ok_iff {r : FeatureReport} :
    (c.checkOne verifyGuards f).result = .ok r ↔
      r.id = f.id ∧ r.kind = f.kind ∧
        (c.findings verifyGuards f.kind f.tags).result = .ok r.findings := by
  rw [checkOne, Traced.result_map]
  cases (c.findings verifyGuards f.kind f.tags).result with
  | error e => simp [Except.map]
  | ok found =>
    obtain ⟨id, kind, findings⟩ := r
    simp [Except.map, eq_comm]

theorem result_checkOne_eq_error_iff {e : EvalError} :
    (c.checkOne verifyGuards f).result = .error e ↔
      (c.findings verifyGuards f.kind f.tags).result = .error e := by
  rw [checkOne, Traced.result_map]
  cases (c.findings verifyGuards f.kind f.tags).result <;> simp [Except.map]

end Catalog

namespace Batch

/-- How far the evaluation of a feature has come. -/
inductive Progress
  /-- It has a result to come to, and searches to make before that. -/
  | running (rest : Traced Site (Except EvalError FeatureReport))
  | reported (report : FeatureReport)
  | failed

/-- A feature that is being evaluated. -/
structure Task where
  feature : Feature
  progress : Progress

namespace Task

def ahead (t : Task) : List Site :=
  match t.progress with
  | .running rest => rest.searches
  | _ => []

def report? (t : Task) : Option FeatureReport :=
  match t.progress with
  | .reported report => some report
  | _ => none

/-- The number of steps that are still to be taken. -/
def work (t : Task) : Nat :=
  match t.progress with
  | .running rest => rest.searches.length + 1
  | _ => 0

theorem report?_eq_some {t : Task} {report : FeatureReport} :
    t.report? = some report ↔ t.progress = .reported report := by
  unfold report?
  cases t.progress <;> simp

end Task

/-- A batch that is being evaluated. -/
structure Stage where
  /-- The counters of the catalog, which all tasks share. -/
  counters : Counters
  /-- One task for each feature, in the order of the features. -/
  tasks : List Task
  /-- The first error that a task has ended with. -/
  failure : Option EvalError

/-- The stage at which no feature has been looked at. -/
def start (verifyGuards : Bool) (c : Catalog) (n : Counters) (features : List Feature) : Stage :=
  ⟨n, features.map fun f => ⟨f, .running (c.checkOne verifyGuards f)⟩, none⟩

/-- A task does one thing, whichever task it is. -/
inductive Step : Stage → Stage → Prop
  | search (n : Counters) (failure : Option EvalError) (before after : List Task) (f : Feature)
      (result : Except EvalError FeatureReport) (s : Site) (rest : List Site) :
    Step ⟨n, before ++ ⟨f, .running ⟨result, s :: rest⟩⟩ :: after, failure⟩
      ⟨n.add s, before ++ ⟨f, .running ⟨result, rest⟩⟩ :: after, failure⟩
  | report (n : Counters) (failure : Option EvalError) (before after : List Task) (f : Feature)
      (report : FeatureReport) :
    Step ⟨n, before ++ ⟨f, .running ⟨.ok report, []⟩⟩ :: after, failure⟩
      ⟨n, before ++ ⟨f, .reported report⟩ :: after, failure⟩
  | fail (n : Counters) (failure : Option EvalError) (before after : List Task) (f : Feature)
      (e : EvalError) :
    Step ⟨n, before ++ ⟨f, .running ⟨.error e, []⟩⟩ :: after, failure⟩
      ⟨n, before ++ ⟨f, .failed⟩ :: after, failure.or (some e)⟩

/-- Any number of steps. -/
abbrev Run : Stage → Stage → Prop := Relation.ReflTransGen Step

/-- What the batch has come to: the first error, or else all reports, once they are there. -/
def Stage.outcome (s : Stage) : Option (Except EvalError (List FeatureReport)) :=
  match s.failure with
  | some e => some (.error e)
  | none => (s.tasks.mapM Task.report?).map .ok

/-! ### What no step changes -/

section

variable {verifyGuards : Bool} {c : Catalog} {n : Counters} {features : List Feature}

/-- A task ends, or has ended, with what the evaluation of its feature alone gives. -/
def Task.Sound (verifyGuards : Bool) (c : Catalog) (t : Task) : Prop :=
  match t.progress with
  | .running rest => rest.result = (c.checkOne verifyGuards t.feature).result
  | .reported report => (c.checkOne verifyGuards t.feature).result = .ok report
  | .failed => ∃ e, (c.checkOne verifyGuards t.feature).result = .error e

/-- What is true of a batch at every stage. -/
structure Stage.Sound (verifyGuards : Bool) (c : Catalog) (n : Counters) (features : List Feature)
    (s : Stage) : Prop where
  features_eq : s.tasks.map (·.feature) = features
  tasks : ∀ t ∈ s.tasks, t.Sound verifyGuards c
  counters : s.counters.after (s.tasks.flatMap Task.ahead) =
    n.after (features.flatMap fun f => (c.checkOne verifyGuards f).searches)
  failure : ∀ e ∈ s.failure, ∃ f ∈ features, (c.checkOne verifyGuards f).result = .error e
  stored : s.failure = none → ∀ t ∈ s.tasks, t.progress ≠ .failed

theorem sound_start : (start verifyGuards c n features).Sound verifyGuards c n features := by
  refine ⟨?_, ?_, ?_, ?_, ?_⟩
  · simp [start, Function.comp_def]
  · simp [start, Task.Sound]
  · simp [start, Task.ahead, List.flatMap_map]
  · simp [start]
  · simp [start]

/-- One task may be replaced by another for the same feature that is sound, if what it takes from
the searches ahead has been added to the counters. -/
theorem Stage.Sound.replace {m m' : Counters} {before after : List Task} {t t' : Task}
    {failure failure' : Option EvalError}
    (h : Stage.Sound verifyGuards c n features ⟨m, before ++ t :: after, failure⟩)
    (hfeature : t'.feature = t.feature) (ht' : t'.Sound verifyGuards c)
    (hahead : m'.after t'.ahead = m.after t.ahead)
    (hfailure : ∀ e ∈ failure', ∃ f ∈ features, (c.checkOne verifyGuards f).result = .error e)
    (hstored : failure' = none → failure = none ∧ t'.progress ≠ .failed) :
    Stage.Sound verifyGuards c n features ⟨m', before ++ t' :: after, failure'⟩ := by
  have hperm : ∀ x : Task, ((before ++ x :: after).flatMap Task.ahead).Perm
      (x.ahead ++ (before ++ after).flatMap Task.ahead) := by
    intro x
    rw [List.flatMap_append, List.flatMap_cons, List.flatMap_append]
    exact List.perm_append_comm_assoc _ _ _
  refine ⟨?_, forall_mem_replace h.tasks ht', ?_, hfailure, fun hnone => ?_⟩
  · rw [← h.features_eq, List.map_append, List.map_append, List.map_cons, List.map_cons, hfeature]
  · have hcounters := h.counters
    simp only at hcounters ⊢
    rw [Counters.after_perm (hperm t), Counters.after_append] at hcounters
    rw [Counters.after_perm (hperm t'), Counters.after_append, hahead, hcounters]
  · obtain ⟨hfailure, ht'⟩ := hstored hnone
    exact forall_mem_replace (h.stored hfailure) ht'

/-- **A step keeps what is true of a batch.** -/
theorem Step.sound {s s' : Stage} (hstep : Step s s')
    (h : s.Sound verifyGuards c n features) : s'.Sound verifyGuards c n features := by
  have htask : ∀ {m failure before after} {t : Task},
      Stage.Sound verifyGuards c n features ⟨m, before ++ t :: after, failure⟩ →
      t.Sound verifyGuards c ∧ t.feature ∈ features := by
    intro m failure before after t h
    refine ⟨h.tasks t (by simp), ?_⟩
    rw [← h.features_eq]
    simp
  cases hstep with
  | search m failure before after f result site rest =>
    refine h.replace rfl (htask h).1 rfl h.failure fun hnone => ⟨hnone, ?_⟩
    simp
  | report m failure before after f report =>
    refine h.replace rfl (htask h).1.symm rfl h.failure fun hnone => ⟨hnone, ?_⟩
    simp
  | fail m failure before after f e =>
    obtain ⟨hresult, hf⟩ := htask h
    refine h.replace rfl ⟨e, hresult.symm⟩ rfl (fun e' he' => ?_) fun hnone => ?_
    -- a later error does not take the place of the first
    · rcases failure with _ | first
      · obtain rfl : e = e' := Option.some.inj he'
        exact ⟨f, hf, hresult.symm⟩
      · exact h.failure e' he'
    · cases failure <;> cases hnone

theorem Run.sound {s s' : Stage} (hrun : Run s s') (h : s.Sound verifyGuards c n features) :
    s'.Sound verifyGuards c n features := by
  induction hrun with
  | refl => exact h
  | tail _ hstep ih => exact hstep.sound ih

/-! ### Outcomes -/

/-- If there are reports, they are those on the features, one by one, and the counters are those
after all searches. -/
theorem Stage.Sound.of_outcome_eq_ok {s : Stage} (h : s.Sound verifyGuards c n features)
    {reports : List FeatureReport} (houtcome : s.outcome = some (.ok reports)) :
    List.Forall₂ (fun f r => (c.checkOne verifyGuards f).result = .ok r) features reports ∧
      s.counters = n.after (features.flatMap fun f => (c.checkOne verifyGuards f).searches) := by
  have hreports : s.tasks.mapM Task.report? = some reports := by
    unfold outcome at houtcome
    cases hfailure : s.failure with
    | some e => simp [hfailure] at houtcome
    | none => simpa [hfailure] using houtcome
  constructor
  · rw [← h.features_eq, List.forall₂_map_left_iff]
    have hsound := (List.forall₂_and_left _ _).mpr ⟨h.tasks, mapM_eq_some_iff.mp hreports⟩
    refine hsound.imp fun t report ⟨ht, hreport⟩ => ?_
    rw [Task.Sound, Task.report?_eq_some.mp hreport] at ht
    exact ht
  · have hnone : s.tasks.flatMap Task.ahead = [] := by
      refine List.flatMap_eq_nil_iff.mpr fun t ht => ?_
      have hall := isSome_mapM (f := Task.report?) s.tasks
      rw [hreports, Option.isSome_some, eq_comm, List.all_eq_true] at hall
      obtain ⟨report, hreport⟩ := Option.isSome_iff_exists.mp (hall t ht)
      rw [Task.ahead, Task.report?_eq_some.mp hreport]
    rw [← h.counters, hnone]
    rfl

theorem Stage.Sound.of_outcome_eq_error {s : Stage} (h : s.Sound verifyGuards c n features)
    {e : EvalError} (houtcome : s.outcome = some (.error e)) :
    ∃ f ∈ features, (c.checkOne verifyGuards f).result = .error e := by
  refine h.failure e ?_
  unfold outcome at houtcome
  cases hfailure : s.failure with
  | some e' => simpa [hfailure] using houtcome
  | none => simp [hfailure] at houtcome

theorem Stage.Sound.exists_step {s : Stage} (h : s.Sound verifyGuards c n features)
    (houtcome : s.outcome = none) : ∃ s', Step s s' := by
  obtain ⟨m, tasks, failure⟩ := s
  cases failure with
  | some e => cases houtcome
  | none =>
    have hmissing : (tasks.mapM Task.report?).isSome = false := by
      simpa [Stage.outcome] using houtcome
    rw [isSome_mapM, List.all_eq_false] at hmissing
    obtain ⟨⟨f, progress⟩, ht, hreport⟩ := hmissing
    have hstored := h.stored rfl _ ht
    obtain ⟨before, after, rfl⟩ := List.append_of_mem ht
    -- a task without a report that has not failed is one that can go on
    cases progress with
    | reported report => simp [Task.report?] at hreport
    | failed => exact absurd rfl hstored
    | running rest =>
      obtain ⟨result, searches⟩ := rest
      cases searches with
      | cons site rest => exact ⟨_, .search m none before after f result site rest⟩
      | nil =>
        cases result with
        | ok report => exact ⟨_, .report m none before after f report⟩
        | error e => exact ⟨_, .fail m none before after f e⟩

theorem Step.work {s s' : Stage} (hstep : Step s s') :
    (s'.tasks.map Task.work).sum < (s.tasks.map Task.work).sum := by
  cases hstep <;> simp [Task.work]

/-- No run goes on forever. -/
theorem wellFounded_step : WellFounded fun s' s : Stage => Step s s' :=
  Subrelation.wf Step.work
    (InvImage.wf (fun s : Stage => (s.tasks.map Task.work).sum) Nat.lt_wfRel.wf)

/-! ### Feature after feature -/

theorem run_searches (failure : Option EvalError) (before after : List Task) (f : Feature)
    (result : Except EvalError FeatureReport) : ∀ (searches : List Site) (m : Counters),
    Run ⟨m, before ++ ⟨f, .running ⟨result, searches⟩⟩ :: after, failure⟩
      ⟨m.after searches, before ++ ⟨f, .running ⟨result, []⟩⟩ :: after, failure⟩
  | [], _ => .refl
  | site :: searches, m =>
    .head (.search m failure before after f result site searches)
      (run_searches failure before after f result searches (m.add site))

/-- Features can be checked in order once those before them have been reported. -/
theorem exists_run_inOrder (verifyGuards : Bool) (c : Catalog) : ∀ (fs : List Feature)
    (before : List Task) (reports : List FeatureReport) (m : Counters),
    before.mapM Task.report? = some reports →
    ∃ s, Run ⟨m, before ++ (start verifyGuards c m fs).tasks, none⟩ s ∧
      s.outcome = some ((c.checkAll verifyGuards fs).result.map (reports ++ ·)) ∧
      s.counters = m.after (c.checkAll verifyGuards fs).searches
  | [], before, reports, m, hbefore => by
    refine ⟨_, .refl, ?_, rfl⟩
    simp [Stage.outcome, start, hbefore, Catalog.checkAll, Except.map]
  | f :: fs, before, reports, m, hbefore => by
    have hone : c.checkOne verifyGuards f =
        ⟨(c.checkOne verifyGuards f).result, (c.checkOne verifyGuards f).searches⟩ := rfl
    have hsearches := run_searches none before (start verifyGuards c m fs).tasks f
      (c.checkOne verifyGuards f).result (c.checkOne verifyGuards f).searches m
    rw [← hone] at hsearches
    rw [Catalog.checkAll, Traced.result_andThen, Traced.searches_andThen]
    cases hresult : (c.checkOne verifyGuards f).result with
    | error e =>
      rw [hresult] at hsearches
      refine ⟨_, hsearches.tail (.fail _ none before _ f e), rfl, ?_⟩
      simp
    | ok report =>
      rw [hresult] at hsearches
      let done : Task := ⟨f, .reported report⟩
      have hdone : [done].mapM Task.report? = some [report] := rfl
      have hreports : (before ++ [done]).mapM Task.report? = some (reports ++ [report]) := by
        rw [List.mapM_append, hbefore, hdone]
        rfl
      obtain ⟨s, hrun, houtcome, hcounters⟩ := exists_run_inOrder verifyGuards c fs _ _
        (m.after (c.checkOne verifyGuards f).searches) hreports
      rw [List.append_assoc] at hrun
      refine ⟨s, (hsearches.tail (.report _ none before _ f report)).trans hrun, ?_, ?_⟩
      · rw [houtcome, Traced.result_map]
        cases (c.checkAll verifyGuards fs).result <;> simp [Except.map]
      · rw [hcounters, Counters.after_append, Traced.searches_map]

/-- **To check features in order is one of the runs.** -/
theorem exists_run_checkAll (verifyGuards : Bool) (c : Catalog) (features : List Feature)
    (n : Counters) : ∃ s, Run (start verifyGuards c n features) s ∧
      s.outcome = some (c.checkAll verifyGuards features).result ∧
      s.counters = n.after (c.checkAll verifyGuards features).searches := by
  obtain ⟨s, hrun, houtcome, hcounters⟩ :=
    exists_run_inOrder verifyGuards c features [] [] n rfl
  refine ⟨s, hrun, ?_, hcounters⟩
  rw [houtcome]
  cases (c.checkAll verifyGuards features).result <;> rfl

end

/-- **A batch does not depend on the order of evaluation.** Whatever the counters are, every run
comes to an outcome, and checking the features in order is one of the runs. The outcome is an
error only if some visit fails, and then it is the error of such a visit. Otherwise there is one
report for each feature, in order, with what a visit of this feature finds; and each counter has
grown by the searches of all visits, in whichever order they were made. -/
theorem outcome_any_order (verifyGuards : Bool) (c : Catalog) (n : Counters)
    (features : List Feature) :
    (WellFounded fun s' s : Stage => Step s s') ∧
    (∀ s, Run (start verifyGuards c n features) s → s.outcome = none → ∃ s', Step s s') ∧
    (∃ s, Run (start verifyGuards c n features) s ∧
      s.outcome = some (c.checkAll verifyGuards features).result ∧
      s.counters = n.after (c.checkAll verifyGuards features).searches) ∧
    ∀ s outcome, Run (start verifyGuards c n features) s → s.outcome = some outcome →
      (outcome.isOk = true ↔
        ∀ f ∈ features, (c.findings verifyGuards f.kind f.tags).result.isOk = true) ∧
      (∀ reports, outcome = .ok reports →
        List.Forall₂ (fun f r => r.id = f.id ∧ r.kind = f.kind ∧
          (c.findings verifyGuards f.kind f.tags).result = .ok r.findings) features reports ∧
        s.counters = n.after
          (features.flatMap fun f => (c.findings verifyGuards f.kind f.tags).searches)) ∧
      ∀ e, outcome = .error e →
        ∃ f ∈ features, (c.findings verifyGuards f.kind f.tags).result = .error e := by
  refine ⟨wellFounded_step, fun s hrun => (hrun.sound sound_start).exists_step,
    exists_run_checkAll verifyGuards c features n, fun s outcome hrun houtcome => ?_⟩
  have hsound := hrun.sound sound_start
  cases outcome with
  | ok reports =>
    obtain ⟨hreports, hcounters⟩ := hsound.of_outcome_eq_ok houtcome
    have hfound := hreports.imp fun _ _ => Catalog.result_checkOne_eq_ok_iff.mp
    have hvisits : ∀ f ∈ features,
        (c.findings verifyGuards f.kind f.tags).result.isOk = true := by
      refine ((List.forall₂_and_left features reports).mp (hfound.imp fun f r hr => ⟨?_, hr⟩)).1
      rw [hr.2.2]
      rfl
    refine ⟨iff_of_true rfl hvisits, ?_, nofun⟩
    rintro _ ⟨⟩
    exact ⟨hfound, hcounters⟩
  | error e =>
    obtain ⟨f, hf, hresult⟩ := hsound.of_outcome_eq_error houtcome
    have hvisit := Catalog.result_checkOne_eq_error_iff.mp hresult
    refine ⟨iff_of_false nofun fun hall => ?_, nofun, ?_⟩
    · have hok := hall f hf
      rw [hvisit] at hok
      cases hok
    · rintro _ ⟨⟩
      exact ⟨f, hf, hvisit⟩

open CatalogDefinition in
/-- A beacon is evaluated before a buoy that stands in front of it. The reports are in order, and
the counters of both patterns have grown. Of two lights that the guard of their rule should not
hold back, the second is looked at first, and its error is the outcome. -/
theorem secondFirst_any_order :
    let searched := PatternLibrary.found .engine .standard
    let marks := (colouredMarks ["buoy", "beacon"]).compiled searched
    let buoy : Feature := ⟨"1", .node, Catalog.redBuoy⟩
    let beacon : Feature := ⟨"2", .node, .ofList [("seamark:beacon:colour", "green")]⟩
    let lights := Catalog.ofRules [Rule.lights ⟨[]⟩ ⟨"", []⟩] .empty
    let named : Feature := ⟨"1", .node, .ofList [("light", "red"), ("name", "North Head")]⟩
    let unnamed : Feature := ⟨"2", .node, .ofList [("light", "red")]⟩
    (∃ s, Run (start false marks (fun _ => 41) [buoy, beacon]) s ∧
      s.outcome = some (.ok [⟨"1", .node, [⟨3, 7, "red buoy"⟩]⟩,
        ⟨"2", .node, [⟨3, 7, "green beacon"⟩]⟩]) ∧
      (marks.findings false .node beacon.tags).result.isOk = true ∧
      s.counters ⟨0, 0, 0⟩ = 42 ∧ s.counters ⟨1, 0, 0⟩ = 42) ∧
    ∃ s, Run (start true lights (fun _ => 0) [named, unnamed]) s ∧
      s.outcome = some (.error (.guardUnsound "light" 1)) ∧
      ∃ f ∈ [named, unnamed],
        (lights.findings true f.kind f.tags).result = .error (.guardUnsound "light" 1) := by
  intro searched marks buoy beacon lights named unnamed
  constructor
  · have hbuoy : marks.checkOne false buoy =
        ⟨.ok ⟨"1", .node, [⟨3, 7, "red buoy"⟩]⟩, [⟨0, 0, 0⟩]⟩ := by decide +kernel
    have hbeacon : marks.checkOne false beacon =
        ⟨.ok ⟨"2", .node, [⟨3, 7, "green beacon"⟩]⟩, [⟨1, 0, 0⟩]⟩ := by decide +kernel
    obtain ⟨s, hrun, houtcome⟩ : ∃ s, Run (start false marks (fun _ => 41) [buoy, beacon]) s ∧
        s.outcome = some (.ok [⟨"1", .node, [⟨3, 7, "red buoy"⟩]⟩,
          ⟨"2", .node, [⟨3, 7, "green beacon"⟩]⟩]) := by
      rw [start, List.map_cons, List.map_cons, hbuoy, hbeacon]
      exact ⟨_, .head (.search _ none [_] [] beacon _ _ []) <|
        .head (.report _ none [_] [] beacon _) <|
        .head (.search _ none [] [_] buoy _ _ []) <|
        .head (.report _ none [] [_] buoy _) .refl, rfl⟩
    obtain ⟨-, -, -, hall⟩ := outcome_any_order false marks (fun _ => 41) [buoy, beacon]
    obtain ⟨hok, hreports, -⟩ := hall s _ hrun houtcome
    obtain ⟨-, hcounters⟩ := hreports _ rfl
    refine ⟨s, hrun, houtcome, hok.mp rfl beacon (by simp), ?_, ?_⟩
    · rw [hcounters]
      decide +kernel
    · rw [hcounters]
      decide +kernel
  · have hunnamed : lights.checkOne true unnamed = ⟨.error (.guardUnsound "light" 1), []⟩ := rfl
    obtain ⟨s, hrun, houtcome⟩ : ∃ s, Run (start true lights (fun _ => 0) [named, unnamed]) s ∧
        s.outcome = some (.error (.guardUnsound "light" 1)) := by
      rw [start, List.map_cons, List.map_cons, hunnamed]
      exact ⟨_, .head (.fail _ none [_] [] unnamed _) .refl, rfl⟩
    obtain ⟨-, -, -, hall⟩ := outcome_any_order true lights (fun _ => 0) [named, unnamed]
    obtain ⟨-, -, herror⟩ := hall s _ hrun houtcome
    exact ⟨s, hrun, houtcome, herror _ rfl⟩

end Batch

end TagRules
