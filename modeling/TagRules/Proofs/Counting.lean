/-
# How often patterns are searched for

Tests of a clause, and clauses of a rule, are both tried in order until one ends the run, so the
places of their searches come from the same recursion (`scan`). An item adds its places exactly
if the run reaches it (`count_scan`). A test's pattern is therefore searched for at most once
in a run of a rule: if the guard lets the run start, no clause before matches, no test before
fails, and the key is there (`Rule.count_searches_run`).

The counters of the patterns have 64 bits and wrap around. A run adds one to the counters of
the patterns that it searches for, and leaves alone those of all other positions, whatever
pattern stands there (`Dispatch.after_searches`). A visit is made of runs, up to the first that
fails (`Catalog.searches_runRules`). So the total over a catalog grows by what each run adds,
over any sequence of runs and visits (`Catalog.total_after_evaluations`).

Key definitions: `Rule.SearchesAt`, `Counters`, `Dispatch.Raises`, `Catalog.Evaluation`.
Key theorems: `count_scan`, `Rule.count_searches_run`, `Dispatch.after_searches`,
`Catalog.total_after_evaluations`, `Catalog.search_accounting`.
-/
import Mathlib.Data.UInt
import TagRules.Proofs.Attempt
import TagRules.Proofs.Independence

namespace TagRules

/-! ### Runs through lists -/

section Scan

variable {α ι : Type}

/-- A run through a list, which goes on past some items only, gets to a position, and the item
that stands there has a property. -/
def ReachedAt (goesOn : α → Bool) (P : α → Prop) (l : List α) (i : Nat) : Prop :=
  (∀ a ∈ l.take i, goesOn a = true) ∧ ∃ a ∈ l[i]?, P a

instance (goesOn : α → Bool) (P : α → Prop) [DecidablePred P] (l : List α) (i : Nat) :
    Decidable (ReachedAt goesOn P l i) :=
  inferInstanceAs (Decidable ((∀ a ∈ l.take i, goesOn a = true) ∧ ∃ a ∈ l[i]?, P a))

section

variable {goesOn : α → Bool} {P : α → Prop}

@[simp]
theorem not_reachedAt_nil {i : Nat} : ¬ ReachedAt goesOn P [] i := by
  simp [ReachedAt]

@[simp]
theorem reachedAt_cons_zero {a : α} {l : List α} : ReachedAt goesOn P (a :: l) 0 ↔ P a := by
  simp [ReachedAt]

@[simp]
theorem reachedAt_cons_succ {a : α} {l : List α} {i : Nat} :
    ReachedAt goesOn P (a :: l) (i + 1) ↔ goesOn a = true ∧ ReachedAt goesOn P l i := by
  simp [ReachedAt, and_assoc]

end

/-- The places that a run through a list leaves behind, if each item that it gets to leaves
some. Items are numbered from `first`. -/
def scan (goesOn : α → Bool) (places : Nat → α → List ι) (first : Nat) : List α → List ι
  | [] => []
  | a :: l => places first a ++ if goesOn a then scan goesOn places (first + 1) l else []

/-- If a place can only come from the item at one position, and then once, it is left behind
once or not at all. -/
theorem count_scan [BEq ι] {goesOn : α → Bool} {places : Nat → α → List ι} {P : α → Prop}
    [DecidablePred P] {x : ι} {k : Nat}
    (h : ∀ i a, (places i a).count x = if i = k ∧ P a then 1 else 0) :
    ∀ (l : List α) (first : Nat), (scan goesOn places first l).count x =
      if first ≤ k ∧ ReachedAt goesOn P l (k - first) then 1 else 0
  | [], first => by simp [scan]
  | a :: l, first => by
    have hrest : (if goesOn a then scan goesOn places (first + 1) l else []).count x =
        if goesOn a = true ∧ first + 1 ≤ k ∧ ReachedAt goesOn P l (k - (first + 1)) then 1
        else 0 := by
      have ih : (scan goesOn places (first + 1) l).count x = _ := count_scan h l (first + 1)
      by_cases ha : goesOn a = true <;> simp [ha, ih]
    rw [scan, List.count_append, h, hrest]
    -- the item that counts stands in front, here, or in the rest
    rcases Nat.lt_trichotomy k first with hk | rfl | hk
    · have hne : first ≠ k := by omega
      have hnext : ¬ first + 1 ≤ k := by omega
      have hnow : ¬ first ≤ k := by omega
      simp [hne, hnext, hnow]
    · have hnext : ¬ k + 1 ≤ k := by omega
      simp [hnext]
    · obtain ⟨m, rfl⟩ := Nat.exists_eq_add_of_lt hk
      have hhere : first + m + 1 - first = m + 1 := by omega
      have hthere : first + m + 1 - (first + 1) = m := by omega
      have hle : first ≤ first + m + 1 := by omega
      have hlt : first + 1 ≤ first + m + 1 := by omega
      have hne : first ≠ first + m + 1 := by omega
      simp only [hhere, hthere, hle, hlt, hne, reachedAt_cons_succ, true_and, false_and, if_false,
        Nat.zero_add]

end Scan

/-! ### Searches of a run -/

theorem searches_runTests (tags : TagSet) : ∀ (tests : List Test) (first : Nat)
    (captures : Captures), (runTests tags first captures tests).searches =
      scan (·.holds tags) (fun i t => if t.searches tags then [i] else []) first tests
  | [], _, _ => rfl
  | t :: ts, first, captures => by
    have ih := searches_runTests tags ts (first + 1) (t.run tags captures).captures
    rw [runTests, scan, Test.searched_run, Test.passed_run]
    by_cases h : t.holds tags = true
    · simp only [h, if_true, ih]
    · simp [h]

theorem searches_firstMatch (tags : TagSet) : ∀ (clauses : List Clause) (first : Nat),
    (firstMatch tags first clauses).searches =
      scan (!·.isMatch tags) (fun i c => (c.run tags).searches.map (i, ·)) first clauses
  | [], _ => rfl
  | c :: cs, first => by
    have ih := searches_firstMatch tags cs (first + 1)
    have hrun := c.result_run_eq_ite tags
    by_cases h : c.isMatch tags = true
    · rw [if_pos h] at hrun
      simp [firstMatch, scan, hrun, h]
    · rw [if_neg h] at hrun
      simp [firstMatch, scan, hrun, h, ih]

/-- An attempt of the clause gets to the test at a position and searches for its pattern: no
test before it fails, and its key is there. -/
def Clause.SearchesAt (c : Clause) (tags : TagSet) (test : Nat) : Prop :=
  ReachedAt (·.holds tags) (fun t => t.searches tags = true) c.tests test

instance (c : Clause) (tags : TagSet) (test : Nat) : Decidable (c.SearchesAt tags test) :=
  inferInstanceAs (Decidable (ReachedAt _ _ _ _))

theorem Clause.count_searches_run (c : Clause) (tags : TagSet) (test : Nat) :
    (c.run tags).searches.count test = if c.SearchesAt tags test then 1 else 0 := by
  have hplaces : ∀ i (t : Test), (if t.searches tags then [i] else []).count test =
      if i = test ∧ t.searches tags = true then 1 else 0 := by
    intro i t
    by_cases h : t.searches tags = true <;> simp [h, List.count_singleton]
  rw [Clause.run, searches_runTests, count_scan hplaces]
  refine if_congr ?_ rfl rfl
  simp [SearchesAt]

namespace Rule

/-- A run of the rule gets to the test at a position of a clause and searches for its pattern:
the guard lets the run start, and no clause before matches. -/
def SearchesAt (verifyGuards : Bool) (r : Rule) (tags : TagSet) (clause test : Nat) : Prop :=
  (r.guard.admits tags = true ∨ verifyGuards = true) ∧
    ReachedAt (!·.isMatch tags) (·.SearchesAt tags test) r.clauses clause

instance (verifyGuards : Bool) (r : Rule) (tags : TagSet) (clause test : Nat) :
    Decidable (r.SearchesAt verifyGuards tags clause test) :=
  inferInstanceAs (Decidable (_ ∧ ReachedAt _ _ _ _))

/-- What is made of a match has no part in the searches. -/
theorem searches_run (verifyGuards : Bool) (r : Rule) (tags : TagSet) :
    (r.run verifyGuards tags).searches =
      if r.guard.admits tags = true ∨ verifyGuards = true then
        (firstMatch tags 0 r.clauses).searches
      else [] := by
  unfold run
  cases r.guard.admits tags <;> cases verifyGuards <;> rfl

/-- **A pattern is searched for once or not at all.** -/
theorem count_searches_run (verifyGuards : Bool) (r : Rule) (tags : TagSet) (clause test : Nat) :
    (r.run verifyGuards tags).searches.count (clause, test) =
      if r.SearchesAt verifyGuards tags clause test then 1 else 0 := by
  have hplaces : ∀ i (c : Clause), ((c.run tags).searches.map (i, ·)).count (clause, test) =
      if i = clause ∧ c.SearchesAt tags test then 1 else 0 := by
    intro i c
    rw [count_map_eq_ite (p := i = clause) (a := test) (by simp), c.count_searches_run, ite_and]
  rw [searches_run]
  by_cases h : r.guard.admits tags = true ∨ verifyGuards = true
  · rw [if_pos h, searches_firstMatch, count_scan hplaces]
    refine if_congr ?_ rfl rfl
    simp [SearchesAt, h]
  · rw [if_neg h, List.count_nil, if_neg fun hs => h hs.1]

end Rule

/-! ### Counters -/

/-- For each position of a pattern, the 64 bits of its counter. -/
abbrev Counters := Site → UInt64

namespace Counters

def add (n : Counters) (s : Site) : Counters := fun s' => if s' = s then n s' + 1 else n s'

/-- The counters after searches. -/
def after (n : Counters) (searches : List Site) : Counters := searches.foldl add n

theorem after_append (n : Counters) (searches more : List Site) :
    n.after (searches ++ more) = (n.after searches).after more :=
  List.foldl_append

/-- A counter grows by the number of searches for its pattern. -/
theorem after_apply (s : Site) : ∀ (searches : List Site) (n : Counters),
    n.after searches s = n s + UInt64.ofNat (searches.count s)
  | [], n => (UInt64.add_zero _).symm
  | s' :: searches, n => by
    have ih := after_apply s searches (n.add s')
    rw [after, List.foldl_cons, ← after, ih, add, List.count_cons, UInt64.ofNat_add]
    by_cases h : s = s'
    · subst h
      simp [UInt64.add_assoc, UInt64.add_comm]
    · have h' : ¬ s' = s := fun e => h e.symm
      simp [h, h']

end Counters

/-- One run of a rule, which stands at a position of a catalog. -/
structure Dispatch where
  verifyGuards : Bool
  position : Nat
  rule : Rule
  tags : TagSet

namespace Dispatch

/-- The searches of the run. -/
def searches (d : Dispatch) : List Site :=
  (Catalog.runRule d.verifyGuards d.position d.rule d.tags).searches

/-- The run adds one to the counter of a pattern. -/
def Raises (d : Dispatch) (s : Site) : Prop :=
  s.rule = d.position ∧ d.rule.SearchesAt d.verifyGuards d.tags s.clause s.test

instance (d : Dispatch) : DecidablePred d.Raises := fun s =>
  inferInstanceAs (Decidable (s.rule = d.position ∧
    d.rule.SearchesAt d.verifyGuards d.tags s.clause s.test))

theorem count_searches (d : Dispatch) (s : Site) :
    d.searches.count s = if d.Raises s then 1 else 0 := by
  have hsite : ∀ x : Nat × Nat, (⟨d.position, x.1, x.2⟩ : Site) = s ↔
      s.rule = d.position ∧ x = (s.clause, s.test) := by
    intro x
    cases s
    rw [Site.mk.injEq, Prod.ext_iff, eq_comm]
  rw [searches, Catalog.runRule, Traced.searches_relabel, count_map_eq_ite hsite,
    Rule.count_searches_run, ← ite_and]
  rfl

/-- **One run adds one to the counters of the patterns that it searches for.** All others stay,
among them those of equal patterns in other rules. -/
theorem after_searches (d : Dispatch) (n : Counters) (s : Site) :
    n.after d.searches s = n s + if d.Raises s then 1 else 0 := by
  rw [Counters.after_apply, d.count_searches]
  split <;> rfl

theorem searches_eq_nil {d : Dispatch} (hverify : d.verifyGuards = false)
    (hguard : d.rule.guard.admits d.tags = false) : d.searches = [] := by
  rw [searches, Catalog.runRule, Traced.searches_relabel, Rule.searches_run]
  simp [hverify, hguard]

end Dispatch

namespace Catalog

/-- The total of the counters of all patterns of a catalog, which wraps around too. If they
started at zero, it is the `searchCount` of a record (`total_after_zero`). -/
def total (c : Catalog) (n : Counters) : UInt64 := (c.patternSites.map fun e => n e.1).sum

/-- The number of patterns of a catalog whose counters a run raises. -/
def raised (c : Catalog) (d : Dispatch) : Nat := c.patternSites.countP fun e => d.Raises e.1

/-- If all counters were zero at first, their total is the count of the record, up to wrapping
around. -/
theorem total_after_zero (c : Catalog) (record : List Site) :
    c.total (Counters.after (fun _ => 0) record) = UInt64.ofNat (c.searchCount record) := by
  have hcount : ∀ (sites : List (Site × Pattern)) (m : Nat),
      UInt64.ofNat m + (sites.map fun e => Counters.after (fun _ => 0) record e.1).sum =
        UInt64.ofNat (sites.foldl (fun m e => m + record.count e.1) m) := by
    intro sites
    induction sites with
    | nil => simp
    | cons e sites ih =>
      intro m
      rw [List.map_cons, List.sum_cons, List.foldl_cons, ← ih, Counters.after_apply,
        UInt64.ofNat_add, UInt64.zero_add, UInt64.add_assoc]
  simpa [total, searchCount] using hcount c.patternSites 0

/-- **One run.** The total grows by the number of counters that are raised. -/
theorem total_after_searches (c : Catalog) (n : Counters) (d : Dispatch) :
    c.total (n.after d.searches) = c.total n + UInt64.ofNat (c.raised d) := by
  rw [total, total, raised]
  induction c.patternSites with
  | nil => rfl
  | cons e sites ih =>
    rw [List.map_cons, List.sum_cons, ih, List.map_cons, List.sum_cons, d.after_searches,
      List.countP_cons, UInt64.ofNat_add]
    by_cases h : d.Raises e.1
    · simp only [h, if_true, decide_true]
      ac_rfl
    · simp only [h, if_false, decide_false]
      ac_rfl

/-- **Many runs.** The total grows by what each of them adds. -/
theorem total_after_flatMap (c : Catalog) : ∀ (ds : List Dispatch) (n : Counters),
    c.total (n.after (ds.flatMap (·.searches))) =
      c.total n + UInt64.ofNat (ds.map c.raised).sum
  | [], n => (UInt64.add_zero _).symm
  | d :: ds, n => by
    rw [List.flatMap_cons, Counters.after_append, total_after_flatMap c ds,
      total_after_searches, List.map_cons, List.sum_cons, UInt64.ofNat_add, UInt64.add_assoc]

/-! ### Visits -/

/-- The runs of the rules in a list, up to the first that fails. -/
def dispatches (verifyGuards : Bool) (tags : TagSet) (rs : List (Nat × Rule)) : List Dispatch :=
  let ds := rs.map fun x => ⟨verifyGuards, x.1, x.2, tags⟩
  ds.take (ds.findIdx (fun d => !(d.rule.run verifyGuards tags).result.isOk) + 1)

/-- What can be evaluated with a catalog: one of its rules, or a feature. -/
inductive Evaluation (c : Catalog)
  | rule (verifyGuards : Bool) (position : Fin c.rules.length) (tags : TagSet)
  | visit (verifyGuards : Bool) (kind : FeatureKind) (tags : TagSet)

namespace Evaluation

variable {c : Catalog}

/-- The searches of an evaluation. -/
def searches : c.Evaluation → List Site
  | rule verifyGuards position tags =>
    (runRule verifyGuards position c.rules[position] tags).searches
  | visit verifyGuards kind tags => (c.findings verifyGuards kind tags).searches

/-- The runs of rules that an evaluation is made of. -/
def runs : c.Evaluation → List Dispatch
  | rule verifyGuards position tags => [⟨verifyGuards, position, c.rules[position], tags⟩]
  | visit verifyGuards kind tags => dispatches verifyGuards tags (c.applicable kind)

end Evaluation

/-- A visit searches for what its runs search for, the last of them being the first that fails. -/
theorem searches_runRules (verifyGuards : Bool) (tags : TagSet) : ∀ rs : List (Nat × Rule),
    (runRules verifyGuards tags rs).searches =
      (dispatches verifyGuards tags rs).flatMap (·.searches)
  | [] => rfl
  | (i, r) :: rs => by
    have ih := searches_runRules verifyGuards tags rs
    rw [dispatches] at ih ⊢
    rw [runRules, Traced.searches_andThen, runRule, Traced.result_relabel]
    cases h : (r.run verifyGuards tags).result with
    | error e => simp [List.findIdx_cons, h, Except.isOk, Except.toBool, Dispatch.searches, runRule]
    | ok finding =>
      simp [List.findIdx_cons, h, Except.isOk, Except.toBool, Dispatch.searches, runRule, ih]

theorem Evaluation.searches_eq {c : Catalog} (e : c.Evaluation) :
    e.searches = e.runs.flatMap (·.searches) := by
  cases e with
  | rule verifyGuards position tags => simp [searches, runs, Dispatch.searches]
  | visit verifyGuards kind tags => exact searches_runRules verifyGuards tags (c.applicable kind)

/-- How often evaluations raise counters of the catalog: the sum over all their runs. -/
def increments (c : Catalog) (es : List c.Evaluation) : Nat :=
  ((es.flatMap (·.runs)).map c.raised).sum

/-- **Many evaluations.** The total grows by the increments of all runs. -/
theorem total_after_evaluations (c : Catalog) (n : Counters) (es : List c.Evaluation) :
    c.total (n.after (es.flatMap (·.searches))) =
      c.total n + UInt64.ofNat (c.increments es) := by
  have hsearches : es.flatMap (·.searches) = (es.flatMap (·.runs)).flatMap (·.searches) := by
    rw [List.flatMap_assoc]
    exact List.flatMap_congr fun e _ => e.searches_eq
  rw [hsearches, total_after_flatMap, increments]

/-- **Searches are counted exactly.** Whatever the counters were, a run of a rule adds one to
those of the patterns that it gets to and whose keys are there, and leaves all others alone.
Over runs and visits, the total grows by what each run has added. A run that the guard does
not let start searches for nothing. -/
theorem search_accounting (c : Catalog) (n : Counters) :
    (∀ (d : Dispatch) (s : Site),
      n.after d.searches s = n s + if d.Raises s then 1 else 0) ∧
    (∀ es : List c.Evaluation, c.increments es < UInt64.size →
      (c.total (n.after (es.flatMap (·.searches))) - c.total n).toNat = c.increments es) ∧
    ∀ d : Dispatch, d.verifyGuards = false → d.rule.guard.admits d.tags = false →
      d.searches = [] := by
  refine ⟨fun d s => d.after_searches n s, fun es hes => ?_, fun d => Dispatch.searches_eq_nil⟩
  rw [total_after_evaluations, UInt64.add_comm, UInt64.add_sub_cancel, UInt64.toNat_ofNat',
    Nat.mod_eq_of_lt hes]

def redBuoy : TagSet := .ofList [("seamark:buoy:colour", "red")]

open CatalogDefinition in
/-- The rules on buoys and on beacons share a pattern. A visit of a red buoy searches for it on
behalf of one of them. -/
theorem redBuoy_searched_once :
    let searched := PatternLibrary.found .engine .standard
    let c := (colouredMarks ["buoy", "beacon"]).compiled searched
    let n : Counters := fun _ => 41
    let onBuoys : Dispatch := ⟨true, 0, (colouredMark "buoy").compiled searched, redBuoy⟩
    let onBeacons : Dispatch := ⟨false, 1, (colouredMark "beacon").compiled searched, redBuoy⟩
    (c.total (n.after (c.findings true .node redBuoy).searches) - c.total n).toNat = 1 ∧
      n.after onBuoys.searches ⟨0, 0, 0⟩ = 42 ∧ n.after onBuoys.searches ⟨1, 0, 0⟩ = 41 ∧
      onBeacons.searches = [] := by
  intro searched c n onBuoys onBeacons
  obtain ⟨hone, hmany, hguard⟩ := search_accounting c n
  let visit : c.Evaluation := .visit true .node redBuoy
  have hincrements : c.increments [visit] = 1 := by decide +kernel
  have hgrowth := hmany [visit] (by rw [hincrements]; decide)
  rw [hincrements, List.flatMap_singleton] at hgrowth
  refine ⟨hgrowth, ?_, ?_, hguard onBeacons rfl (by decide +kernel)⟩
  · rw [hone]
    decide +kernel
  · rw [hone]
    decide +kernel

end Catalog

end TagRules
