/-
# Lists, positions and passes

What holds of any list, whatever it is a list of: of items and their positions, of what is the
first or the only one of its kind, and of passes along a list that stop where they fail.

A pass succeeds exactly if it does so for every item (`mapM_eq_ok_iff`), and else the first item
for which it fails decides how (`mapM_eq_error_iff`).

Key theorems: `find?_zipIdx_eq_some`, `flatMap_zipIdx_eq_nil_iff`, `forall_take_iff_pairwise`,
`mapM_eq_ok_iff`, `mapM_eq_error_iff`.
-/
import Mathlib.Data.List.Forall2

namespace TagRules

variable {α β ε : Type}

/-! ### Items and positions -/

/-- Numbering the items of a list changes nothing of which is the first. -/
theorem find?_zipIdx (p : α → Bool) (l : List α) (first : Nat) :
    ((l.zipIdx first).find? (p ·.1)).map (·.1) = l.find? p := by
  have h : l.find? p = ((l.zipIdx first).map (·.1)).find? p := by rw [List.zipIdx_map_fst]
  rw [h, List.find?_map]
  rfl

/-- The first item that passes is found at its position. -/
theorem find?_zipIdx_eq_some {p : α → Bool} {a : α} (ha : p a = true) :
    ∀ (l : List α) (position first : Nat), l[position]? = some a →
      (∀ b ∈ l.take position, p b = false) →
      (l.zipIdx first).find? (p ·.1) = some (a, first + position)
  | b :: l, 0, first, hstands, _ => by
    obtain rfl := Option.some.inj hstands
    rw [List.zipIdx_cons, List.find?_cons_of_pos (by exact ha)]
    rfl
  | b :: l, position + 1, first, hstands, hbefore => by
    have hb : p b = false := hbefore b (by simp)
    have ih := find?_zipIdx_eq_some ha l position (first + 1) hstands fun b' hb' =>
      hbefore b' (by simp [hb'])
    rw [List.zipIdx_cons, List.find?_cons_of_neg (by simp [hb]), ih]
    congr 2
    omega

/-- Nothing is collected from a list and its positions exactly if nothing is at any of them. -/
theorem flatMap_zipIdx_eq_nil_iff {f : α × Nat → List β} {l : List α} :
    l.zipIdx.flatMap f = [] ↔ ∀ i a, l[i]? = some a → f (a, i) = [] := by
  rw [List.flatMap_eq_nil_iff]
  constructor
  · intro h i a ha
    exact h (a, i) (List.mk_mem_zipIdx_iff_getElem?.mpr ha)
  · rintro h ⟨a, i⟩ ha
    exact h i a (List.mk_mem_zipIdx_iff_getElem?.mp ha)

/-- If nothing is collected, each item stands at some position with nothing to collect. -/
theorem exists_of_flatMap_zipIdx_eq_nil {f : α × Nat → List β} {l : List α}
    (h : l.zipIdx.flatMap f = []) {a : α} (ha : a ∈ l) : ∃ i, f (a, i) = [] := by
  obtain ⟨i, hi⟩ := List.mem_iff_getElem?.mp ha
  exact ⟨i, flatMap_zipIdx_eq_nil_iff.mp h i a hi⟩

/-- No item is in relation to one before it exactly if the relation holds of no two items in
order. -/
theorem forall_take_iff_pairwise {R : α → α → Prop} {l : List α} :
    (∀ i a, l[i]? = some a → ∀ b ∈ l.take i, R b a) ↔ l.Pairwise R := by
  rw [List.pairwise_iff_getElem]
  constructor
  · intro h i j hi hj hij
    have hmem : l[i] ∈ l.take j := List.mem_take_iff_getElem.mpr ⟨i, by omega, rfl⟩
    exact h j l[j] (List.getElem?_eq_getElem hj) _ hmem
  · intro h j a ha b hb
    obtain ⟨hj, rfl⟩ := List.getElem?_eq_some_iff.mp ha
    obtain ⟨i, hi, rfl⟩ := List.mem_take_iff_getElem.mp hb
    exact h i j (by omega) hj (by omega)

/-! ### Parts of lists -/

/-- What comes first in two lists and is not in the first of them comes first in the second. -/
theorem head?_append_of_not_mem {l l' : List α} {a : α} (h : (l ++ l').head? = some a)
    (ha : a ∉ l) : l = [] ∧ l'.head? = some a := by
  cases l with
  | nil => exact ⟨rfl, h⟩
  | cons b l => exact absurd (Option.some.inj h ▸ List.mem_cons_self) ha

/-- What is true of all items of a list stays so if one is replaced by another of which it is
true. -/
theorem forall_mem_replace {P : α → Prop} {before after : List α} {a b : α}
    (h : ∀ x ∈ before ++ a :: after, P x) (hb : P b) : ∀ x ∈ before ++ b :: after, P x := by
  simp only [List.forall_mem_append, List.forall_mem_cons] at h ⊢
  obtain ⟨hbefore, -, hafter⟩ := h
  exact ⟨hbefore, hb, hafter⟩

/-- If of any two items one gives nothing, at most one of all gives something. -/
theorem length_filterMap_le_one {f : α → Option β} {l : List α}
    (h : l.Pairwise fun a b => f a = none ∨ f b = none) : (l.filterMap f).length ≤ 1 := by
  induction l with
  | nil => exact Nat.zero_le 1
  | cons a l ih =>
    obtain ⟨ha, hl⟩ := List.pairwise_cons.mp h
    cases hfa : f a with
    | none => rw [List.filterMap_cons_none hfa]; exact ih hl
    | some b =>
      have hnone : l.filterMap f = [] := by
        rw [List.filterMap_eq_nil_iff]
        intro a' ha'
        exact (ha a' ha').resolve_left (by simp [hfa])
      rw [List.filterMap_cons_some hfa, hnone]
      exact Nat.le_refl 1

/-- A place that only one item can be renamed to counts as often as that item. -/
theorem count_map_eq_ite [BEq α] [LawfulBEq α] [BEq β] [LawfulBEq β] {f : α → β} {a : α} {b : β}
    {p : Prop} [Decidable p] (h : ∀ x, f x = b ↔ p ∧ x = a) (l : List α) :
    (l.map f).count b = if p then l.count a else 0 := by
  rw [List.count_eq_countP, List.countP_map]
  by_cases hp : p
  · rw [if_pos hp, List.count_eq_countP]
    refine List.countP_congr fun x _ => ?_
    simp [h, hp]
  · rw [if_neg hp, List.countP_eq_zero]
    intro x _
    simp [h, hp]

theorem foldl_max_le {ns : List Nat} {a d : Nat} (ha : a ≤ d) (h : ∀ n ∈ ns, n ≤ d) :
    ns.foldl max a ≤ d := by
  induction ns generalizing a with
  | nil => exact ha
  | cons n ns ih =>
    obtain ⟨hn, hns⟩ := List.forall_mem_cons.mp h
    exact ih (Nat.max_le.mpr ⟨ha, hn⟩) hns

/-! ### What may fail -/

theorem map_eq_ok {f : α → β} {x : Except ε α} {b : β} :
    x.map f = .ok b ↔ ∃ a, x = .ok a ∧ f a = b := by
  cases x <;> simp [Except.map]

theorem mapError_eq_ok {ε' : Type} {f : ε → ε'} {x : Except ε α} {a : α} :
    x.mapError f = .ok a ↔ x = .ok a := by
  cases x <;> simp [Except.mapError]

section

variable {f : α → Except ε β}

theorem mapM_eq_ok_iff : ∀ {l : List α} {l' : List β},
    l.mapM f = .ok l' ↔ List.Forall₂ (fun a b => f a = .ok b) l l'
  | [], l' => by simp [pure, Except.pure, eq_comm]
  | a :: l, l' => by
    have ih : ∀ l', l.mapM f = .ok l' ↔ _ := fun l' => mapM_eq_ok_iff
    rw [List.mapM_cons]
    cases ha : f a with
    | error e => cases l' <;> simp [bind, Except.bind, ha]
    | ok b =>
      cases hl : l.mapM f <;> cases l' <;>
        simp [bind, Except.bind, pure, Except.pure, ha, hl, ← ih]

theorem mapM_ok_of_forall {g : α → β} {l : List α} (h : ∀ a ∈ l, f a = .ok (g a)) :
    l.mapM f = .ok (l.map g) :=
  mapM_eq_ok_iff.mpr (List.forall₂_map_right_iff.mpr (List.forall₂_same.mpr h))

theorem mapM_cons_eq_error_iff {a : α} {l : List α} {e : ε} : (a :: l).mapM f = .error e ↔
    f a = .error e ∨ (∃ b, f a = .ok b) ∧ l.mapM f = .error e := by
  rw [List.mapM_cons]
  cases f a <;> cases l.mapM f <;> simp [bind, Except.bind, pure, Except.pure]

/-- The first item that fails decides the error. -/
theorem mapM_eq_error_iff {e : ε} : ∀ {l : List α},
    l.mapM f = .error e ↔ ∃ before a after, l = before ++ a :: after ∧
      (∀ a' ∈ before, ∃ b, f a' = .ok b) ∧ f a = .error e
  | [] => by simp [pure, Except.pure]
  | a :: l => by
    rw [mapM_cons_eq_error_iff, mapM_eq_error_iff]
    constructor
    · rintro (ha | ⟨hb, before, a', after, rfl, hbefore, he⟩)
      · exact ⟨[], a, l, rfl, by simp, ha⟩
      · exact ⟨a :: before, a', after, rfl, List.forall_mem_cons.mpr ⟨hb, hbefore⟩, he⟩
    · rintro ⟨before, a', after, hsplit, hbefore, he⟩
      rcases List.cons_eq_append_iff.mp hsplit with ⟨rfl, hsplit⟩ | ⟨before, rfl, rfl⟩
      · obtain ⟨rfl, -⟩ := List.cons.inj hsplit
        exact .inl he
      · obtain ⟨hb, hbefore⟩ := List.forall_mem_cons.mp hbefore
        exact .inr ⟨hb, before, a', after, rfl, hbefore, he⟩

theorem exists_mapM_eq_error_iff : ∀ {l : List α},
    (∃ e, l.mapM f = .error e) ↔ ∃ a ∈ l, ∃ e, f a = .error e
  | [] => by simp [pure, Except.pure]
  | a :: l => by
    have ih : (∃ e, l.mapM f = .error e) ↔ _ := exists_mapM_eq_error_iff
    simp only [mapM_cons_eq_error_iff, exists_or, exists_and_left, ih, List.exists_mem_cons_iff]
    cases f a <;> simp

end

section

variable {f : α → Option β}

theorem mapM_eq_some_iff : ∀ {l : List α} {l' : List β},
    l.mapM f = some l' ↔ List.Forall₂ (fun a b => f a = some b) l l'
  | [], l' => by simp [eq_comm]
  | a :: l, l' => by
    have ih : ∀ l', l.mapM f = some l' ↔ _ := fun l' => mapM_eq_some_iff
    cases l' <;> cases h : f a <;> cases hl : l.mapM f <;> simp [h, hl, ← ih]

theorem isSome_mapM : ∀ l : List α, (l.mapM f).isSome = l.all fun a => (f a).isSome
  | [] => rfl
  | a :: l => by
    have ih := isSome_mapM l
    cases h : f a <;> cases hl : l.mapM f <;> simp_all

end

end TagRules
