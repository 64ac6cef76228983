/-
# Sets kept as strictly ascending lists

`SortedSet α` is a list whose items strictly ascend, so a set of items has one
representation and two sets with the same members are equal
(`SortedSet.ext_mem`). `SortedSet.ofList` sorts a list and drops repeated items;
it keeps exactly the members (`SortedSet.mem_ofList`).

Key definitions: `insertSorted`, `SortedSet.ofList`, `SortedSet.isSubset`.
-/
import TagRules.Sorted.Order

namespace TagRules

section

variable {α : Type} [LT α] [DecidableLT α] [DecidableEq α]

/-- Put `x` in its place in an ascending list, unless it is there already. -/
def insertSorted (x : α) : List α → List α
  | [] => [x]
  | y :: ys => if x < y then x :: y :: ys else if x = y then y :: ys else y :: insertSorted x ys

theorem mem_insertSorted {x z : α} (l : List α) : z ∈ insertSorted x l ↔ z = x ∨ z ∈ l := by
  induction l with
  | nil => simp [insertSorted]
  | cons y ys ih =>
    unfold insertSorted
    split
    · simp
    · split
      · subst_vars; simp
      · simp only [List.mem_cons, ih]
        constructor <;> intro h <;> rcases h with h | h | h <;> simp [h]

theorem pairwise_insertSorted [KeyOrder α] (x : α) (l : List α) (h : l.Pairwise (· < ·)) :
    (insertSorted x l).Pairwise (· < ·) := by
  induction l with
  | nil => simp [insertSorted]
  | cons y ys ih =>
    obtain ⟨hy, hys⟩ := List.pairwise_cons.mp h
    unfold insertSorted
    split
    · rename_i hxy
      refine List.pairwise_cons.mpr ⟨?_, h⟩
      intro z hz
      rcases List.mem_cons.mp hz with rfl | hz
      · exact hxy
      · exact KeyOrder.trans hxy (hy z hz)
    · rename_i hxy
      split
      · exact h
      · rename_i hne
        have hyx : y < x := Decidable.byContradiction fun hyx =>
          hne (KeyOrder.eq_of_not_lt hxy hyx)
        refine List.pairwise_cons.mpr ⟨?_, ih hys⟩
        intro z hz
        rcases (mem_insertSorted ys).mp hz with rfl | hz
        · exact hyx
        · exact hy z hz

end

/-- A finite set, as the ascending list of its members. -/
structure SortedSet (α : Type) [LT α] where
  /-- The members, in strictly ascending order. -/
  toList : List α
  ascending : toList.Pairwise (· < ·)
deriving DecidableEq, Repr

namespace SortedSet

variable {α : Type} [LT α]

/-- The set without members. -/
def empty : SortedSet α := ⟨[], List.Pairwise.nil⟩

instance : Inhabited (SortedSet α) := ⟨empty⟩

instance : Membership α (SortedSet α) := ⟨fun s x => x ∈ s.toList⟩

theorem mem_iff_mem_toList {x : α} {s : SortedSet α} : x ∈ s ↔ x ∈ s.toList := Iff.rfl

instance [DecidableEq α] (x : α) (s : SortedSet α) : Decidable (x ∈ s) :=
  inferInstanceAs (Decidable (x ∈ s.toList))

/-- Whether `x` is a member. -/
def contains [DecidableEq α] (s : SortedSet α) (x : α) : Bool := decide (x ∈ s)

/-- Whether every item of `l` is a member. -/
def containsAll [DecidableEq α] (s : SortedSet α) (l : List α) : Bool := l.all s.contains

/-- The number of members. -/
def size (s : SortedSet α) : Nat := s.toList.length

/-- Whether there are no members. -/
def isEmpty (s : SortedSet α) : Bool := s.toList.isEmpty

@[simp]
theorem contains_eq_true [DecidableEq α] {s : SortedSet α} {x : α} :
    s.contains x = true ↔ x ∈ s := by
  simp [contains]

@[simp]
theorem containsAll_eq_true [DecidableEq α] {s : SortedSet α} {l : List α} :
    s.containsAll l = true ↔ ∀ x ∈ l, x ∈ s := by
  simp [containsAll]

section

variable [DecidableLT α] [DecidableEq α] [KeyOrder α]

/-- The set with `x` added. -/
def insert (x : α) (s : SortedSet α) : SortedSet α :=
  ⟨insertSorted x s.toList, pairwise_insertSorted x s.toList s.ascending⟩

/-- The set of the items of a list, in whatever order and however often they occur. -/
def ofList (l : List α) : SortedSet α := l.foldr insert empty

@[simp]
theorem mem_insert {x z : α} {s : SortedSet α} : z ∈ s.insert x ↔ z = x ∨ z ∈ s :=
  mem_insertSorted s.toList

@[simp]
theorem mem_ofList {x : α} {l : List α} : x ∈ ofList l ↔ x ∈ l := by
  induction l with
  | nil => simp [ofList, empty, mem_iff_mem_toList]
  | cons y ys ih =>
    have : ofList (y :: ys) = (ofList ys).insert y := rfl
    simp [this, ih]

end

/-- Two strictly ascending lists with the same items are the same list. -/
theorem eq_of_ascending [KeyOrder α] :
    ∀ {l l' : List α}, l.Pairwise (· < ·) → l'.Pairwise (· < ·) → (∀ x, x ∈ l ↔ x ∈ l') → l = l'
  | [], [], _, _, _ => rfl
  | [], y :: ys, _, _, h => by simpa using h y
  | x :: xs, [], _, _, h => by simpa using h x
  | x :: xs, y :: ys, hx, hy, h => by
    obtain ⟨hx1, hx2⟩ := List.pairwise_cons.mp hx
    obtain ⟨hy1, hy2⟩ := List.pairwise_cons.mp hy
    have hxy : x = y := by
      rcases List.mem_cons.mp ((h x).mp List.mem_cons_self) with e | hmem
      · exact e
      · rcases List.mem_cons.mp ((h y).mpr List.mem_cons_self) with e | hmem'
        · exact e.symm
        · exact absurd (KeyOrder.trans (hy1 x hmem) (hx1 y hmem')) (KeyOrder.irrefl y)
    subst hxy
    congr 1
    refine eq_of_ascending hx2 hy2 fun z => ⟨fun hz => ?_, fun hz => ?_⟩
    · rcases List.mem_cons.mp ((h z).mp (List.mem_cons_of_mem _ hz)) with rfl | hz'
      · exact absurd (hx1 z hz) (KeyOrder.irrefl z)
      · exact hz'
    · rcases List.mem_cons.mp ((h z).mpr (List.mem_cons_of_mem _ hz)) with rfl | hz'
      · exact absurd (hy1 z hz) (KeyOrder.irrefl z)
      · exact hz'

/-- A set is determined by its members. -/
theorem ext_mem [KeyOrder α] {s t : SortedSet α} (h : ∀ x, x ∈ s ↔ x ∈ t) : s = t := by
  cases s with
  | mk l hl =>
    cases t with
    | mk l' hl' => congr; exact eq_of_ascending hl hl' h

theorem ofList_toList [DecidableLT α] [DecidableEq α] [KeyOrder α] (s : SortedSet α) :
    ofList s.toList = s :=
  ext_mem fun _ => mem_ofList

end SortedSet

end TagRules
