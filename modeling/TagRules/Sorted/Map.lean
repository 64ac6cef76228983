/-
# Finite maps kept in ascending order of their keys

`SortedMap κ ν` is a list of entries whose keys strictly ascend. A later write to
a key replaces the earlier one and leaves the other keys alone
(`SortedMap.get?_insert`), and a key has an entry exactly if it can be read
(`SortedMap.contains_eq_isSome`). Pairs with different keys are all kept
(`SortedMap.perm_entries_ofList`), and of those with one key the last counts
(`SortedMap.get?_ofList`). A map is what can be read from it (`SortedMap.ext_get?`).

Key definitions: `SortedMap.insert`, `SortedMap.ofList`, `SortedMap.get?`, `lastValue`.
Key theorems: `SortedMap.get?_insert`, `SortedMap.contains_eq_isSome`,
`SortedMap.perm_entries_ofList`, `SortedMap.get?_ofList`, `SortedMap.ext_get?`.
-/
import TagRules.Sorted.Order

namespace TagRules

section

variable {κ ν : Type} [LT κ] [DecidableLT κ] [DecidableEq κ]

/-- Write `v` at `k` in a list of entries with ascending keys. -/
def insertEntry (k : κ) (v : ν) : List (κ × ν) → List (κ × ν)
  | [] => [(k, v)]
  | e :: es =>
    if k < e.1 then (k, v) :: e :: es
    else if k = e.1 then (k, v) :: es
    else e :: insertEntry k v es

theorem fst_mem_insertEntry {k : κ} {v : ν} {e : κ × ν} (es : List (κ × ν))
    (h : e ∈ insertEntry k v es) : e.1 = k ∨ e ∈ es := by
  induction es with
  | nil => simp [insertEntry] at h; simp [h]
  | cons d ds ih =>
    unfold insertEntry at h
    split at h
    · rcases List.mem_cons.mp h with rfl | h
      · exact Or.inl rfl
      · exact Or.inr h
    · split at h
      · rcases List.mem_cons.mp h with rfl | h
        · exact Or.inl rfl
        · exact Or.inr (List.mem_cons_of_mem _ h)
      · rcases List.mem_cons.mp h with rfl | h
        · exact Or.inr List.mem_cons_self
        · rcases ih h with h | h
          · exact Or.inl h
          · exact Or.inr (List.mem_cons_of_mem _ h)

theorem pairwise_insertEntry [KeyOrder κ] (k : κ) (v : ν) (es : List (κ × ν))
    (h : es.Pairwise (·.1 < ·.1)) : (insertEntry k v es).Pairwise (·.1 < ·.1) := by
  induction es with
  | nil => simp [insertEntry]
  | cons d ds ih =>
    obtain ⟨hd, hds⟩ := List.pairwise_cons.mp h
    unfold insertEntry
    split
    · rename_i hkd
      refine List.pairwise_cons.mpr ⟨?_, h⟩
      intro e he
      rcases List.mem_cons.mp he with rfl | he
      · exact hkd
      · exact KeyOrder.trans hkd (hd e he)
    · rename_i hkd
      split
      · rename_i heq
        refine List.pairwise_cons.mpr ⟨?_, hds⟩
        intro e he
        subst heq
        exact hd e he
      · rename_i hne
        have hdk : d.1 < k := Decidable.byContradiction fun hdk =>
          hne (KeyOrder.eq_of_not_lt hkd hdk)
        refine List.pairwise_cons.mpr ⟨?_, ih hds⟩
        intro e he
        rcases fst_mem_insertEntry ds he with he | he
        · rw [he]; exact hdk
        · exact hd e he

omit [LT κ] [DecidableLT κ] in
theorem lookup_cons_eq_ite (k : κ) (e : κ × ν) (es : List (κ × ν)) :
    (e :: es).lookup k = if k = e.1 then some e.2 else es.lookup k := by
  obtain ⟨d, w⟩ := e
  by_cases h : k = d
  · subst h; simp
  · have hb : (k == d) = false := beq_false_of_ne h
    rw [List.lookup_cons, hb, if_neg h]

theorem lookup_insertEntry (k j : κ) (v : ν) (es : List (κ × ν)) :
    (insertEntry k v es).lookup j = if j = k then some v else es.lookup j := by
  induction es with
  | nil => simp [insertEntry, lookup_cons_eq_ite]
  | cons e es ih =>
    unfold insertEntry
    split
    · rw [lookup_cons_eq_ite]
    · split
      · rename_i hke
        subst hke
        by_cases h : j = e.1 <;> simp [lookup_cons_eq_ite, h]
      · rename_i hke
        rw [lookup_cons_eq_ite, lookup_cons_eq_ite, ih]
        by_cases he : j = e.1
        · have h : j ≠ k := fun h => hke (h.symm.trans he)
          simp [he, he ▸ h]
        · simp [he]

/-- An entry at a new key joins the others, of which none goes. -/
theorem perm_insertEntry {k : κ} {v : ν} : ∀ {es : List (κ × ν)}, (∀ e ∈ es, e.1 ≠ k) →
    (insertEntry k v es).Perm ((k, v) :: es)
  | [], _ => .refl _
  | e :: es, h => by
    obtain ⟨hne, hrest⟩ := List.forall_mem_cons.mp h
    unfold insertEntry
    split
    · exact .refl _
    · rw [if_neg (Ne.symm hne)]
      exact ((perm_insertEntry hrest).cons e).trans (.swap (k, v) e es)

omit [DecidableLT κ] in
/-- Where the keys ascend, an entry is read at its key and nowhere else. -/
theorem lookup_eq_some_iff [KeyOrder κ] {k : κ} {v : ν} : ∀ {es : List (κ × ν)},
    es.Pairwise (·.1 < ·.1) → (es.lookup k = some v ↔ (k, v) ∈ es)
  | [], _ => by simp
  | (j, w) :: es, h => by
    obtain ⟨hfirst, hrest⟩ := List.pairwise_cons.mp h
    rw [lookup_cons_eq_ite, List.mem_cons]
    by_cases hk : k = j
    · subst hk
      have hnot : (k, v) ∉ es := fun hmem => KeyOrder.irrefl k (hfirst (k, v) hmem)
      simp [hnot, eq_comm]
    · rw [if_neg hk, lookup_eq_some_iff hrest]
      simp [hk]

end

section

variable {κ ν : Type} [DecidableEq κ]

/-- The value of the last pair with key `k`. -/
def lastValue (l : List (κ × ν)) (k : κ) : Option ν :=
  ((l.filter (k = ·.1)).getLast?).map (·.2)

theorem lastValue_cons (e : κ × ν) (l : List (κ × ν)) (k : κ) :
    lastValue (e :: l) k = (lastValue l k).or (if k = e.1 then some e.2 else none) := by
  by_cases h : k = e.1
  · rw [lastValue, List.filter_cons_of_pos (by simpa using h), List.getLast?_cons, if_pos h,
      lastValue]
    cases (l.filter (k = ·.1)).getLast? <;> rfl
  · rw [lastValue, List.filter_cons_of_neg (by simpa using h), if_neg h, Option.or_none, lastValue]

/-- No pair has a key without a last value. -/
theorem lastValue_eq_none_iff {l : List (κ × ν)} {k : κ} :
    lastValue l k = none ↔ ∀ e ∈ l, k ≠ e.1 := by
  simp [lastValue]

end

/-- A finite map, as the list of its entries in ascending order of the keys. -/
structure SortedMap (κ ν : Type) [LT κ] where
  /-- The entries; each key occurs once. -/
  entries : List (κ × ν)
  ascending : entries.Pairwise (·.1 < ·.1)
deriving DecidableEq, Repr

namespace SortedMap

variable {κ ν : Type} [LT κ]

def empty : SortedMap κ ν := ⟨[], List.Pairwise.nil⟩

instance : Inhabited (SortedMap κ ν) := ⟨empty⟩

/-- The keys, in strictly ascending order. -/
def keys (m : SortedMap κ ν) : List κ := m.entries.map (·.1)

/-- The values, in the order of their keys. -/
def values (m : SortedMap κ ν) : List ν := m.entries.map (·.2)

def size (m : SortedMap κ ν) : Nat := m.entries.length

def isEmpty (m : SortedMap κ ν) : Bool := m.entries.isEmpty

/-- The value at `k`, if the map has one. -/
def get? [DecidableEq κ] (m : SortedMap κ ν) (k : κ) : Option ν := m.entries.lookup k

/-- Whether the map has a value at `k`. -/
def contains [DecidableEq κ] (m : SortedMap κ ν) (k : κ) : Bool := m.entries.any (·.1 = k)

/-- A key has an entry exactly if it can be read. -/
theorem contains_eq_isSome [DecidableEq κ] (m : SortedMap κ ν) (k : κ) :
    m.contains k = (m.get? k).isSome := by
  unfold contains get?
  induction m.entries with
  | nil => rfl
  | cons e es ih =>
    rw [lookup_cons_eq_ite, List.any_cons, ih]
    by_cases h : k = e.1
    · simp [h]
    · simp [h, Ne.symm h]

/-- What is read are the entries. -/
theorem get?_eq_some_iff [DecidableEq κ] [KeyOrder κ] {m : SortedMap κ ν} {k : κ} {v : ν} :
    m.get? k = some v ↔ (k, v) ∈ m.entries :=
  lookup_eq_some_iff m.ascending

@[simp]
theorem get?_empty [DecidableEq κ] (k : κ) : (empty : SortedMap κ ν).get? k = none := rfl

/-- Keys ascend, so none occurs twice. -/
theorem nodup_keys [KeyOrder κ] (m : SortedMap κ ν) : m.keys.Nodup := by
  rw [keys, List.Nodup, List.pairwise_map]
  refine m.ascending.imp fun {e e'} hlt heq => ?_
  rw [heq] at hlt
  exact KeyOrder.irrefl e'.1 hlt

theorem nodup_entries [KeyOrder κ] (m : SortedMap κ ν) : m.entries.Nodup := by
  have hkeys := m.nodup_keys
  rw [keys, List.Nodup, List.pairwise_map] at hkeys
  exact hkeys.imp fun hne heq => hne (congrArg (·.1) heq)

/-- Maps from which the same is read are the same. -/
theorem ext_get? [DecidableEq κ] [KeyOrder κ] {m m' : SortedMap κ ν}
    (h : ∀ k, m.get? k = m'.get? k) : m = m' := by
  have hmem : ∀ e, e ∈ m.entries ↔ e ∈ m'.entries := by
    rintro ⟨k, v⟩
    rw [← get?_eq_some_iff, ← get?_eq_some_iff, h]
  have hperm : m.entries.Perm m'.entries :=
    (List.perm_ext_iff_of_nodup m.nodup_entries m'.nodup_entries).mpr hmem
  have hantisymm : ∀ e e' : κ × ν, e ∈ m.entries → e' ∈ m'.entries → e.1 < e'.1 → e'.1 < e.1 →
      e = e' := fun e _ _ _ hlt hgt => absurd (KeyOrder.trans hlt hgt) (KeyOrder.irrefl e.1)
  have hentries := hperm.eq_of_pairwise hantisymm m.ascending m'.ascending
  cases m
  cases m'
  congr

/-- The map without the entries whose key fails `keep`. -/
def filterKeys (keep : κ → Bool) (m : SortedMap κ ν) : SortedMap κ ν :=
  ⟨m.entries.filter (keep ·.1), m.ascending.filter _⟩

/-- A key that is kept reads as before, and any other is gone. -/
theorem get?_filterKeys [DecidableEq κ] (keep : κ → Bool) (m : SortedMap κ ν) (k : κ) :
    (m.filterKeys keep).get? k = if keep k then m.get? k else none := by
  change (m.entries.filter (keep ·.1)).lookup k = if keep k then m.entries.lookup k else none
  induction m.entries with
  | nil => simp
  | cons e es ih =>
    rw [List.filter_cons, lookup_cons_eq_ite]
    by_cases h : k = e.1
    · subst h
      by_cases hk : keep e.1
      · simp [hk, lookup_cons_eq_ite]
      · simpa [hk] using ih
    · by_cases hk : keep e.1
      · simpa [hk, lookup_cons_eq_ite, h] using ih
      · simpa [hk, h] using ih

section

variable [DecidableLT κ] [DecidableEq κ] [KeyOrder κ]

/-- The map with `v` at `k`, in place of what was there. -/
def insert (m : SortedMap κ ν) (k : κ) (v : ν) : SortedMap κ ν :=
  ⟨insertEntry k v m.entries, pairwise_insertEntry k v m.entries m.ascending⟩

/-- A write is read back at its key, and no other key notices it. -/
theorem get?_insert (m : SortedMap κ ν) (k j : κ) (v : ν) :
    (m.insert k v).get? j = if j = k then some v else m.get? j :=
  lookup_insertEntry k j v m.entries

/-- The map that results from writing the pairs of a list in order. -/
def ofList (l : List (κ × ν)) : SortedMap κ ν := l.foldl (fun m e => m.insert e.1 e.2) empty

/-- Writing pairs leaves at each key the last value for it, or what was there if there is none. -/
theorem get?_foldl_insert (k : κ) : ∀ (l : List (κ × ν)) (m : SortedMap κ ν),
    (l.foldl (fun m e => m.insert e.1 e.2) m).get? k = (lastValue l k).or (m.get? k)
  | [], _ => rfl
  | e :: l, m => by
    rw [List.foldl_cons, get?_foldl_insert k l, get?_insert, lastValue_cons, Option.or_assoc]
    by_cases h : k = e.1
    · rw [if_pos h, if_pos h, Option.some_or]
    · rw [if_neg h, if_neg h, Option.none_or]

/-- Of the pairs with one key the last counts. -/
theorem get?_ofList (l : List (κ × ν)) (k : κ) : (ofList l).get? k = lastValue l k := by
  rw [ofList, get?_foldl_insert, get?_empty, Option.or_none]

/-- Pairs with new keys that differ from each other become entries, each of them once. -/
theorem perm_entries_foldl_insert : ∀ (l : List (κ × ν)) (m : SortedMap κ ν),
    l.Pairwise (·.1 ≠ ·.1) → (∀ e ∈ l, ∀ x ∈ m.entries, x.1 ≠ e.1) →
    (l.foldl (fun m e => m.insert e.1 e.2) m).entries.Perm (m.entries ++ l)
  | [], m, _, _ => by simp
  | e :: l, m, hdiffer, hnew => by
    obtain ⟨hfirst, hrest⟩ := List.pairwise_cons.mp hdiffer
    obtain ⟨hnewe, hnewl⟩ := List.forall_mem_cons.mp hnew
    have hinsert : (m.insert e.1 e.2).entries.Perm (e :: m.entries) := perm_insertEntry hnewe
    have hnew' : ∀ e' ∈ l, ∀ x ∈ (m.insert e.1 e.2).entries, x.1 ≠ e'.1 := by
      intro e' he' x hx
      rcases List.mem_cons.mp (hinsert.mem_iff.mp hx) with rfl | hx
      · exact hfirst e' he'
      · exact hnewl e' he' x hx
    have ih := perm_entries_foldl_insert l (m.insert e.1 e.2) hrest hnew'
    exact ih.trans ((hinsert.append_right l).trans List.perm_middle.symm)

/-- Pairs whose keys differ from each other are the entries of their map, up to order. -/
theorem perm_entries_ofList {l : List (κ × ν)} (h : l.Pairwise (·.1 ≠ ·.1)) :
    (ofList l).entries.Perm l :=
  perm_entries_foldl_insert l empty h (by simp [empty])

/-- If keys are changed one to one, each value is read at its changed key. -/
theorem get?_ofList_map {f : κ → κ} (hf : ∀ j k, f j = f k → j = k) (g : κ → ν → ν)
    (m : SortedMap κ ν) (k : κ) :
    (ofList (m.entries.map fun e => (f e.1, g e.1 e.2))).get? (f k) = (m.get? k).map (g k) := by
  have hdiffer : (m.entries.map fun e => (f e.1, g e.1 e.2)).Pairwise (·.1 ≠ ·.1) := by
    refine List.pairwise_map.mpr (m.ascending.imp fun {e e'} hlt heq => ?_)
    exact KeyOrder.irrefl e.1 (by rwa [← hf _ _ heq] at hlt)
  ext v
  rw [get?_eq_some_iff, (perm_entries_ofList hdiffer).mem_iff, List.mem_map, Option.map_eq_some_iff]
  constructor
  · rintro ⟨⟨j, w⟩, hmem, heq⟩
    obtain ⟨hkey, rfl⟩ := Prod.mk.inj heq
    obtain rfl := hf _ _ hkey
    exact ⟨w, get?_eq_some_iff.mpr hmem, rfl⟩
  · rintro ⟨w, hw, rfl⟩
    exact ⟨(k, w), get?_eq_some_iff.mp hw, rfl⟩

end

end SortedMap

end TagRules
