/-
# A capture scope is a finite map

The row of a scope grows with the writes to it, and slots below the highest one may be left out.
None of that can be seen from outside. What a slot holds follows from the writes to it alone: its
value is that of the last one, and its key is the last that was looked up for it, however long ago,
because a text leaves the key as it is (`Captures.get?_after`). A slot that was never written is
unbound, so there are as many bound slots as the writes name (`Captures.count_after`), and a
reference can be read unless its slot was never written (`Captures.after_implements_map`).

A write is one step from scope to scope (`Captures.get?_write`, `Captures.count_write`). The facts
on histories are by induction on the history, with the last write taken off.

Key definitions: `Captures.Write`, `Captures.after`, `Captures.lastWrite`, `Captures.lastKey`.
Key theorems: `Captures.get?_write`, `Captures.get?_after`, `Captures.count_after`,
`Captures.after_implements_map`.
-/
import Mathlib.Data.Finset.Card
import Mathlib.Data.List.Induction
import TagRules.Capture

namespace TagRules

namespace Captures

/-- A step that binds a slot. -/
inductive Write
  /-- look a key up and bind the slot to the key and its value -/
  | tag (slot : Nat) (tags : TagSet) (key : String)
  /-- bind the value of the slot to a literal -/
  | literal (slot : Nat) (text : String)
  /-- bind the value of the slot to the text of a pattern -/
  | source (slot : Nat) (text : String)
deriving DecidableEq, Repr

namespace Write

def slot : Write → Nat
  | .tag i _ _ | .literal i _ | .source i _ => i

/-- The key that the write brings. A text brings none. -/
def key? : Write → Option String
  | .tag _ _ key => some key
  | .literal _ _ | .source _ _ => none

/-- The value that the slot has after the write. -/
def value : Write → Option String
  | .tag _ tags key => tags.get? key
  | .literal _ text | .source _ text => some text

end Write

def write (c : Captures) : Write → Captures
  | .tag i tags key => (c.bindTag i tags key).2
  | .literal i text | .source i text => c.bindText i text

/-- The scope after writes in order. -/
def after (c : Captures) (writes : List Write) : Captures := writes.foldl write c

/-- The writes to slot `i`. -/
def writesTo (i : Nat) (writes : List Write) : List Write := writes.filter (i = ·.slot)

def lastWrite (i : Nat) (writes : List Write) : Option Write := (writesTo i writes).getLast?

/-- The last key that was looked up for slot `i`. -/
def lastKey (i : Nat) (writes : List Write) : Option String :=
  ((writesTo i writes).filterMap (·.key?)).getLast?

/-! ### One write -/

/-- A write binds its own slot and no other: to its value, and to its key or else to the key that
was there. -/
theorem get?_write (c : Captures) (w : Write) (i : Nat) :
    (c.write w).get? i =
      if i = w.slot then some ⟨w.key?.or ((c.get? i).bind (·.key)), w.value⟩ else c.get? i := by
  have text : ∀ j text, (c.bindText j text).get? i =
      if i = j then some ⟨(c.get? i).bind (·.key), some text⟩ else c.get? i := by
    intro j text
    rw [bindText, get?_bind]
    by_cases h : i = j
    · rw [if_pos h, if_pos h, h]
    · rw [if_neg h, if_neg h]
  cases w with
  | tag j tags key => exact get?_bind c j i _
  | literal j t => exact text j t
  | source j t => exact text j t

theorem countP_grow (slots : List (Option Capture)) (i : Nat) :
    (grow slots i).countP (·.isSome) = slots.countP (·.isSome) := by
  simp [grow, List.countP_append, List.countP_replicate]

/-- One more slot is bound if it was not before. -/
theorem count_bind (c : Captures) (i : Nat) (x : Capture) :
    (c.bind i x).count = if c.isBound i then c.count else c.count + 1 := by
  have hlt : i < (grow c.slots i).length := by
    simp only [grow, List.length_append, List.length_replicate]
    omega
  have hbound : (grow c.slots i)[i].isSome = c.isBound i := by
    have h := getElem?_grow c.slots i i
    rw [List.getElem?_eq_getElem hlt] at h
    rw [isBound, get?, ← h]
    rfl
  have hcount : (c.bind i x).count =
      (c.count - if c.isBound i then 1 else 0) + 1 := by
    rw [count, bind, List.countP_set hlt, hbound, countP_grow]
    rfl
  rw [hcount]
  by_cases h : c.isBound i = true
  · have hpos : 0 < c.count := by
      rw [count, ← countP_grow c.slots i, List.countP_pos_iff]
      exact ⟨_, List.getElem_mem hlt, hbound.trans h⟩
    rw [if_pos h, if_pos h]
    omega
  · rw [if_neg h, if_neg h]
    rfl

theorem count_write (c : Captures) (w : Write) :
    (c.write w).count = if c.isBound w.slot then c.count else c.count + 1 := by
  cases w <;> exact count_bind c _ _

/-! ### Histories -/

theorem after_concat (c : Captures) (ws : List Write) (w : Write) :
    c.after (ws ++ [w]) = (c.after ws).write w := by
  simp [after]

theorem writesTo_concat (i : Nat) (ws : List Write) (w : Write) :
    writesTo i (ws ++ [w]) = if i = w.slot then writesTo i ws ++ [w] else writesTo i ws := by
  by_cases h : i = w.slot <;> simp [writesTo, h]

theorem lastWrite_concat (i : Nat) (ws : List Write) (w : Write) :
    lastWrite i (ws ++ [w]) = if i = w.slot then some w else lastWrite i ws := by
  rw [lastWrite, writesTo_concat]
  by_cases h : i = w.slot
  · rw [if_pos h, if_pos h, List.getLast?_concat]
  · rw [if_neg h, if_neg h, lastWrite]

theorem lastKey_concat (i : Nat) (ws : List Write) (w : Write) :
    lastKey i (ws ++ [w]) = if i = w.slot then w.key?.or (lastKey i ws) else lastKey i ws := by
  rw [lastKey, writesTo_concat]
  by_cases h : i = w.slot
  · rw [if_pos h, if_pos h, List.filterMap_append]
    cases hk : w.key? with
    | none => simp [hk, lastKey]
    | some key => simp [hk]
  · rw [if_neg h, if_neg h, lastKey]

theorem lastWrite_eq_none_iff {i : Nat} {writes : List Write} :
    lastWrite i writes = none ↔ i ∉ writes.map (·.slot) := by
  simp only [lastWrite, writesTo, List.getLast?_eq_none_iff, List.filter_eq_nil_iff,
    decide_eq_true_eq, List.mem_map, not_exists, not_and]
  exact forall₂_congr fun w _ => ⟨fun h e => h e.symm, fun h e => h e.symm⟩

theorem lastKey_of_lastWrite_eq_none {i : Nat} {writes : List Write}
    (h : lastWrite i writes = none) : lastKey i writes = none := by
  rw [lastWrite, List.getLast?_eq_none_iff] at h
  rw [lastKey, h]
  rfl

/-- A slot holds the value of the last write to it, with the last key that was looked up for it. -/
theorem get?_after (writes : List Write) (i : Nat) :
    (empty.after writes).get? i =
      (lastWrite i writes).map fun last => ⟨lastKey i writes, last.value⟩ := by
  -- on the last write, since that is the one which decides
  induction writes using List.reverseRecOn with
  | nil => rfl
  | append_singleton ws w ih =>
    rw [after_concat, get?_write, lastWrite_concat, lastKey_concat]
    by_cases h : i = w.slot
    · -- the key from before is the last key, also if there was no write before
      have hkey : ((empty.after ws).get? i).bind (·.key) = lastKey i ws := by
        rw [ih]
        cases hlast : lastWrite i ws with
        | none => exact (lastKey_of_lastWrite_eq_none hlast).symm
        | some last => rfl
      rw [if_pos h, if_pos h, if_pos h, hkey]
      rfl
    · rw [if_neg h, if_neg h, if_neg h, ih]

theorem isBound_after {writes : List Write} {i : Nat} :
    (empty.after writes).isBound i = true ↔ i ∈ writes.map (·.slot) := by
  rw [isBound, get?_after, Option.isSome_map, Option.isSome_iff_ne_none, ne_eq,
    lastWrite_eq_none_iff, not_not]

/-- As many slots are bound as the writes name, each counted once. -/
theorem count_after (writes : List Write) :
    (empty.after writes).count = (writes.map (·.slot)).toFinset.card := by
  induction writes using List.reverseRecOn with
  | nil => rfl
  | append_singleton ws w ih =>
    have hslots : ((ws ++ [w]).map (·.slot)).toFinset =
        insert w.slot (ws.map (·.slot)).toFinset := by
      ext i
      simp
    rw [after_concat, count_write, ih, hslots]
    by_cases h : w.slot ∈ ws.map (·.slot)
    · rw [if_pos (isBound_after.mpr h), Finset.card_insert_of_mem (List.mem_toFinset.mpr h)]
    · rw [if_neg fun hb => h (isBound_after.mp hb),
        Finset.card_insert_of_notMem fun hm => h (List.mem_toFinset.mp hm)]

/-- **A scope is a finite map from slots.** Start from an empty row, with or without room, and write
slots in any order. A slot is unbound exactly if it was never written. One that was written holds
the value of the last write and the last key that was looked up for it. The bound slots are counted
right, and reading fails for a slot that was never written and gives the half that is stored, or the
empty text, for any other. -/
theorem after_implements_map {start : Captures} (hstart : start.slots = [])
    (writes : List Write) :
    let c := start.after writes
    (∀ i, c.get? i = none ↔ i ∉ writes.map (·.slot)) ∧
    (∀ i last, (writesTo i writes).getLast? = some last →
      c.get? i = some ⟨((writesTo i writes).filterMap (·.key?)).getLast?, last.value⟩) ∧
    c.count = (writes.map (·.slot)).toFinset.card ∧
    ∀ r : SlotRef, (c.read r = .error ⟨r.slot⟩ ↔ r.slot ∉ writes.map (·.slot)) ∧
      ∀ text, c.read r = .ok text ↔
        ∃ x, c.get? r.slot = some x ∧ text = (x.half r.part).getD "" := by
  obtain rfl : start = empty := congrArg Captures.mk hstart
  intro c
  have hnone : ∀ i, c.get? i = none ↔ i ∉ writes.map (·.slot) := by
    intro i
    rw [get?_after, Option.map_eq_none_iff]
    exact lastWrite_eq_none_iff
  refine ⟨hnone, fun i last hlast => ?_, count_after writes, fun r => ?_⟩
  · have hget := get?_after writes i
    rw [lastWrite, hlast] at hget
    exact hget
  · rw [← hnone, read]
    cases c.get? r.slot with
    | none => simp
    | some x => simp [eq_comm]

/-- Slot 2 is written first. It keeps the key that was looked up for it when texts are bound to it,
and slot 0 has a key only after a tag takes the place of a text. Slot 1 stays out. -/
theorem after_implements_map_colours :
    let tags : TagSet := .ofList [("colour", "red")]
    let writes : List Write :=
      [.tag 2 tags "colour", .source 0 "light|buoy", .literal 2 "green", .tag 0 tags "name"]
    let c := (withRoom 1).after writes
    c.get? 0 = some ⟨some "name", none⟩ ∧ c.get? 1 = none ∧
      c.get? 2 = some ⟨some "colour", some "green"⟩ ∧ c.count = 2 ∧
      c.read ⟨0, .value⟩ = .ok "" ∧ c.read ⟨1, .key⟩ = .error ⟨1⟩ := by
  intro tags writes c
  have hroom : (withRoom 1).slots = [] := rfl
  obtain ⟨hnone, hsome, hcount, hread⟩ := after_implements_map hroom writes
  have h0 : c.get? 0 = some ⟨some "name", none⟩ := hsome 0 _ rfl
  refine ⟨h0, (hnone 1).mpr (by decide), hsome 2 _ rfl, hcount.trans (by decide), ?_, ?_⟩
  · exact ((hread ⟨0, .value⟩).2 "").mpr ⟨_, h0, rfl⟩
  · exact (hread ⟨1, .key⟩).1.mpr (by decide)

end Captures

end TagRules
