/-
# Capture scopes

While the tests of a clause run, they bind what they saw to numbered slots: the
tested key and a value. The message of a rule reads the slots back. A scope lives
for one attempt of a clause.

A scope is a row of slots that grows to the highest slot written
(`Captures.length_bind`); slots between the written ones stay unbound. A tag
capture writes both halves of its slot, a text capture replaces the value and
keeps the key (`Captures.get?_bind`).

Key definitions: `SlotRef`, `Captures`, `Captures.bindTag`,
`Captures.bindText`, `Captures.read`.
-/
import TagRules.TagSet

namespace TagRules

/-- The halves of what a slot holds. -/
inductive SlotPart
  | key
  | value
deriving DecidableEq, Repr

/-- A reference to one half of a slot. -/
structure SlotRef where
  slot : Nat
  part : SlotPart
deriving DecidableEq, Repr

namespace SlotRef

/-- The name of the half that is referred to. -/
def partName : SlotPart → String
  | .key => "key"
  | .value => "value"

/-- The reference as it stands in a message, with the slot in plain decimal. -/
def text (r : SlotRef) : String :=
  "\x7b" ++ toString r.slot ++ "." ++ partName r.part ++ "\x7d"

end SlotRef

/-- What one slot holds. The key is missing if only texts were captured, the value
if the tested key was absent. -/
structure Capture where
  key : Option String
  value : Option String
deriving DecidableEq, Repr

namespace Capture

/-- One half of a capture. -/
def half (c : Capture) : SlotPart → Option String
  | .key => c.key
  | .value => c.value

end Capture

/-- A slot was read that nothing had been bound to. -/
structure UnboundSlot where
  slot : Nat
deriving DecidableEq, Repr

/-- The capture scope of one attempt of a clause: slot `i` is the item at `i`. -/
structure Captures where
  slots : List (Option Capture)
deriving DecidableEq, Repr

namespace Captures

/-- The scope in which nothing is bound. -/
def empty : Captures := ⟨[]⟩

/-- The scope in which nothing is bound, with room for `n` slots. The room only saves moving the
row when it grows: the row itself is as short as that of `empty`. -/
def withRoom (_n : Nat) : Captures := empty

/-- What slot `i` holds, if it is bound. -/
def get? (c : Captures) (i : Nat) : Option Capture := c.slots[i]?.join

/-- Whether slot `i` is bound. -/
def isBound (c : Captures) (i : Nat) : Bool := (c.get? i).isSome

/-- The number of bound slots. -/
def count (c : Captures) : Nat := c.slots.countP (·.isSome)

/-- The row of slots, made long enough to hold slot `i`. -/
def grow (slots : List (Option Capture)) (i : Nat) : List (Option Capture) :=
  slots ++ List.replicate (i + 1 - slots.length) none

/-- The scope with slot `i` bound to `x`. -/
def bind (c : Captures) (i : Nat) (x : Capture) : Captures :=
  ⟨(grow c.slots i).set i (some x)⟩

/-- Look `key` up and bind slot `i` to the key and its value. An absent key is bound
too, without a value, so that a message can name it. -/
def bindTag (c : Captures) (i : Nat) (tags : TagSet) (key : String) :
    Option String × Captures :=
  let value := tags.get? key
  (value, c.bind i ⟨some key, value⟩)

/-- Bind the value of slot `i` to a text, keeping a key that is already there. -/
def bindText (c : Captures) (i : Nat) (text : String) : Captures :=
  c.bind i ⟨(c.get? i).bind (·.key), some text⟩

/-- Read a reference. A missing half of a bound slot reads as the empty text. -/
def read (c : Captures) (r : SlotRef) : Except UnboundSlot String :=
  match c.get? r.slot with
  | none => .error ⟨r.slot⟩
  | some x => .ok ((x.half r.part).getD "")

theorem length_bind (c : Captures) (i : Nat) (x : Capture) :
    (c.bind i x).slots.length = max c.slots.length (i + 1) := by
  simp only [bind, grow, List.length_set, List.length_append, List.length_replicate]
  omega

theorem getElem?_grow (slots : List (Option Capture)) (i j : Nat) :
    (grow slots i)[j]?.join = slots[j]?.join := by
  unfold grow
  rcases Nat.lt_or_ge j slots.length with h | h
  · rw [List.getElem?_append_left h]
  · rw [List.getElem?_append_right h, List.getElem?_eq_none h, List.getElem?_replicate]
    split <;> rfl

/-- Binding a slot changes that slot and no other. -/
theorem get?_bind (c : Captures) (i j : Nat) (x : Capture) :
    (c.bind i x).get? j = if j = i then some x else c.get? j := by
  unfold bind get?
  by_cases h : j = i
  · subst h
    have hlen : j < (grow c.slots j).length := by
      simp only [grow, List.length_append, List.length_replicate]
      omega
    simp [List.getElem?_set_self hlen]
  · simp only [h, if_false]
    rw [List.getElem?_set_ne (fun e => h e.symm), getElem?_grow]

end Captures

end TagRules
