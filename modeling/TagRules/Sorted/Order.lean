/-
# Orders of keys

Lists that ascend strictly hold each item once only if the order is strict and tells any
two items apart. Both are facts about the order alone, so they are gathered in one class,
and the types of keys that occur are named here.

Key definition: `KeyOrder`.
-/

namespace TagRules

/-- The order of a type is strict and total. -/
class KeyOrder (α : Type) [LT α] : Prop where
  irrefl : ∀ a : α, ¬ a < a
  trans : ∀ {a b c : α}, a < b → b < c → a < c
  eq_of_not_lt : ∀ {a b : α}, ¬ a < b → ¬ b < a → a = b

namespace KeyOrder

theorem ofClasses {α : Type} [LT α] [Std.Irrefl (α := α) (· < ·)]
    [Trans (α := α) (· < ·) (· < ·) (· < ·)] [Std.Trichotomous (α := α) (· < ·)] : KeyOrder α where
  irrefl := Std.Irrefl.irrefl
  trans := Trans.trans
  eq_of_not_lt := Std.Trichotomous.trichotomous (r := (· < ·)) _ _

end KeyOrder

instance : KeyOrder Nat := .ofClasses

instance : KeyOrder UInt32 := .ofClasses

instance : KeyOrder String := .ofClasses

instance : KeyOrder (List String) := .ofClasses

end TagRules
