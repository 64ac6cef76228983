/-
# Results with a trace

Evaluation never changes a rule. What can be observed besides a result is which
patterns were searched for, so an evaluation returns its result together with the
places of the searches, in the order in which they happened.

Key definition: `Traced`.
-/

namespace TagRules

/-- A result, and the places of the patterns that were searched for to get it. -/
structure Traced (ι α : Type) where
  result : α
  searches : List ι
deriving DecidableEq, Repr

namespace Traced

/-- A result that took no search. -/
def pure {ι α : Type} (a : α) : Traced ι α := ⟨a, []⟩

/-- Change the result. -/
def map {ι α β : Type} (f : α → β) (x : Traced ι α) : Traced ι β := ⟨f x.result, x.searches⟩

/-- Name the places of the searches differently. -/
def relabel {ι κ α : Type} (f : ι → κ) (x : Traced ι α) : Traced κ α :=
  ⟨x.result, x.searches.map f⟩

/-- Go on from a result; the searches of both stages count. -/
def andThen {ι α β : Type} (x : Traced ι α) (f : α → Traced ι β) : Traced ι β :=
  let y := f x.result
  ⟨y.result, x.searches ++ y.searches⟩

@[simp]
theorem result_pure {ι α : Type} (a : α) : (pure a : Traced ι α).result = a := rfl

@[simp]
theorem result_map {ι α β : Type} (f : α → β) (x : Traced ι α) :
    (x.map f).result = f x.result := rfl

@[simp]
theorem result_relabel {ι κ α : Type} (f : ι → κ) (x : Traced ι α) :
    (x.relabel f).result = x.result := rfl

@[simp]
theorem result_andThen {ι α β : Type} (x : Traced ι α) (f : α → Traced ι β) :
    (x.andThen f).result = (f x.result).result := rfl

@[simp]
theorem searches_pure {ι α : Type} (a : α) : (pure a : Traced ι α).searches = [] := rfl

@[simp]
theorem searches_map {ι α β : Type} (f : α → β) (x : Traced ι α) :
    (x.map f).searches = x.searches := rfl

@[simp]
theorem searches_relabel {ι κ α : Type} (f : ι → κ) (x : Traced ι α) :
    (x.relabel f).searches = x.searches.map f := rfl

@[simp]
theorem searches_andThen {ι α β : Type} (x : Traced ι α) (f : α → Traced ι β) :
    (x.andThen f).searches = x.searches ++ (f x.result).searches := rfl

end Traced

end TagRules
