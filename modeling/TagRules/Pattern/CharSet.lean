/-
# Sets of characters

A set of characters is a list of ranges of code points, in ascending order, with
at least one code point between a range and the next. Ranges may run over the
code points that are no characters; no text holds one.

Key definitions: `CharSet`, `CharSet.ofRanges`, `CharSet.compl`, `CharSet.union`,
`CharSet.inter`, `CharSet.ofHex`.
-/
import TagRules.Text.Decimal

namespace TagRules.Pattern

/-- A set of characters, as ascending ranges of code points with both ends included. -/
structure CharSet where
  ranges : List (Nat × Nat)
deriving DecidableEq, Repr, Inhabited

namespace CharSet

/-- The greatest code point. -/
def maxCode : Nat := 0x10FFFF

/-- Whether a code point lies in one of the ranges. -/
def covers (n : Nat) : List (Nat × Nat) → Bool
  | [] => false
  | (first, last) :: rest => if n < first then false else n ≤ last || covers n rest

/-- Whether a character is in the set. -/
def contains (s : CharSet) (c : Char) : Bool := covers c.toNat s.ranges

/-- Put a range in front of ranges that start no earlier, joining those that it meets. -/
def absorb (r : Nat × Nat) : List (Nat × Nat) → List (Nat × Nat)
  | [] => [r]
  | s :: rest => if s.1 ≤ r.2 + 1 then absorb (r.1, max r.2 s.2) rest else r :: s :: rest

/-- The union of ranges, in whatever order they come. -/
def ofRanges (l : List (Nat × Nat)) : CharSet :=
  ⟨(l.mergeSort fun a b => a.1 ≤ b.1).foldr absorb []⟩

def empty : CharSet := ⟨[]⟩

def all : CharSet := ⟨[(0, maxCode)]⟩

def single (c : Char) : CharSet := ⟨[(c.toNat, c.toNat)]⟩

/-- The characters from `first` to `last`. -/
def range (first last : Nat) : CharSet := if first ≤ last then ⟨[(first, last)]⟩ else empty

def isEmpty (s : CharSet) : Bool := s.ranges.isEmpty

/-- The number of code points in the ranges. -/
def count (s : CharSet) : Nat := s.ranges.foldl (fun n r => n + (r.2 + 1 - r.1)) 0

/-- The greatest code point in the ranges; 0 if there is none. -/
def greatest (s : CharSet) : Nat := (s.ranges.map (·.2)).foldl max 0

/-- The gaps between ascending ranges, from code point `start` to `last`. -/
def gaps (start last : Nat) : List (Nat × Nat) → List (Nat × Nat)
  | [] => if start ≤ last then [(start, last)] else []
  | r :: rest =>
    if start < r.1 then (start, r.1 - 1) :: gaps (r.2 + 1) last rest else gaps (r.2 + 1) last rest

/-- The code points up to `last` that are not in the set. -/
def complUpTo (last : Nat) (s : CharSet) : CharSet := ⟨gaps 0 last s.ranges⟩

def compl (s : CharSet) : CharSet := s.complUpTo maxCode

def union (s t : CharSet) : CharSet := ofRanges (s.ranges ++ t.ranges)

def inter (s t : CharSet) : CharSet := (s.compl.union t.compl).compl

def diff (s t : CharSet) : CharSet := s.inter t.compl

/-- The characters in exactly one of the sets. -/
def symmDiff (s t : CharSet) : CharSet := (s.diff t).union (t.diff s)

/-- One range as it stands in a table: one or two code points in hexadecimal, with a
dash between them. -/
def rangeOfHex? (text : String) : Option (Nat × Nat) := do
  match text.splitOn "-" with
  | [a] => let n ← Text.hexNumber? a.toList; pure (n, n)
  | [a, b] => let n ← Text.hexNumber? a.toList; let m ← Text.hexNumber? b.toList; pure (n, m)
  | _ => none

/-- The set that a table lists: ranges in ascending order, with a blank after each. -/
def ofHex (table : String) : CharSet := ofRanges ((table.splitOn " ").filterMap rangeOfHex?)

end CharSet

end TagRules.Pattern
