/-
# Classes in brackets

A class in brackets is the union of its items: characters, ranges, escapes, named
ASCII classes and nested brackets. Two unions can be joined by `&&` (in both), `--`
(in the first only) and `~~` (in one only), from left to right. Under the flag `i`
the operands and the result take in the other cases of their letters, and only then
is the class negated. Without Unicode no item may hold bytes that are no characters of their
own.

Key definitions: `Brackets.Union`, `Brackets.read?`.
-/
import TagRules.Pattern.Escape

namespace TagRules.Pattern.Brackets

/-- The operations between unions of items. -/
inductive Operation
  | inter
  | diff
  | symmDiff
deriving DecidableEq, Repr

def Operation.apply : Operation → CharSet → CharSet → CharSet
  | .inter, s, t => s.inter t
  | .diff, s, t => s.diff t
  | .symmDiff, s, t => s.symmDiff t

/-- The items read so far: their union, their number, and how deeply they nest. -/
structure Union where
  set : CharSet
  items : Nat
  depth : Nat
deriving Repr

namespace Union

def none : Union := ⟨.empty, 0, 0⟩

def add (u : Union) (s : CharSet) (depth : Nat) : Union :=
  ⟨u.set.union s, u.items + 1, max u.depth depth⟩

/-- The nesting of the union; several items count as a level of their own. -/
def nesting (u : Union) : Nat := if 2 ≤ u.items then u.depth + 1 else u.depth

end Union

/-- What is open around the items that are being read. -/
inductive Frame
  /-- brackets, with the items before them -/
  | bracket (outer : Union) (negated : Bool)
  /-- an operation, with its left operand and how deeply that nests -/
  | operation (op : Operation) (left : CharSet) (depth : Nat)
deriving Repr

/-- An item that stands for one character, as it may end a range. -/
inductive Atom
  | char (c : Char)
  | set (s : CharSet)
deriving Repr

/-- Read an atom. -/
def atom? (f : Flags) : List Char → Option (Atom × List Char)
  | [] => none
  | '\\' :: cs => do
    let (e, rest) ← Escape.read? f cs
    match e with
    | .char c => pure (.char c, rest)
    | .set s => pure (.set s, rest)
    | .look _ => none
  | c :: cs => some (.char c, cs)

/-- The code point that an atom puts into a class. Without Unicode, a class holds bytes, and
only ASCII characters are bytes. -/
def Atom.code? (f : Flags) : Atom → Option Nat
  | .char c => if f.unicode || c.toNat < 0x80 then some c.toNat else none
  | .set _ => none

/-- The set of an atom that stands alone. -/
def Atom.set? (f : Flags) : Atom → Option CharSet
  | .set s => f.class? s
  | a => (a.code? f).map fun n => .range n n

/-- Read an atom, or a range between two of them. A dash before a closing bracket or
another dash is no range. -/
def item? (f : Flags) (cs : List Char) : Option (CharSet × List Char) := do
  let (first, rest) ← atom? f cs
  match f.gap rest with
  | [] => none
  | '-' :: after =>
    match f.gap after with
    | [] => none
    | ']' :: _ | '-' :: _ => let s ← first.set? f; pure (s, '-' :: after)
    | after => do
      let (last, rest) ← atom? f after
      let a ← first.code? f
      let b ← last.code? f
      if a ≤ b then pure (.range a b, rest) else none
  | rest => let s ← first.set? f; pure (s, rest)

/-- Read a named ASCII class, after its opening bracket. -/
def asciiClass? (f : Flags) (cs : List Char) : Option (CharSet × List Char) := do
  let afterColon ← match cs with
    | ':' :: cs => some cs
    | _ => none
  let (negated, cs) := match afterColon with
    | '^' :: cs => (true, cs)
    | cs => (false, cs)
  let name := cs.takeWhile (· ≠ ':')
  match cs.drop name.length with
  | ':' :: ']' :: rest =>
    let s ← TagRules.Pattern.asciiClass? (String.ofList name)
    pure (Escape.adjust f negated s, rest)
  | _ => none

/-- Read dashes at the start of brackets; they stand for themselves. -/
def dashes (f : Flags) : Nat → Union → List Char → Union × List Char
  | 0, u, cs => (u, cs)
  | n + 1, u, cs =>
    match cs with
    | '-' :: rest => dashes f n (u.add (.single '-') 0) (f.gap rest)
    | cs => (u, cs)

/-- Open brackets, after the bracket itself: whether they are negated, and the items
that may only stand first. -/
def opening (f : Flags) (cs : List Char) : Bool × Union × List Char :=
  let (negated, cs) := match f.gap cs with
    | '^' :: cs => (true, f.gap cs)
    | cs => (false, cs)
  match dashes f cs.length .none cs with
  | (u, ']' :: rest) =>
    if u.items = 0 then (negated, u.add (.single ']') 0, f.gap rest) else (negated, u, ']' :: rest)
  | (u, cs) => (negated, u, cs)

/-- Close the operation that is open around a union, if there is one. -/
def reduce (f : Flags) (u : Union) : List Frame → (CharSet × Nat) × List Frame
  | .operation op left depth :: frames =>
    ((op.apply (f.fold left) (f.fold u.set), max depth u.nesting + 1), frames)
  | frames => ((u.set, u.nesting), frames)

/-- The class that brackets stand for, given what is in them. -/
def close? (f : Flags) (negated : Bool) (s : CharSet) : Option CharSet :=
  f.class? (Escape.adjust f negated s)

/-- Read items until the outermost brackets close: the class, how deeply it nests, and
the rest. Each step reads a character or more, so the length of the text is enough
fuel. -/
def items? (f : Flags) :
    Nat → List Frame → Union → List Char → Option (CharSet × Nat × List Char)
  | 0, _, _, _ => none
  | fuel + 1, frames, u, cs =>
    match f.gap cs with
    | [] => none
    | '[' :: cs =>
      match asciiClass? f cs with
      | some (s, rest) =>
        match f.class? s with
        | none => none
        | some s => items? f fuel frames (u.add s 0) rest
      | none =>
        let (negated, inner, rest) := opening f cs
        items? f fuel (.bracket u negated :: frames) inner rest
    | ']' :: rest =>
      let ((s, depth), frames) := reduce f u frames
      match frames with
      | [.bracket _ negated] => do
        let s ← close? f negated s
        pure (s, depth + 1, rest)
      | .bracket outer negated :: frames =>
        match close? f negated s with
        | none => none
        | some s => items? f fuel frames (outer.add s (depth + 1)) rest
      | _ => none
    | '&' :: '&' :: rest => operator f fuel .inter frames u rest
    | '-' :: '-' :: rest => operator f fuel .diff frames u rest
    | '~' :: '~' :: rest => operator f fuel .symmDiff frames u rest
    | cs =>
      match item? f cs with
      | none => none
      | some (s, rest) => items? f fuel frames (u.add s 0) rest
where
  /-- Go on after an operator. -/
  operator (f : Flags) (fuel : Nat) (op : Operation) (frames : List Frame) (u : Union)
      (rest : List Char) : Option (CharSet × Nat × List Char) :=
    let ((s, depth), frames) := reduce f u frames
    items? f fuel (.operation op s depth :: frames) .none rest

/-- Read a class in brackets, after the opening bracket. -/
def read? (f : Flags) (cs : List Char) : Option (CharSet × Nat × List Char) :=
  let (negated, u, rest) := opening f cs
  items? f (cs.length + 1) [.bracket .none negated] u rest

end TagRules.Pattern.Brackets
