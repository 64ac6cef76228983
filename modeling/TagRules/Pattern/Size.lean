/-
# The size of programs

The size, in bytes, of the program for an expression that works on the bytes of a text
from its end to its start. It is taken before the program is made, so that a pattern
with nested repetition is refused without writing it out.

A set of characters is spelled by sequences of ranges of bytes. Sequences that start
alike share the instructions for what they have in common.

Key definitions: `CharSet.spellings`, `Regex.size`.
-/
import TagRules.Pattern.Syntax

namespace TagRules.Pattern

/-- The size of one instruction. -/
def instructionSize : Nat := 32

/-- The size of one way to go on, in an instruction that has several. -/
def branchSize : Nat := 4

/-- The size of one range, in an instruction that has several. -/
def rangeSize : Nat := 8

/-- A stretch of characters that are spelled with the same number of bytes. -/
structure Width where
  first : Nat
  last : Nat
  /-- the number of bytes after the first one -/
  more : Nat
  /-- what the first byte is counted from -/
  lead : Nat
deriving Repr

/-- The widths of characters. -/
def widths : List Width :=
  [⟨0, 0x7F, 0, 0⟩, ⟨0x80, 0x7FF, 1, 0xC0⟩, ⟨0x800, 0xD7FF, 2, 0xE0⟩, ⟨0xE000, 0xFFFF, 2, 0xE0⟩,
   ⟨0x10000, 0x10FFFF, 3, 0xF0⟩]

/-- The sequences of ranges that spell the numbers from `a` to `b`, each with a first
digit, which is counted from `lead`, and `more` digits to the base 64. -/
def spell (lead : Nat) : Nat → Nat → Nat → List (List (Nat × Nat))
  | 0, a, b => [[(lead + a, lead + b)]]
  | more + 1, a, b =>
    let block := Nat.pow 64 (more + 1)
    let head (n : Nat) := (lead + n, lead + n)
    if a / block = b / block then (spell 0 more (a % block) (b % block)).map (head (a / block) :: ·)
    else
      let (start, before) :=
        if a % block = 0 then (a / block, [])
        else (a / block + 1, (spell 0 more (a % block) (block - 1)).map (head (a / block) :: ·))
      let (stop, after) :=
        if b % block = block - 1 then (b / block + 1, [])
        else (b / block, (spell 0 more 0 (b % block)).map (head (b / block) :: ·))
      let between :=
        if start < stop then [(lead + start, lead + stop - 1) :: List.replicate (more + 1) (0, 63)]
        else []
      before ++ between ++ after

/-- The sequences of ranges that spell the characters of a range with the same width. -/
def Width.spell (w : Width) (r : Nat × Nat) : List (List (Nat × Nat)) :=
  let a := max w.first r.1
  let b := min w.last r.2
  if a ≤ b then Pattern.spell w.lead w.more a b else []

/-- The sequences of ranges of bytes that spell the characters of a set. -/
def CharSet.spellings (s : CharSet) : List (List (Nat × Nat)) :=
  widths.flatMap fun w => s.ranges.flatMap w.spell

/-- The number of instructions for sequences, if each shares those at its start with the
one before it. -/
def sharedLength (before : List (Nat × Nat)) : List (List (Nat × Nat)) → Nat
  | [] => 0
  | s :: rest =>
    let common := ((before.zip s).takeWhile fun e => e.1 = e.2).length
    s.length - common + sharedLength s rest

/-- The size of what reads one character of a set. -/
def CharSet.size (s : CharSet) : Nat :=
  match s.ranges with
  | [] => instructionSize
  | [(a, b)] =>
    if a = b then (Char.ofNat a).utf8Size * instructionSize else several
  | _ => several
where
  /-- The size for a set of several characters. -/
  several : Nat :=
    if s.greatest < 0x80 then 2 * instructionSize + s.ranges.length * rangeSize
    else
      let sequences := s.spellings
      (sharedLength [] sequences + 2) * instructionSize + sequences.length * branchSize

/-- The size of an instruction that goes on in two ways. -/
def forkSize : Nat := instructionSize + 2 * branchSize

/-- The size of the program for an expression. -/
def Regex.size : Regex → Nat
  | .empty => instructionSize
  | .chars s => s.size
  | .look _ => instructionSize
  | .group r => 2 * instructionSize + r.size
  | .cat r s => r.size + s.size
  | .alt r (.alt s t) => branchSize + r.size + (Regex.alt s t).size
  | .alt r s => forkSize + instructionSize + r.size + s.size
  | .rep r least none => max 1 least * r.size + forkSize
  | .rep r least (some most) =>
    if least = most then max instructionSize (least * r.size)
    else most * r.size + (most - least) * forkSize + instructionSize

end TagRules.Pattern
