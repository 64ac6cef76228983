/-
# Programs that search

An expression compiles to a program: a row of instructions, each of which names the
instructions to go on with. The program runs along a text with the set of
instructions that it may be at, so a search takes time in proportion to the length
of the text times the length of the program.

Key definitions: `Program.ofRegex`, `Program.search`.
-/
import TagRules.Pattern.Property
import TagRules.Pattern.Syntax

namespace TagRules.Pattern

/-- One instruction. -/
inductive Instruction
  /-- read one character of a set -/
  | read (s : CharSet) (next : Nat)
  /-- go on in two ways -/
  | fork (a b : Nat)
  /-- go on if a condition holds -/
  | require (l : Look) (next : Nat)
  /-- the text matches -/
  | accept
deriving Repr, Inhabited

/-- A row of instructions, and where to start. -/
structure Program where
  code : Array Instruction
  start : Nat
deriving Repr, Inhabited

namespace Program

/-- Repeat a way of putting instructions in front of others. -/
def times : Nat → (Nat × Array Instruction → Nat × Array Instruction) →
    Nat × Array Instruction → Nat × Array Instruction
  | 0, _, x => x
  | n + 1, f, x => times n f (f x)

/-- Add the instructions of an expression that goes on with instruction `next`. The first
of them is returned. -/
def emit : Regex → Nat × Array Instruction → Nat × Array Instruction
  | .empty, x => x
  | .chars s, (next, code) => (code.size, code.push (.read s next))
  | .look l, (next, code) => (code.size, code.push (.require l next))
  | .group r, x => emit r x
  | .cat r s, x => emit r (emit s x)
  | .alt r s, (next, code) =>
    let (a, code) := emit r (next, code)
    let (b, code) := emit s (next, code)
    (code.size, code.push (.fork a b))
  | .rep r least most, x =>
    let tail := match most with
      | none =>
        let loop := x.2.size
        let (a, code) := emit r (loop, x.2.push (.fork loop x.1))
        (loop, code.setIfInBounds loop (.fork a x.1))
      | some most =>
        times (most - least) (fun (next, code) =>
          let (a, code) := emit r (next, code)
          (code.size, code.push (.fork a x.1))) x
    times least (emit r) tail

/-- The program of an expression. -/
def ofRegex (r : Regex) : Program :=
  let (start, code) := emit r (0, #[.accept])
  ⟨code, start⟩

/-- Whether a character is one of words. -/
def isWordChar (ascii : Bool) (c : Char) : Bool :=
  if ascii || c.toNat < 0x80 then asciiWord.contains c else word.contains c

/-- Whether a condition holds between two characters; at the ends of the text one of them
is missing. -/
def holds (before after : Option Char) : Look → Bool
  | .textStart => before.isNone
  | .textEnd => after.isNone
  | .lineStart => before.all (· = '\n')
  | .lineEnd => after.all (· = '\n')
  | .anyLineStart => before.all fun c => c = '\n' || (c = '\r' && after != some '\n')
  | .anyLineEnd => after.all fun c => c = '\r' || (c = '\n' && before != some '\r')
  | .wordEdge ascii => before.any (isWordChar ascii) != after.any (isWordChar ascii)
  | .notWordEdge ascii => before.any (isWordChar ascii) == after.any (isWordChar ascii)
  | .wordStart ascii => !before.any (isWordChar ascii) && after.any (isWordChar ascii)
  | .wordEnd ascii => before.any (isWordChar ascii) && !after.any (isWordChar ascii)
  | .noWordBefore ascii => !before.any (isWordChar ascii)
  | .noWordAfter ascii => !after.any (isWordChar ascii)

/-- The instructions that a program may be at between two characters. -/
structure Front where
  /-- for each instruction, the round in which it was last reached -/
  reached : Array Nat
  /-- the sets that may be read next, with how to go on -/
  reads : List (CharSet × Nat)
  accepts : Bool

/-- Follow instructions that read nothing. An instruction is followed once in a round and
adds at most two others, so twice the length of the program, and the instructions at
the start, are enough fuel. -/
def follow (code : Array Instruction) (round : Nat) (before after : Option Char) :
    Nat → List Nat → Front → Front
  | 0, _, front => front
  | _, [], front => front
  | fuel + 1, i :: todo, ⟨reached, reads, accepts⟩ =>
    if reached[i]? = some round then
      follow code round before after fuel todo ⟨reached, reads, accepts⟩
    else
      let reached := reached.setIfInBounds i round
      match code[i]? with
      | none => follow code round before after fuel todo ⟨reached, reads, accepts⟩
      | some (.read s next) =>
        follow code round before after fuel todo ⟨reached, (s, next) :: reads, accepts⟩
      | some (.fork a b) =>
        follow code round before after fuel (a :: b :: todo) ⟨reached, reads, accepts⟩
      | some (.require l next) =>
        let todo := if holds before after l then next :: todo else todo
        follow code round before after fuel todo ⟨reached, reads, accepts⟩
      | some .accept => ⟨reached, reads, true⟩

/-- Search from between two characters on, going on with the instructions `todo` and also
starting anew. Rounds are counted from 1. -/
def searchFrom (p : Program) (round : Nat) (before : Option Char) (todo : List Nat)
    (reached : Array Nat) : List Char → Bool
  | [] =>
    let todo := todo ++ [p.start]
    let fuel := 2 * p.code.size + todo.length
    (follow p.code round before none fuel todo ⟨reached, [], false⟩).accepts
  | c :: cs =>
    let todo := todo ++ [p.start]
    let fuel := 2 * p.code.size + todo.length
    let front := follow p.code round before (some c) fuel todo ⟨reached, [], false⟩
    front.accepts ||
      searchFrom p (round + 1) (some c)
        (front.reads.filterMap fun (s, next) => if s.contains c then some next else none)
        front.reached cs

/-- Whether a program finds a match anywhere in a text. -/
def search (p : Program) (text : String) : Bool :=
  searchFrom p 1 none [] (Array.replicate p.code.size 0) text.toList

end Program

end TagRules.Pattern
