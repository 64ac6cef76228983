/-
# Message templates

A template is plain text with slot references: an opening brace, a decimal slot
number, `.key` or `.value`, a closing brace. Any other brace is plain text, except
that a brace followed by a digit, perhaps after white space, has to open a slot
reference: otherwise the template is malformed, and the error shows the text from
that brace to the next closing brace.

Reading goes from left to right, one character at a time. A template is rendered
by replacing each reference at once with what its slot holds; captured text is
not looked at again. If a slot is unbound there is no text at all.

Key definitions: `slotRef?`, `Template.pieces`, `Template.parse`,
`Template.render`.
-/
import TagRules.Capture
import TagRules.Sorted.Set
import TagRules.Text.Blank
import TagRules.Text.Decimal

namespace TagRules

open Text (isDigit decimalValue dropBlank)

/-- A brace that looks like the start of a slot reference but is none. -/
structure MalformedPlaceholder where
  /-- From the brace to the next closing brace, or to the end. -/
  text : String
deriving DecidableEq, Repr

/-- Slot numbers in a template stay below this bound. -/
def slotNumberBound : Nat := UInt64.size

/-- Read the rest of a slot reference, after its opening brace: the reference and the
number of characters read. Leading zeros of the number do not matter. -/
def slotRef? (cs : List Char) : Option (SlotRef × Nat) :=
  let digits := cs.takeWhile isDigit
  let slot := decimalValue digits
  if digits.isEmpty || slotNumberBound ≤ slot then none
  else
    match cs.drop digits.length with
    | '.' :: 'k' :: 'e' :: 'y' :: '\x7d' :: _ => some (⟨slot, .key⟩, digits.length + 5)
    | '.' :: 'v' :: 'a' :: 'l' :: 'u' :: 'e' :: '\x7d' :: _ =>
      some (⟨slot, .value⟩, digits.length + 7)
    | _ => none

/-- Whether the text after an opening brace was meant as a slot reference. -/
def looksLikeSlotRef (cs : List Char) : Bool := (dropBlank cs).head?.any isDigit

/-- The text up to the next closing brace, and with it; all of it if there is none. -/
def throughClosingBrace (cs : List Char) : List Char :=
  let body := cs.takeWhile (· ≠ '\x7d')
  body ++ (cs.drop body.length).take 1

/-- What a template is made of. -/
inductive Piece
  /-- a character of plain text -/
  | char (c : Char)
  /-- a slot reference -/
  | ref (r : SlotRef)
deriving DecidableEq, Repr

/-- A stretch of plain text, or a slot reference. -/
inductive Segment
  | text (s : String)
  | ref (r : SlotRef)
deriving DecidableEq, Repr

/-- Put plain text in front of segments, unless it is empty. The text comes with its
last character first. -/
def Segment.flush (pending : List Char) (rest : List Segment) : List Segment :=
  if pending.isEmpty then rest else .text (String.ofList pending.reverse) :: rest

/-- Join neighbouring characters into stretches of text. -/
def Segment.ofPieces (pending : List Char) : List Piece → List Segment
  | [] => flush pending []
  | .char c :: ps => ofPieces (c :: pending) ps
  | .ref r :: ps => flush pending (.ref r :: ofPieces [] ps)

/-- The text that a segment stands for. -/
def Segment.render (captures : Captures) : Segment → Except UnboundSlot String
  | .text s => .ok s
  | .ref r => captures.read r

/-- A segment as it is written in a template. -/
def Segment.source : Segment → String
  | .text s => s
  | .ref r => r.text

/-- A message template that has been read. -/
structure Template where
  /-- The text it was read from. -/
  source : String
  segments : List Segment
deriving DecidableEq, Repr

namespace Template

/-- The pieces of a text, after `skip` characters that belong to a reference read
before. -/
def pieces (skip : Nat) : List Char → Except MalformedPlaceholder (List Piece)
  | [] => .ok []
  | c :: cs =>
    match skip with
    | k + 1 => pieces k cs
    | 0 =>
      if c = '\x7b' then
        match slotRef? cs with
        | some (r, n) => (pieces n cs).map (.ref r :: ·)
        | none =>
          if looksLikeSlotRef cs then .error ⟨String.ofList (c :: throughClosingBrace cs)⟩
          else (pieces 0 cs).map (.char c :: ·)
      else (pieces 0 cs).map (.char c :: ·)

def parse (source : String) : Except MalformedPlaceholder Template :=
  (pieces 0 source.toList).map fun ps => ⟨source, Segment.ofPieces [] ps⟩

/-- The slot references, in order of appearance. -/
def placeholders (t : Template) : List SlotRef :=
  t.segments.filterMap fun
    | .ref r => some r
    | .text _ => none

def slots (t : Template) : SortedSet Nat := SortedSet.ofList (t.placeholders.map (·.slot))

/-- The message: each reference replaced by what its slot holds. The first unbound
slot, from the left, is the error. -/
def render (t : Template) (captures : Captures) : Except UnboundSlot String :=
  (t.segments.mapM (Segment.render captures)).map String.join

end Template

end TagRules
