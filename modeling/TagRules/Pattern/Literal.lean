/-
# Patterns that are lists of literals

A pattern that stands for a few literal texts is searched for as those texts and
needs no program of its own. `Regex.texts?` lists the texts of an expression, best
first, as long as they are few and the expression has no groups and no conditions.
`isLiteralSearch` says when the list is searched for as it stands: not if a text is
empty, and not if looking for the starts of the texts finds candidates faster, that
is, for texts with a common start that is long or begins with a rare character, and
for more than ten texts.

Key definitions: `Regex.texts?`, `isLiteralSearch`.
-/
import TagRules.Pattern.Syntax

namespace TagRules.Pattern

/-- The most texts that a class may stand for. -/
def classTextLimit : Nat := 10

/-- The most times that a repetition is written out. -/
def repeatTextLimit : Nat := 10

/-- The most bytes of one text. -/
def textLengthLimit : Nat := 100

/-- The most texts of an expression. -/
def textCountLimit : Nat := 250

/-- The characters of a set, if there are few. -/
def CharSet.few? (s : CharSet) : Option (List Char) :=
  if s.count ≤ classTextLimit then
    (s.ranges.flatMap fun r => (List.range (r.2 + 1 - r.1)).map (r.1 + ·)).mapM Text.charOfCode?
  else none

/-- Texts, if they are few and short enough. -/
def fewTexts? (texts : List (List Char)) : Option (List (List Char)) :=
  if texts.length ≤ textCountLimit
      && texts.all fun t => t.foldl (fun n c => n + c.utf8Size) 0 ≤ textLengthLimit then some texts
  else none

/-- All texts of a first list followed by a second. -/
def eachThen (ss ts : List (List Char)) : List (List Char) := ss.flatMap fun s => ts.map (s ++ ·)

/-- The texts that an expression stands for, if they can be listed. -/
def Regex.texts? : Regex → Option (List (List Char))
  | .empty => some [[]]
  | .chars s => s.few?.map fun cs => cs.map fun c => [c]
  | .look _ => none
  | .group _ => none
  | .cat r s => do fewTexts? (eachThen (← r.texts?) (← s.texts?))
  | .alt r s => do fewTexts? ((← r.texts?) ++ (← s.texts?))
  | .rep r least most => do
    let ts ← r.texts?
    if least = 0 ∧ most = some 1 then fewTexts? (ts ++ [[]])
    else if most = some least ∧ least ≤ repeatTextLimit then
      (List.replicate least ts).foldlM (fun acc ts => fewTexts? (eachThen acc ts)) [[]]
    else none

/-- Drop the texts that start with an earlier one: where they match, it matches too. -/
def dropCovered {α : Type} [DecidableEq α] (kept : List (List α)) : List (List α) → List (List α)
  | [] => kept.reverse
  | t :: ts => if kept.any (·.isPrefixOf t) then dropCovered kept ts else dropCovered (t :: kept) ts

/-- The common start of two lists. -/
def commonStart {α : Type} [DecidableEq α] : List α → List α → List α
  | x :: xs, y :: ys => if x = y then x :: commonStart xs ys else []
  | _, _ => []

/-- The characters of ASCII that are common in texts. -/
def commonChars : List Char := "\n\r (),-./0129:_abcdefghilmnoprstuvxy|".toList

/-- Whether a byte is rare in texts. -/
def isRare (b : UInt8) : Bool := b < 0x80 && !commonChars.any fun c => c.toNat.toUInt8 = b

/-- Whether the common start of texts is what to look for. `several` says whether there
was more than one text, covered ones included. -/
def looksForStart (several : Bool) : List (List UInt8) → Bool
  | [] => false
  | t :: rest =>
    let start := rest.foldl commonStart t
    let rare := several && start.length ≤ 3 && start.head?.any isRare
    let long := 4 < start.length || (1 < start.length && 16 < rest.length + 1)
    (rare && (t :: rest).any (1 < ·.length)) || (long && (t :: rest).any (start.length < ·.length))

/-- Cut texts off after `n` bytes if there are more than `limit` of them. -/
def cutStarts (n limit : Nat) (texts : List (List UInt8)) : List (List UInt8) :=
  if texts.length ≤ limit then texts else dropCovered [] (texts.map (·.take n))

/-- Whether the starts of many texts are what to look for. Starts that are very short, or
still very many, are of no use. -/
def looksForStarts (texts : List (List UInt8)) : Bool :=
  let starts := cutStarts 3 64 (cutStarts 4 10 (cutStarts 5 10 texts))
  starts != texts && starts.length ≤ 64 && starts.all (2 < ·.length)

/-- Whether an expression is searched for as a list of texts. -/
def isLiteralSearch (r : Regex) : Bool :=
  match r.texts? with
  | none | some [] => false
  | some texts =>
    if texts.any (·.isEmpty) then false
    else
      let kept := (dropCovered [] texts).map fun t => (String.ofList t).toUTF8.toList
      !looksForStart (1 < texts.length) kept && !looksForStarts kept

end TagRules.Pattern
