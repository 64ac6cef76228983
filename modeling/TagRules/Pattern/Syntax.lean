/-
# Regular expressions

A regular expression without the spelling: which texts match does not depend on
whether repetition is greedy, so it is left out, and sets of characters are what
is left of classes, escapes and letter case.

Key definitions: `Look`, `Regex`.
-/
import TagRules.Pattern.CharSet

namespace TagRules.Pattern

/-- Conditions on the place between two characters. -/
inductive Look
  /-- the start of the text -/
  | textStart
  /-- the end of the text -/
  | textEnd
  /-- the start of a line -/
  | lineStart
  /-- the end of a line -/
  | lineEnd
  /-- the start of a line that ends with a carriage return, a line feed or both -/
  | anyLineStart
  /-- the end of such a line -/
  | anyLineEnd
  /-- a word character on one side only -/
  | wordEdge (ascii : Bool)
  /-- a word character on both sides or on neither -/
  | notWordEdge (ascii : Bool)
  /-- a word character only after -/
  | wordStart (ascii : Bool)
  /-- a word character only before -/
  | wordEnd (ascii : Bool)
  /-- no word character before -/
  | noWordBefore (ascii : Bool)
  /-- no word character after -/
  | noWordAfter (ascii : Bool)
deriving DecidableEq, Repr

/-- A regular expression. -/
inductive Regex
  /-- the empty text -/
  | empty
  /-- one character of a set -/
  | chars (s : CharSet)
  /-- the empty text, where a condition holds -/
  | look (l : Look)
  /-- a capture group -/
  | group (r : Regex)
  /-- one after the other -/
  | cat (r s : Regex)
  /-- either -/
  | alt (r s : Regex)
  /-- repetition, from `least` times to `most` times -/
  | rep (r : Regex) (least : Nat) (most : Option Nat)
deriving Repr, Inhabited

namespace Regex

/-- Expressions one after the other. -/
def seq : List Regex → Regex
  | [] => .empty
  | [r] => r
  | r :: rs => .cat r (seq rs)

/-- One of several expressions. -/
def oneOf : List Regex → Regex
  | [] => .empty
  | [r] => r
  | r :: rs => .alt r (oneOf rs)

end Regex

end TagRules.Pattern
