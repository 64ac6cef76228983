/-
# Escapes in patterns

What stands after a backslash: an escaped character, a character by its code, a
class, or a condition on a place. Escapes without a meaning are errors, and so are
references to groups.

Key definitions: `Escape`, `Escape.read?`.
-/
import TagRules.Pattern.Flags
import TagRules.Pattern.Property
import TagRules.Pattern.Syntax

namespace TagRules.Pattern

/-- The meaning of an escape. -/
inductive Escape
  | char (c : Char)
  | set (s : CharSet)
  | look (l : Look)
deriving Repr

namespace Escape

/-- Read to the closing brace; in a spaced pattern, without blanks and comments. -/
def braced? (spaced inComment : Bool) : List Char → Option (List Char × List Char)
  | [] => none
  | c :: cs =>
    if inComment then braced? spaced (c ≠ '\n') cs
    else if spaced && Text.isBlank c then braced? spaced false cs
    else if spaced && c = '#' then braced? spaced true cs
    else if c = '\x7d' then some ([], cs)
    else (braced? spaced false cs).map fun r => (c :: r.1, r.2)

/-- Read a fixed number of characters; in a spaced pattern, without blanks and comments. -/
def fixed? (f : Flags) : Nat → List Char → Option (List Char × List Char)
  | 0, cs => some ([], cs)
  | n + 1, cs =>
    match f.gap cs with
    | [] => none
    | c :: rest => (fixed? f n rest).map fun r => (c :: r.1, r.2)

/-- The character whose code is spelled by hexadecimal digits. -/
def codeChar? (digits : List Char) : Option Char :=
  (Text.hexNumber? digits).bind Text.charOfCode?

/-- A character by its code: in braces, or with a fixed number of digits. Without Unicode two
digits are a byte, which has to be a character of its own. -/
def code? (f : Flags) (width : Nat) (cs : List Char) : Option (Escape × List Char) := do
  let (digits, inBraces, rest) ← match f.gap cs with
    | '\x7b' :: cs => (braced? f.spaced false cs).map fun r => (r.1, true, r.2)
    | cs => (fixed? f width cs).map fun r => (r.1, false, r.2)
  let c ← codeChar? digits
  if !f.unicode && !inBraces && width = 2 && 0x80 ≤ c.toNat then none
  else pure (.char c, f.gap rest)

/-- A set as the flags and a negation change it. -/
def adjust (f : Flags) (negated : Bool) (s : CharSet) : CharSet :=
  if negated then f.compl (f.fold s) else f.fold s

/-- The set that a property in braces describes: a name, or a name and a value. -/
def describedSet? (text : List Char) : Option (Bool × CharSet) := do
  let name := text.takeWhile fun c => c ≠ ':' ∧ c ≠ '='
  match text.drop name.length with
  | [] => let s ← property? (String.ofList name); pure (false, s)
  | '=' :: value =>
    if name.getLast? = some '!' then
      let s ← propertyValue? (String.ofList name.dropLast) (String.ofList value)
      pure (true, s)
    else
      let s ← propertyValue? (String.ofList name) (String.ofList value)
      pure (false, s)
  | _ :: value =>
    let s ← propertyValue? (String.ofList name) (String.ofList value)
    pure (false, s)

/-- A class of characters with a Unicode property. -/
def propertySet? (f : Flags) (negated : Bool) (cs : List Char) : Option (Escape × List Char) :=
  if !f.unicode then none
  else
    match f.gap cs with
    | [] => none
    | '\x7b' :: cs => do
      let (text, rest) ← braced? f.spaced false cs
      let (differs, s) ← describedSet? text
      pure (.set (adjust f (negated != differs) s), rest)
    | c :: rest => do
      let s ← if c = '\\' then none else property? (String.singleton c)
      pure (.set (adjust f negated s), f.gap rest)

/-- The class of a letter such as `d`, negated if the letter is a capital. -/
def classSet (f : Flags) (letter : Char) : CharSet :=
  let s := match letter.toLower with
    | 'd' => if f.unicode then digit else asciiDigit
    | 's' => if f.unicode then blank else asciiBlank
    | _ => if f.unicode then word else asciiWord
  if letter.isUpper then f.compl s else s

/-- Whether a character may stand in the name of a condition on word edges. -/
def isEdgeNameChar (c : Char) : Bool := c = '-' || ('a' ≤ c && c ≤ 'z') || ('A' ≤ c && c ≤ 'Z')

/-- A condition on word edges: `\b`, perhaps with the name of a kind in braces. Braces
with anything else are left for repetition. -/
def wordEdge? (f : Flags) (cs : List Char) : Option (Escape × List Char) :=
  let plain := some (Escape.look (.wordEdge !f.unicode), cs)
  match cs with
  | '\x7b' :: rest =>
    match f.gap rest with
    | [] => none
    | c :: _ =>
      if !isEdgeNameChar c then plain
      else do
        let (name, rest) ← braced? f.spaced false rest
        match String.ofList name with
        | "start" => pure (.look (.wordStart !f.unicode), rest)
        | "end" => pure (.look (.wordEnd !f.unicode), rest)
        | "start-half" => pure (.look (.noWordBefore !f.unicode), rest)
        | "end-half" => pure (.look (.noWordAfter !f.unicode), rest)
        | _ => none
  | _ => plain

/-- Whether a character stands for itself after a backslash: ASCII, and neither a
letter, nor a digit, nor an angle bracket. -/
def isPlain (c : Char) : Bool := c.toNat < 0x80 && !c.isAlphanum && c ≠ '<' && c ≠ '>'

/-- Read the rest of an escape, after its backslash. -/
def read? (f : Flags) : List Char → Option (Escape × List Char)
  | [] => none
  | c :: cs =>
    match c with
    | 'x' => code? f 2 cs
    | 'u' => code? f 4 cs
    | 'U' => code? f 8 cs
    | 'p' => propertySet? f false cs
    | 'P' => propertySet? f true cs
    | 'd' | 's' | 'w' | 'D' | 'S' | 'W' => some (.set (classSet f c), cs)
    | 'a' => some (.char '\x07', cs)
    | 'f' => some (.char '\x0c', cs)
    | 't' => some (.char '\t', cs)
    | 'n' => some (.char '\n', cs)
    | 'r' => some (.char '\r', cs)
    | 'v' => some (.char '\x0b', cs)
    | 'A' => some (.look .textStart, cs)
    | 'z' => some (.look .textEnd, cs)
    | 'b' => wordEdge? f cs
    | 'B' => some (.look (.notWordEdge !f.unicode), cs)
    | '<' => some (.look (.wordStart !f.unicode), cs)
    | '>' => some (.look (.wordEnd !f.unicode), cs)
    | _ => if isPlain c then some (.char c, cs) else none

end Escape

end TagRules.Pattern
