/-
# Flags and spacing of patterns

A pattern is read under flags, which a group may change from where it stands to the
end of the enclosing group. With the flag `x`, blanks and comments between the parts
of a pattern do not count.

Key definitions: `Flags`, `Flags.set?`, `Flags.gap`.
-/
import TagRules.Pattern.Folding
import TagRules.Text.Blank

namespace TagRules.Pattern

/-- The flags under which a part of a pattern is read. -/
structure Flags where
  /-- `i`: letters match in either case -/
  ignoreCase : Bool
  /-- `m`: `^` and `$` match at the ends of lines -/
  multiLine : Bool
  /-- `s`: `.` matches a line feed too -/
  dotAll : Bool
  /-- `x`: blanks and comments do not count -/
  spaced : Bool
  /-- `u`: classes know all of Unicode -/
  unicode : Bool
  /-- `R`: a carriage return ends a line too -/
  anyLine : Bool
deriving DecidableEq, Repr

namespace Flags

/-- The flags at the start of a pattern. -/
def start : Flags := ⟨false, false, false, false, true, false⟩

/-- Switch the flag of a letter. The flag `U` swaps greedy and lazy repetition, which
does not change what matches. -/
def set? (f : Flags) (letter : Char) (on : Bool) : Option Flags :=
  match letter with
  | 'i' => some { f with ignoreCase := on }
  | 'm' => some { f with multiLine := on }
  | 's' => some { f with dotAll := on }
  | 'x' => some { f with spaced := on }
  | 'u' => some { f with unicode := on }
  | 'R' => some { f with anyLine := on }
  | 'U' => some f
  | _ => none

/-- The set with the other cases of its letters, if case does not matter. Without Unicode only
ASCII letters have cases. -/
def fold (f : Flags) (s : CharSet) : CharSet :=
  let ascii := .range 0 0x7F
  if !f.ignoreCase then s
  else if f.unicode then Folding.close s
  else s.union ((Folding.close (s.inter ascii)).inter ascii)

/-- The characters that are not in a set. Without Unicode a class is one of bytes. -/
def compl (f : Flags) (s : CharSet) : CharSet :=
  if f.unicode then s.compl else s.complUpTo 0xFF

/-- A class, unless it holds bytes that are no characters of their own. -/
def class? (f : Flags) (s : CharSet) : Option CharSet :=
  if f.unicode || s.greatest < 0x80 then some s else none

end Flags

/-- A text without the blanks and comments at its start. -/
def skipSpace (inComment : Bool) : List Char → List Char
  | [] => []
  | c :: cs =>
    if inComment then skipSpace (c ≠ '\n') cs
    else if Text.isBlank c then skipSpace false cs
    else if c = '#' then skipSpace true cs
    else c :: cs

/-- The rest of a pattern at its next part. -/
def Flags.gap (f : Flags) (cs : List Char) : List Char :=
  if f.spaced then skipSpace false cs else cs

end TagRules.Pattern
