/-
# An engine for regular expressions

A library of patterns: a text is read, and becomes a program that runs along a value. The size of
the program is taken first, so that large ones are refused without being made. A pattern that is
searched for as a few literal texts has no program, so no bound applies to it.

Key definition: `PatternLibrary.engine`.
-/
import TagRules.Pattern
import TagRules.Pattern.Literal
import TagRules.Pattern.Program
import TagRules.Pattern.Reader
import TagRules.Pattern.Size

namespace TagRules

open Pattern in
/-- The library that reads regular expressions and makes programs of them. -/
def PatternLibrary.engine : PatternLibrary where
  compile? programSize source := do
    let r ← Regex.read? source
    if isLiteralSearch r || r.size ≤ programSize then pure (Program.ofRegex r).search else none

end TagRules
