/-
# Patterns

A pattern is a text that a library of regular expressions has made into a search. It keeps the
text, because messages and selectors quote it. A pattern is looked for anywhere in a value.

Which texts are patterns, how large their programs are and what they find is up to the library.
Catalogs are built with any library. All that is known of it is that it is a function: asked again
for a text, it gives the same search.

Key definitions: `PatternLibrary`, `PatternLimits`, `Pattern`.
-/

namespace TagRules

/-- A library of regular expressions. -/
structure PatternLibrary where
  /-- The search for a text, if the text is a regular expression whose program has at most
  `programSize` bytes. The search says whether there is a match anywhere in a value. -/
  compile? : (programSize : Nat) → (source : String) → Option (String → Bool)

/-- Bounds on the patterns of a catalog, in bytes. -/
structure PatternLimits where
  /-- the size of the program -/
  programSize : Nat
  /-- the length of the text -/
  sourceLength : Nat
deriving DecidableEq, Repr

namespace PatternLimits

/-- The bounds that hold unless others are given. -/
def standard : PatternLimits := ⟨1024 * 1024, 4096⟩

end PatternLimits

/-- A pattern that is ready for searching. -/
structure Pattern where
  /-- The text of the pattern. -/
  source : String
  /-- Whether the pattern is found in a value. -/
  found : String → Bool

instance : Repr Pattern := ⟨fun p _ => repr p.source⟩

end TagRules
