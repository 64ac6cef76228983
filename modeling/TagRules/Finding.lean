/-
# Findings

A finding is one diagnostic for one feature: the class of the rule, the subclass
of the clause that matched, and the message.

Key definitions: `Finding`, `Finding.line`.
-/

namespace TagRules

/-- One diagnostic for one feature. -/
structure Finding where
  /-- The class of the rule. -/
  classId : UInt32
  /-- The fingerprint of the clause that matched; it stays the same between runs. -/
  subclass : UInt32
  /-- The message, with the captured tags filled in. -/
  text : String
deriving DecidableEq, Repr

namespace Finding

/-- Class and subclass in brackets. -/
def label (f : Finding) : String :=
  "[" ++ toString f.classId.toNat ++ "/" ++ toString f.subclass.toNat ++ "]"

/-- The finding on one line. -/
def line (f : Finding) : String := f.label ++ " " ++ f.text

end Finding

end TagRules
