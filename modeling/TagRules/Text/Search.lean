/-
# Contiguous parts of a text

Key definition: `occursIn`.
-/

namespace TagRules.Text

/-- Whether one list of characters occurs in another without gaps. -/
def occursIn (part : List Char) : List Char → Bool
  | [] => part.isEmpty
  | c :: cs => part.isPrefixOf (c :: cs) || occursIn part cs

/-- Whether a text has another as a contiguous part. -/
def hasPart (text part : String) : Bool := occursIn part.toList text.toList

theorem occursIn_iff_isInfix (part : List Char) (cs : List Char) :
    occursIn part cs = true ↔ part <:+: cs := by
  induction cs with
  | nil => simp [occursIn]
  | cons c cs ih => simp only [occursIn, Bool.or_eq_true, List.isPrefixOf_iff_prefix, ih,
      List.infix_cons_iff]

end TagRules.Text
