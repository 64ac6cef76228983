/-
# White space

The characters with the Unicode property White_Space, and texts without their
leading white space.

Key definitions: `Text.isBlank`, `Text.dropBlank`.
-/

namespace TagRules.Text

/-- Whether a character is white space in Unicode's sense. -/
def isBlank (c : Char) : Bool :=
  let n := c.toNat
  (0x09 ≤ n && n ≤ 0x0D) || n == 0x20 || n == 0x85 || n == 0xA0 || n == 0x1680
    || (0x2000 ≤ n && n ≤ 0x200A) || n == 0x2028 || n == 0x2029 || n == 0x202F
    || n == 0x205F || n == 0x3000

/-- A text without its leading white space. -/
def dropBlank (cs : List Char) : List Char := cs.dropWhile isBlank

end TagRules.Text
