/-
# The order of texts is that of their bytes

Keys are kept in the order of their characters. UTF-8 is made so that this is also the order of the
bytes of the texts: of two characters the higher one has more bytes, and then a higher first byte,
or the same number, and then the first byte that differs is higher (`utf8EncodeChar_append_lt`). So
the first character in which two texts differ decides on their bytes as well (`utf8_lt_of_lt`), and
what is listed in ascending order is listed in ascending order of bytes (`pairwise_utf8`), lists of
texts included (`map_utf8_lt_of_lt`).

Key definition: `utf8`.
Key theorems: `utf8_lt_of_lt`, `map_utf8_lt_of_lt`, `pairwise_utf8`.
-/
import Mathlib.Data.UInt

namespace TagRules

/-- The bytes of a text. -/
def utf8 (s : String) : List UInt8 := s.toUTF8.data.toList

theorem toList_data_toByteArray (s : String) :
    s.toByteArray.data.toList = s.toList.flatMap String.utf8EncodeChar := by
  rw [← String.utf8Encode_toList, List.utf8Encode, List.data_toByteArray]

theorem utf8_eq (s : String) : utf8 s = s.toList.flatMap String.utf8EncodeChar := by
  rw [utf8, String.toUTF8_eq_toByteArray, toList_data_toByteArray]

/-- The first bytes decide, and what comes after them only if these are the same. -/
theorem ofNat_cons_lt {a b : Nat} {l l' : List UInt8} (hb : b < 256) (hle : a ≤ b)
    (h : a = b → l < l') : UInt8.ofNat a :: l < UInt8.ofNat b :: l' := by
  have ha : a < 256 := Nat.lt_of_le_of_lt hle hb
  rw [List.cons_lt_cons_iff, UInt8.lt_iff_toNat_lt, UInt8.toNat_ofNat', UInt8.toNat_ofNat',
    Nat.mod_eq_of_lt hb, Nat.mod_eq_of_lt ha]
  rcases Nat.lt_or_eq_of_le hle with hlt | heq
  · exact Or.inl hlt
  · exact Or.inr ⟨congrArg UInt8.ofNat heq, h heq⟩

theorem toNat_val_lt (c : Char) : c.val.toNat < 1114112 := by
  rcases c.valid with h | ⟨-, h⟩
  · exact Nat.lt_trans h (by decide)
  · exact h

/-- The bytes of a lower character come first, whatever follows either of them. -/
theorem utf8EncodeChar_append_lt {c d : Char} (h : c < d) (rest rest' : List UInt8) :
    String.utf8EncodeChar c ++ rest < String.utf8EncodeChar d ++ rest' := by
  have hlt : c.val.toNat < d.val.toNat := h
  have hd : d.val.toNat < 1114112 := toNat_val_lt d
  simp only [String.utf8EncodeChar]
  generalize c.val.toNat = m at hlt ⊢
  generalize d.val.toNat = n at hlt hd ⊢
  -- One case for each two lengths. Byte by byte, the two are the same so far or the one of `d` is
  -- higher; they cannot all be the same, because they are the digits of the two numbers.
  split_ifs <;> simp only [List.cons_append, List.nil_append] <;>
    repeat' (refine ofNat_cons_lt (by omega) (by omega) fun _ => ?_)
  all_goals omega

theorem flatMap_utf8EncodeChar_lt : ∀ {cs ds : List Char}, cs < ds →
    cs.flatMap String.utf8EncodeChar < ds.flatMap String.utf8EncodeChar
  | [], [], h => absurd h (List.lt_irrefl [])
  | c :: cs, [], h => absurd h (List.not_lt_nil _)
  | [], d :: ds, _ => by
    have hne : (d :: ds).flatMap String.utf8EncodeChar ≠ [] := by simp
    rcases List.exists_cons_of_ne_nil hne with ⟨b, bs, hb⟩
    rw [hb]
    exact List.nil_lt_cons b bs
  | c :: cs, d :: ds, h => by
    rw [List.flatMap_cons, List.flatMap_cons]
    rcases List.cons_lt_cons_iff.mp h with hcd | ⟨rfl, htail⟩
    · exact utf8EncodeChar_append_lt hcd _ _
    · exact List.append_left_lt (flatMap_utf8EncodeChar_lt htail)

/-- A text that comes before another one also does so by its bytes. -/
theorem utf8_lt_of_lt {s t : String} (h : s < t) : utf8 s < utf8 t := by
  rw [utf8_eq, utf8_eq]
  exact flatMap_utf8EncodeChar_lt (String.lt_iff.mp h)

/-- Lists of texts are ordered by the first text that differs, as are the lists of their bytes. -/
theorem map_utf8_lt_of_lt {l l' : List String} (h : l < l') : l.map utf8 < l'.map utf8 :=
  List.map_lt (fun _ _ => utf8_lt_of_lt) h

theorem pairwise_utf8 {l : List String} (h : l.Pairwise (· < ·)) :
    (l.map utf8).Pairwise (· < ·) :=
  h.map utf8 fun _ _ => utf8_lt_of_lt

end TagRules
