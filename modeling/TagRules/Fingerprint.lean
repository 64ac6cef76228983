/-
# Fingerprints of clauses

A clause that names no subclass gets one from a hash of the rule's id and the
clause's text, so that it stays the same from run to run as long as both do.

Key definitions: `fingerprintBytes`, `fingerprint`.
-/
import TagRules.Digest.Sha256

namespace TagRules

/-- What is hashed: the rule's id, a line feed, the clause's text. -/
def fingerprintBytes (rule text : String) : List UInt8 := (rule ++ "\n" ++ text).toUTF8.toList

/-- The first 31 bits of the digest. -/
def fingerprint (rule text : String) : UInt32 :=
  (Sha256.digest (fingerprintBytes rule text)).headD 0 >>> 1

theorem fingerprint_lt (rule text : String) : (fingerprint rule text).toNat < Nat.pow 2 31 := by
  have hword : ((Sha256.digest (fingerprintBytes rule text)).headD 0).toNat < 4294967296 :=
    UInt32.toNat_lt _
  have hpow : Nat.pow 2 31 = 2147483648 := rfl
  rw [fingerprint, UInt32.toNat_shiftRight, Nat.shiftRight_eq_div_pow, hpow]
  show _ / 2 < _
  omega

end TagRules
