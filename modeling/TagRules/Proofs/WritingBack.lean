/-
# Reading undoes writing back

A template that was read can be written back: plain text as it is, and each slot reference with its
number in plain decimal (`Template.written`). What is written reads as the same segments
(`Template.parse_written`). It is the text that the template was read from unless a slot number has
superfluous zeros in front there, for nothing else about a placeholder can vary
(`Placeholder.ofRef_ref`).

Writing a placeholder anew cannot change what stands before it: a brace is plain text because of the
first character after it, white space apart, that is no digit, and a placeholder starts with a brace
before and after (`Template.Reads.looksLikeSlotRef_written`).

The segments that reading gives are in normal form: no stretch of text is empty, and no two are
neighbours (`Segment.normal_ofPieces`).

Key definitions: `Placeholder.IsPlain`, `Placeholder.ofRef`, `Segment.Normal`, `Template.written`.
Key theorems: `Template.Reads.pieces_written`, `Template.Reads.written_eq`,
`Segment.normal_ofPieces`, `Template.parse_written`.
-/
import Mathlib.Data.List.Chain
import TagRules.Proofs.Rendering

namespace TagRules

open Text (isBlank isDigit isDigit_iff digitValue decimalValue dropBlank)

/-! ### Numbers in plain decimal -/

theorem decimalValue_eq_ofDigitChars (cs : List Char) :
    decimalValue cs = Nat.ofDigitChars 10 cs 0 := by
  rw [decimalValue, Text.positional, List.foldl_map, Nat.ofDigitChars_eq_foldl]
  simp only [digitValue, Nat.mul_comm]

theorem decimalValue_toDigits (n : Nat) : decimalValue (Nat.toDigits 10 n) = n := by
  rw [decimalValue_eq_ofDigitChars, Nat.ofDigitChars_ten_toDigits]

theorem isDigit_of_mem_toDigits {n : Nat} {c : Char} (h : c ∈ Nat.toDigits 10 n) :
    isDigit c = true := by
  have hc : c.isDigit = true := Nat.isDigit_of_mem_toDigits (by decide) (by decide) h
  simp only [Char.isDigit, Bool.and_eq_true, decide_eq_true_eq] at hc
  exact isDigit_iff.mpr ⟨hc.1, hc.2⟩

/-- A digit is the character of its code point, which is 48 more than its value. -/
theorem toNat_eq_of_isDigit {c : Char} (h : isDigit c = true) :
    c.toNat = 48 + digitValue c ∧ digitValue c < 10 := by
  obtain ⟨hlow, hhigh⟩ := isDigit_iff.mp h
  have hvalue : digitValue c = c.toNat - 48 := rfl
  omega

theorem toDigits_digitValue {c : Char} (h : isDigit c = true) :
    Nat.toDigits 10 (digitValue c) = [c] := by
  obtain ⟨hcode, hlt⟩ := toNat_eq_of_isDigit h
  have hchar : Nat.digitChar (digitValue c) = c := by
    apply Char.toNat_inj.mp
    rw [Nat.toNat_digitChar_of_lt_ten hlt, hcode]
  rw [Nat.toDigits_of_lt_base hlt, hchar]

/-- Digits that are read after others, which denote no zero, are written after them. -/
theorem toDigits_ofDigitChars : ∀ (cs : List Char) (n : Nat), 0 < n →
    (∀ c ∈ cs, isDigit c = true) →
    Nat.toDigits 10 (Nat.ofDigitChars 10 cs n) = Nat.toDigits 10 n ++ cs
  | [], n, _, _ => by rw [Nat.ofDigitChars_nil, List.append_nil]
  | c :: cs, n, hn, h => by
    have hc := toDigits_digitValue (h c List.mem_cons_self)
    have hlt := (toNat_eq_of_isDigit (h c List.mem_cons_self)).2
    calc Nat.toDigits 10 (Nat.ofDigitChars 10 (c :: cs) n)
        = Nat.toDigits 10 (Nat.ofDigitChars 10 cs (10 * n + digitValue c)) := by
          rw [Nat.ofDigitChars_cons]; rfl
      _ = Nat.toDigits 10 (10 * n + digitValue c) ++ cs :=
          toDigits_ofDigitChars cs _ (by omega) fun d hd => h d (List.mem_cons_of_mem c hd)
      _ = Nat.toDigits 10 n ++ c :: cs := by
          rw [← Nat.toDigits_append_toDigits (by decide) hn hlt, hc, List.append_assoc]
          rfl

/-! ### Placeholders in plain decimal -/

namespace Placeholder

/-- The slot number has no superfluous zeros in front. -/
def IsPlain (p : Placeholder) : Prop := p.digits = ['0'] ∨ p.digits.head? ≠ some '0'

instance : DecidablePred IsPlain :=
  fun p => inferInstanceAs (Decidable (p.digits = ['0'] ∨ p.digits.head? ≠ some '0'))

/-- The placeholder of a reference, with the slot number in plain decimal. -/
def ofRef (r : SlotRef) : Placeholder where
  digits := Nat.toDigits 10 r.slot
  part := r.part
  digits_ne_nil := Nat.toDigits_ne_nil
  isDigit_of_mem := fun _ => isDigit_of_mem_toDigits

@[simp]
theorem ref_ofRef (r : SlotRef) : (ofRef r).ref = r := by
  rw [ref, ofRef, decimalValue_toDigits]

theorem toDigits_of_isPlain {p : Placeholder} (h : p.IsPlain) :
    Nat.toDigits 10 (decimalValue p.digits) = p.digits := by
  have hdigit := p.isDigit_of_mem
  obtain ⟨c, cs, hdigits⟩ := List.exists_cons_of_ne_nil p.digits_ne_nil
  rw [IsPlain, hdigits] at h
  rw [hdigits] at hdigit ⊢
  have hc : isDigit c = true := hdigit c List.mem_cons_self
  have hvalue : decimalValue (c :: cs) = Nat.ofDigitChars 10 cs (digitValue c) := by
    rw [decimalValue_eq_ofDigitChars, Nat.ofDigitChars_cons, Nat.mul_zero, Nat.zero_add]
    rfl
  rcases h with h | h
  · obtain ⟨rfl, rfl⟩ := List.cons.inj h
    decide
  · have hpos : 0 < digitValue c := by
      have hne : c.toNat ≠ 48 := fun hzero => h (congrArg some (Char.toNat_inj.mp hzero))
      have hcode := (toNat_eq_of_isDigit hc).1
      omega
    rw [hvalue, toDigits_ofDigitChars cs _ hpos fun d hd => hdigit d (List.mem_cons_of_mem c hd),
      toDigits_digitValue hc]
    rfl

/-- Two placeholders of one reference differ in superfluous zeros only. -/
theorem ofRef_ref {p : Placeholder} (h : p.IsPlain) : ofRef p.ref = p := by
  obtain ⟨digits, part, hne, hdigit⟩ := p
  simpa [ofRef, ref] using toDigits_of_isPlain h

end Placeholder

/-- A reference is written as its placeholder. -/
theorem SlotRef.toList_text (r : SlotRef) : r.text.toList = (Placeholder.ofRef r).chars := by
  simp [text, Placeholder.chars, Placeholder.body, Placeholder.ending, Placeholder.ofRef]

/-! ### Reading what was written -/

theorem mem_occurrences_cons {c : Char} {cs : List Char} {p : Placeholder} :
    p ∈ occurrences (c :: cs) ↔ placeholderAt? (c :: cs) = some p ∨ p ∈ occurrences cs := by
  rw [occurrences, List.tails_cons, List.filterMap_cons]
  cases placeholderAt? (c :: cs) <;> simp [occurrences, eq_comm]

theorem looksLikeSlotRef_cons (c : Char) (cs : List Char) :
    looksLikeSlotRef (c :: cs) = if isBlank c then looksLikeSlotRef cs else isDigit c := by
  unfold looksLikeSlotRef dropBlank
  by_cases h : isBlank c = true <;> simp [h]

/-- A brace is plain text exactly if what follows does not look like a slot reference. -/
theorem plain_brace_iff {cs : List Char} :
    (¬ Malformed ('\x7b' :: cs) ∧ placeholderAt? ('\x7b' :: cs) = none) ↔
      looksLikeSlotRef cs = false := by
  rw [malformed_cons_iff, ← Bool.not_eq_true]
  constructor
  · rintro ⟨hwell, hnone⟩ hlooks
    cases hread : slotRef? cs with
    | none => exact hwell ⟨hlooks, hread⟩
    | some x =>
      obtain ⟨p, rest, rfl⟩ := exists_of_slotRef? hread
      rw [placeholderAt?_cons_eq_some.mpr ⟨rfl, rest, rfl⟩] at hnone
      cases hnone
  · intro hlooks
    refine ⟨fun h => hlooks h.1, Option.eq_none_iff_forall_ne_some.mpr fun p hp => hlooks ?_⟩
    exact looksLikeSlotRef_of_isPrefix (placeholderAt?_cons_eq_some.mp hp).2

/-- Slot numbers of placeholders that are not malformed stay below the bound. -/
theorem slot_lt_of_not_malformed {p : Placeholder} {cs : List Char} (hp : p.chars <+: cs)
    (h : ¬ Malformed cs) : p.ref.slot < slotNumberBound := by
  obtain ⟨rest, rfl⟩ := hp
  by_contra hbound
  refine h (malformed_cons_iff.mpr ⟨looksLikeSlotRef_of_isPrefix ⟨rest, rfl⟩, ?_⟩)
  rw [List.append_eq, slotRef?_body_append, if_pos (Nat.le_of_not_lt hbound)]

/-- What pieces are written as. -/
def writtenPieces (ps : List Piece) : List Char := ps.flatMap (Piece.shown SlotRef.text)

theorem written_char (c : Char) (ps : List Piece) :
    writtenPieces (.char c :: ps) = c :: writtenPieces ps := rfl

theorem written_ref (r : SlotRef) (ps : List Piece) :
    writtenPieces (.ref r :: ps) = '\x7b' :: ((Placeholder.ofRef r).body ++ writtenPieces ps) := by
  rw [writtenPieces, List.flatMap_cons, Piece.shown, SlotRef.toList_text]
  rfl

namespace Template

/-- Characters that are skipped do not matter. -/
theorem pieces_append : ∀ cs rest : List Char, pieces cs.length (cs ++ rest) = pieces 0 rest
  | [], _ => rfl
  | _ :: cs, rest => pieces_append cs rest

/-- Whether a text looks like a slot reference does not change when it is written again: up to its
first placeholder it stays the same, and a brace is neither white space nor a digit. -/
theorem Reads.looksLikeSlotRef_written : ∀ {cs : List Char} {ps : List Piece}, Reads 0 cs ps →
    looksLikeSlotRef (writtenPieces ps) = looksLikeSlotRef cs
  | _, _, .nil => rfl
  | _, _, @Reads.ref c cs p ps hp _ => by
    obtain ⟨rfl, -⟩ := placeholderAt?_cons_eq_some.mp hp
    rw [written_ref, looksLikeSlotRef_cons, looksLikeSlotRef_cons]
    rfl
  | _, _, .char _ h => by
    rw [written_char, looksLikeSlotRef_cons, looksLikeSlotRef_cons, h.looksLikeSlotRef_written]

/-- Reading what was written gives the pieces that were written. -/
theorem Reads.pieces_written {skip : Nat} {cs : List Char} {ps : List Piece} (h : Reads skip cs ps)
    (hwell : WellFormed cs) : pieces 0 (writtenPieces ps) = .ok ps := by
  induction h with
  | nil => rfl
  | skip _ _ ih => exact ih (wellFormed_cons_iff.mp hwell).2
  | @ref c cs p ps hp _ ih =>
    obtain ⟨hc, hcs⟩ := wellFormed_cons_iff.mp hwell
    have hlt := slot_lt_of_not_malformed (placeholderAt?_eq_some.mp hp) hc
    have hread : slotRef? ((Placeholder.ofRef p.ref).body ++ writtenPieces ps) =
        some (p.ref, (Placeholder.ofRef p.ref).body.length) := by
      rw [slotRef?_body_append, Placeholder.ref_ofRef, if_neg (Nat.not_le_of_lt hlt)]
    rw [written_ref, pieces, if_pos rfl, hread]
    simp only [pieces_append, ih hcs]
    rfl
  | @char c cs ps hp h ih =>
    obtain ⟨hc, hcs⟩ := wellFormed_cons_iff.mp hwell
    -- whether a brace is plain depends on what follows, which was written anew and looks the same
    have hplain : ¬ Malformed (c :: writtenPieces ps) ∧
        placeholderAt? (c :: writtenPieces ps) = none := by
      by_cases hbrace : c = '\x7b'
      · subst hbrace
        rw [plain_brace_iff, h.looksLikeSlotRef_written]
        exact plain_brace_iff.mp ⟨hc, hp⟩
      · exact ⟨fun hbad => hbrace (head_of_malformed hbad), placeholderAt?_cons_of_ne hbrace _⟩
    rw [written_char, pieces_of_not_malformed hplain.1, hplain.2, ih hcs]
    rfl

/-- A text whose placeholders are plain is written as it was. -/
theorem Reads.written_eq {skip : Nat} {cs : List Char} {ps : List Piece} (h : Reads skip cs ps)
    (hplain : ∀ p ∈ occurrences cs, p.IsPlain) : writtenPieces ps = cs.drop skip := by
  induction h with
  | nil => exact List.drop_nil.symm
  | skip _ _ ih => exact ih fun p hp => hplain p (mem_occurrences_cons.mpr (.inr hp))
  | @ref c cs p ps hp _ ih =>
    have hrest := ih fun q hq => hplain q (mem_occurrences_cons.mpr (.inr hq))
    have hp' : Placeholder.ofRef p.ref = p :=
      Placeholder.ofRef_ref (hplain p (mem_occurrences_cons.mpr (.inl hp)))
    obtain ⟨rfl, rest, rfl⟩ := placeholderAt?_cons_eq_some.mp hp
    rw [written_ref, hp', hrest, List.drop_left]
    rfl
  | @char c cs ps _ _ ih =>
    rw [written_char, ih fun p hp => hplain p (mem_occurrences_cons.mpr (.inr hp))]
    rfl

end Template

/-! ### Normal form -/

namespace Segment

/-- Whether a segment is a stretch of plain text. -/
def isText : Segment → Bool
  | .text _ => true
  | .ref _ => false

/-- No stretch of text is empty, and no two of them are neighbours. -/
structure Normal (segments : List Segment) : Prop where
  nonempty : .text "" ∉ segments
  apart : segments.IsChain fun s s' => ¬ (s.isText = true ∧ s'.isText = true)

theorem Normal.ref_cons {segments : List Segment} (h : Normal segments) (r : SlotRef) :
    Normal (.ref r :: segments) where
  nonempty := by simpa using h.nonempty
  apart := h.apart.cons fun _ _ hboth => nomatch hboth.1

/-- Text may be put in front of segments that do not start with text. -/
theorem Normal.flush {segments : List Segment} (h : Normal segments)
    (hhead : ∀ s ∈ segments.head?, s.isText = false) (pending : List Char) :
    Normal (flush pending segments) := by
  unfold Segment.flush
  cases pending with
  | nil => exact h
  | cons c cs =>
    refine ⟨?_, h.apart.cons fun s hs hboth => ?_⟩
    · have hne : String.ofList (c :: cs).reverse ≠ "" := by simp
      simpa [hne.symm] using h.nonempty
    · rw [hhead s hs] at hboth
      cases hboth.2

/-- Pieces are joined to segments in normal form. -/
theorem normal_ofPieces : ∀ (ps : List Piece) (pending : List Char), Normal (ofPieces pending ps)
  | [], pending => Normal.flush ⟨List.not_mem_nil, .nil⟩ nofun pending
  | .char c :: ps, pending => normal_ofPieces ps (c :: pending)
  | .ref r :: ps, pending =>
    ((normal_ofPieces ps []).ref_cons r).flush (fun _ hs => Option.some.inj hs ▸ rfl) pending

end Segment

/-! ### Templates -/

namespace Template

/-- The template as it is written in a catalog. -/
def written (t : Template) : String := String.join (t.segments.map Segment.source)

theorem toList_written (source : String) (ps : List Piece) :
    (mk source (Segment.ofPieces [] ps)).written.toList = writtenPieces ps := by
  have hsource : Segment.source = Segment.shown SlotRef.text := by
    funext s
    cases s <;> rfl
  rw [written, String.toList_join, hsource, Segment.flatMap_ofPieces]
  rfl

theorem wellFormed_of_parse {source : String} {t : Template} (h : parse source = .ok t) :
    WellFormed source.toList := by
  obtain ⟨ps, hps, -⟩ := map_eq_ok.mp h
  rcases pieces_cases source.toList 0 (by simp) with ⟨hwell, -⟩ | ⟨_, _, -, herror⟩
  · exact hwell
  · rw [hps] at herror
    cases herror

/-- **Reading undoes writing back.** A template that was read and is written back reads as the same
segments. It is written as the text that it was read from, if no placeholder of that has superfluous
zeros in front of its slot number. The segments are in normal form. -/
theorem parse_written {source : String} {t : Template} (h : parse source = .ok t) :
    parse t.written = .ok ⟨t.written, t.segments⟩ ∧
      ((∀ p ∈ occurrences source.toList, p.IsPlain) → t.written = source) ∧
      Segment.Normal t.segments := by
  obtain ⟨ps, hps, rfl⟩ := exists_reads_of_parse h
  refine ⟨?_, fun hplain => ?_, Segment.normal_ofPieces ps []⟩
  · rw [parse, toList_written, hps.pieces_written (wellFormed_of_parse h)]
    rfl
  · apply String.toList_inj.mp
    rw [toList_written, hps.written_eq hplain, List.drop_zero]

/-- A brace before a placeholder with superfluous zeros, and another placeholder after it. -/
theorem parse_written_zeros :
    let source := "\x7b\x7b007.key\x7d\x7b0.value\x7d"
    let plain := "\x7b\x7b7.key\x7d\x7b0.value\x7d"
    let segments : List Segment := [.text "\x7b", .ref ⟨7, .key⟩, .ref ⟨0, .value⟩]
    parse source = .ok ⟨source, segments⟩ ∧ parse plain = .ok ⟨plain, segments⟩ ∧
      (mk plain segments).written = plain ∧ Segment.Normal segments := by
  intro source plain segments
  have hsource : parse source = .ok ⟨source, segments⟩ := by decide +kernel
  have hwritten : (mk source segments).written = plain := by decide +kernel
  obtain ⟨hplain, -, hnormal⟩ := parse_written hsource
  rw [hwritten] at hplain
  exact ⟨hsource, hplain, (parse_written hplain).2.1 (by decide +kernel), hnormal⟩

end Template

end TagRules
