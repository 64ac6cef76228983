/-
# Which braces of a template open slot references

A placeholder is a slot reference as a template may write it: an opening brace, one digit or
more, a dot, the name of a half, a closing brace (`Placeholder`). At most one placeholder starts
at any place of a text (`placeholderAt?_eq_some`), and none has an opening brace inside, so no
two of them overlap.

An opening brace is malformed if a digit follows it, perhaps after white space, but no
placeholder with a slot number below the bound starts at it (`Malformed`). Reading a template
stops at a malformed brace, and copies or skips anything else (`Template.pieces_of_malformed`,
`Template.pieces_of_not_malformed`). So a template is refused exactly if some brace in it is
malformed, and the error shows the leftmost of these, through the next closing brace
(`Template.parse_eq_error_iff_firstMalformed`).

Key definitions: `Placeholder`, `placeholderAt?`, `Malformed`, `FirstMalformed`, `EndsAtBrace`.
Key theorems: `placeholderAt?_eq_some`, `Template.pieces_of_malformed`,
`Template.pieces_of_not_malformed`, `Template.parse_eq_error_iff_firstMalformed`.
-/
import Mathlib.Data.List.TakeWhile
import TagRules.Proofs.Lists
import TagRules.Template

namespace TagRules

open Text (isBlank isDigit isDigit_iff decimalValue dropBlank)

/-- A slot reference as it may be written. -/
structure Placeholder where
  /-- The slot number in decimal, perhaps with leading zeros. -/
  digits : List Char
  part : SlotPart
  digits_ne_nil : digits ≠ []
  isDigit_of_mem : ∀ c ∈ digits, isDigit c = true
deriving DecidableEq, Repr

namespace Placeholder

/-- The slot reference that is written. -/
def ref (p : Placeholder) : SlotRef := ⟨decimalValue p.digits, p.part⟩

/-- What follows the digits. -/
def ending (part : SlotPart) : List Char := '.' :: (SlotRef.partName part).toList ++ ['\x7d']

/-- What follows the opening brace. -/
def body (p : Placeholder) : List Char := p.digits ++ ending p.part

/-- The placeholder in full. -/
def chars (p : Placeholder) : List Char := '\x7b' :: p.body

theorem ending_key : ending .key = ['.', 'k', 'e', 'y', '\x7d'] := rfl

theorem ending_value : ending .value = ['.', 'v', 'a', 'l', 'u', 'e', '\x7d'] := rfl

/-- The digits are all those that the text after the brace starts with. -/
theorem takeWhile_body_append (p : Placeholder) (rest : List Char) :
    (p.body ++ rest).takeWhile isDigit = p.digits := by
  have hstop : (ending p.part ++ rest).takeWhile isDigit = [] := by
    cases p.part <;> rfl
  rw [body, List.append_assoc, List.takeWhile_append_of_pos p.isDigit_of_mem, hstop,
    List.append_nil]

/-- At most one placeholder starts at a place. -/
theorem eq_of_isPrefix {p q : Placeholder} {cs : List Char} (hp : p.chars <+: cs)
    (hq : q.chars <+: cs) : p = q := by
  obtain ⟨rest, rfl⟩ := hp
  obtain ⟨rest', hrest⟩ := hq
  have hbody : q.body ++ rest' = p.body ++ rest := (List.cons.inj hrest).2
  have hdigits : q.digits = p.digits := by
    rw [← q.takeWhile_body_append rest', hbody, p.takeWhile_body_append]
  have hending : ending q.part ++ rest' = ending p.part ++ rest := by
    rw [body, body, hdigits, List.append_assoc, List.append_assoc] at hbody
    exact List.append_cancel_left hbody
  have hpart : q.part = p.part := by
    cases hp : p.part <;> cases hq : q.part <;> simp [hp, hq, ending_key, ending_value] at hending ⊢
  cases p
  cases q
  simp_all

/-- There is no opening brace inside. -/
theorem brace_not_mem_body (p : Placeholder) : '\x7b' ∉ p.body := by
  intro h
  rcases List.mem_append.mp h with hdigit | hending
  · exact absurd (p.isDigit_of_mem _ hdigit) (by decide)
  · revert hending
    cases p.part <;> decide

theorem brace_not_mem_take {p : Placeholder} {cs : List Char} (h : p.body <+: cs) :
    '\x7b' ∉ cs.take p.body.length := by
  rw [← List.prefix_iff_eq_take.mp h]
  exact p.brace_not_mem_body

end Placeholder

/-- The placeholder that a text starts with, if there is one. -/
def placeholderAt? : List Char → Option Placeholder
  | [] => none
  | c :: cs =>
    if h : cs.takeWhile isDigit = [] then none
    else
      [⟨_, .key, h, fun _ => List.mem_takeWhile_imp⟩,
        ⟨_, .value, h, fun _ => List.mem_takeWhile_imp⟩].find?
        fun p : Placeholder => p.chars.isPrefixOf (c :: cs)

theorem isPrefix_of_placeholderAt? {cs : List Char} {p : Placeholder}
    (h : placeholderAt? cs = some p) : p.chars <+: cs := by
  cases cs with
  | nil => cases h
  | cons c cs =>
    by_cases hdigits : cs.takeWhile isDigit = []
    · rw [placeholderAt?, dif_pos hdigits] at h
      cases h
    · rw [placeholderAt?, dif_neg hdigits] at h
      have hprefix := List.find?_some (p := fun p : Placeholder => p.chars.isPrefixOf (c :: cs)) h
      exact List.isPrefixOf_iff_prefix.mp hprefix

theorem placeholderAt?_eq_some {cs : List Char} {p : Placeholder} :
    placeholderAt? cs = some p ↔ p.chars <+: cs := by
  refine ⟨isPrefix_of_placeholderAt?, fun hp => ?_⟩
  obtain ⟨rest, rfl⟩ := hp
  have htake := p.takeWhile_body_append rest
  have hne : (p.body ++ rest).takeWhile isDigit ≠ [] := htake ▸ p.digits_ne_nil
  -- the placeholder is one of the two that could start here, so one of them is found
  have hsome : (placeholderAt? (p.chars ++ rest)).isSome = true := by
    rw [Placeholder.chars, List.cons_append, placeholderAt?, dif_neg hne, List.find?_isSome]
    refine ⟨p, ?_, List.isPrefixOf_iff_prefix.mpr ⟨rest, rfl⟩⟩
    cases p with
    | mk digits part => cases part <;> simp [htake]
  obtain ⟨q, hq⟩ := Option.isSome_iff_exists.mp hsome
  have hqp : q = p := Placeholder.eq_of_isPrefix (isPrefix_of_placeholderAt? hq) ⟨rest, rfl⟩
  rw [hq, hqp]

theorem placeholderAt?_cons_eq_some {c : Char} {cs : List Char} {p : Placeholder} :
    placeholderAt? (c :: cs) = some p ↔ c = '\x7b' ∧ p.body <+: cs := by
  rw [placeholderAt?_eq_some, Placeholder.chars, List.cons_prefix_cons, eq_comm]

theorem placeholderAt?_cons_of_ne {c : Char} (h : c ≠ '\x7b') (cs : List Char) :
    placeholderAt? (c :: cs) = none :=
  Option.eq_none_iff_forall_ne_some.mpr fun _ hp => h (placeholderAt?_cons_eq_some.mp hp).1

theorem slotRef?_body_append (p : Placeholder) (rest : List Char) :
    slotRef? (p.body ++ rest) =
      if slotNumberBound ≤ p.ref.slot then none else some (p.ref, p.body.length) := by
  have hne : p.digits.isEmpty = false := by
    rw [List.isEmpty_eq_false_iff]
    exact p.digits_ne_nil
  have hdrop : (p.body ++ rest).drop p.digits.length = Placeholder.ending p.part ++ rest := by
    rw [Placeholder.body, List.append_assoc, List.drop_left]
  simp only [slotRef?, p.takeWhile_body_append, hdrop, hne, Bool.false_or, decide_eq_true_eq]
  refine if_congr Iff.rfl rfl ?_
  cases p with
  | mk digits part =>
    cases part <;>
      simp [Placeholder.ending_key, Placeholder.ending_value, Placeholder.body, Placeholder.ref]

/-- A slot reference is read only where a placeholder stands. -/
theorem exists_of_slotRef? {cs : List Char} {r : SlotRef} {n : Nat}
    (h : slotRef? cs = some (r, n)) : ∃ p : Placeholder, p.body <+: cs := by
  have hdigit : ∀ c ∈ cs.takeWhile isDigit, isDigit c = true := fun _ => List.mem_takeWhile_imp
  obtain ⟨rest, hrest⟩ : cs.takeWhile isDigit <+: cs := List.takeWhile_prefix _
  simp only [slotRef?] at h
  generalize cs.takeWhile isDigit = digits at h hdigit hrest
  subst hrest
  rw [List.drop_left] at h
  by_cases hne : digits = []
  · simp [hne] at h
  · split at h
    · cases h
    · split at h
      · rename_i after
        refine ⟨⟨digits, .key, hne, hdigit⟩, after, ?_⟩
        simp [Placeholder.body, Placeholder.ending_key]
      · rename_i after
        refine ⟨⟨digits, .value, hne, hdigit⟩, after, ?_⟩
        simp [Placeholder.body, Placeholder.ending_value]
      · cases h

/-! ### Malformed braces -/

/-- A text starts with a malformed brace: a brace that is followed by a digit, perhaps after white
space, but opens no placeholder with a slot number below the bound. -/
def Malformed (cs : List Char) : Prop :=
  (∃ blanks d rest, cs = '\x7b' :: (blanks ++ d :: rest) ∧ (∀ c ∈ blanks, isBlank c = true) ∧
    isDigit d = true) ∧
  ∀ p : Placeholder, p.chars <+: cs → slotNumberBound ≤ p.ref.slot

theorem isBlank_eq_false_of_isDigit {c : Char} (h : isDigit c = true) : isBlank c = false := by
  obtain ⟨hlow, hhigh⟩ := isDigit_iff.mp h
  unfold isBlank
  simp
  omega

theorem looksLikeSlotRef_iff {cs : List Char} : looksLikeSlotRef cs = true ↔
    ∃ blanks d rest, cs = blanks ++ d :: rest ∧ (∀ c ∈ blanks, isBlank c = true) ∧
      isDigit d = true := by
  rw [looksLikeSlotRef, dropBlank]
  constructor
  · intro h
    cases hrest : cs.dropWhile isBlank with
    | nil => simp [hrest] at h
    | cons d rest =>
      refine ⟨cs.takeWhile isBlank, d, rest, ?_, fun _ => List.mem_takeWhile_imp, ?_⟩
      · rw [← hrest, List.takeWhile_append_dropWhile]
      · simpa [hrest] using h
  · rintro ⟨blanks, d, rest, rfl, hblanks, hd⟩
    have hstop : isBlank d = false := isBlank_eq_false_of_isDigit hd
    rw [List.dropWhile_append_of_pos hblanks, List.dropWhile_cons_of_neg (by simp [hstop])]
    simpa using hd

/-- A placeholder looks like one. -/
theorem looksLikeSlotRef_of_isPrefix {p : Placeholder} {cs : List Char} (h : p.body <+: cs) :
    looksLikeSlotRef cs = true := by
  obtain ⟨rest, rfl⟩ := h
  obtain ⟨d, digits, hdigits⟩ := List.exists_cons_of_ne_nil p.digits_ne_nil
  have hd : isDigit d = true := p.isDigit_of_mem d (by simp [hdigits])
  refine looksLikeSlotRef_iff.mpr ⟨[], d, digits ++ (Placeholder.ending p.part ++ rest), ?_, ?_, hd⟩
  · rw [Placeholder.body, hdigits, List.nil_append, List.append_assoc, List.cons_append]
  · simp

/-- What reading looks for at a brace shows whether it is malformed. -/
theorem malformed_cons_iff {cs : List Char} : Malformed ('\x7b' :: cs) ↔
    looksLikeSlotRef cs = true ∧ slotRef? cs = none := by
  constructor
  · rintro ⟨⟨blanks, d, rest, hcs, hblanks, hd⟩, hbound⟩
    refine ⟨looksLikeSlotRef_iff.mpr ⟨blanks, d, rest, (List.cons.inj hcs).2, hblanks, hd⟩, ?_⟩
    refine Option.eq_none_iff_forall_ne_some.mpr fun x hx => ?_
    obtain ⟨p, after, rfl⟩ := exists_of_slotRef? hx
    rw [slotRef?_body_append, if_pos (hbound p ⟨after, rfl⟩)] at hx
    cases hx
  · rintro ⟨hlooks, hnone⟩
    obtain ⟨blanks, d, rest, rfl, hblanks, hd⟩ := looksLikeSlotRef_iff.mp hlooks
    refine ⟨⟨blanks, d, rest, rfl, hblanks, hd⟩, fun p hp => ?_⟩
    obtain ⟨after, hafter⟩ := hp
    have hbody : p.body ++ after = blanks ++ d :: rest := (List.cons.inj hafter).2
    rw [← hbody, slotRef?_body_append] at hnone
    by_contra hlt
    rw [if_neg hlt] at hnone
    cases hnone

theorem head_of_malformed {c : Char} {cs : List Char} (h : Malformed (c :: cs)) : c = '\x7b' := by
  obtain ⟨⟨blanks, d, rest, hcs, -, -⟩, -⟩ := h
  exact (List.cons.inj hcs).1

theorem not_malformed_nil : ¬ Malformed [] := by
  rintro ⟨⟨blanks, d, rest, hcs, -, -⟩, -⟩
  cases hcs

namespace Template

/-- Reading stops at a malformed brace. -/
theorem pieces_of_malformed {c : Char} {cs : List Char} (h : Malformed (c :: cs)) :
    pieces 0 (c :: cs) = .error ⟨String.ofList (c :: throughClosingBrace cs)⟩ := by
  obtain rfl := head_of_malformed h
  obtain ⟨hlooks, hnone⟩ := malformed_cons_iff.mp h
  simp only [pieces, if_true, hnone, hlooks]

/-- Anywhere else, reading takes a placeholder if one stands there, and one character if not. -/
theorem pieces_of_not_malformed {c : Char} {cs : List Char} (h : ¬ Malformed (c :: cs)) :
    pieces 0 (c :: cs) =
      match placeholderAt? (c :: cs) with
      | some p => (pieces p.body.length cs).map (.ref p.ref :: ·)
      | none => (pieces 0 cs).map (.char c :: ·) := by
  by_cases hc : c = '\x7b'
  · subst hc
    -- what was meant as a reference is one
    have hcases : looksLikeSlotRef cs = true → slotRef? cs ≠ none := fun hlooks hnone =>
      h (malformed_cons_iff.mpr ⟨hlooks, hnone⟩)
    cases hp : placeholderAt? ('\x7b' :: cs) with
    | some p =>
      obtain ⟨-, rest, rfl⟩ := placeholderAt?_cons_eq_some.mp hp
      have hread : slotRef? (p.body ++ rest) = some (p.ref, p.body.length) := by
        have hsome := hcases (looksLikeSlotRef_of_isPrefix ⟨rest, rfl⟩)
        rw [slotRef?_body_append] at hsome ⊢
        by_cases hbound : slotNumberBound ≤ p.ref.slot
        · exact absurd (if_pos hbound) hsome
        · rw [if_neg hbound]
      simp only [pieces, if_true, hread]
    | none =>
      have hread : slotRef? cs = none := by
        refine Option.eq_none_iff_forall_ne_some.mpr fun x hx => ?_
        obtain ⟨p, rest, rfl⟩ := exists_of_slotRef? hx
        rw [placeholderAt?_cons_eq_some.mpr ⟨rfl, rest, rfl⟩] at hp
        cases hp
      have hlooks : looksLikeSlotRef cs = false := by
        rw [← Bool.not_eq_true]
        exact fun hlooks => hcases hlooks hread
      simp only [pieces, if_true, hread, hlooks]
      rfl
  · rw [placeholderAt?_cons_of_ne hc]
    simp only [pieces, hc, if_false]

/-- How a text without malformed braces is taken apart, after `skip` characters that belong to a
placeholder taken before. -/
inductive Reads : Nat → List Char → List Piece → Prop
  | nil {skip : Nat} : Reads skip [] []
  | skip {k : Nat} {c : Char} {cs : List Char} {ps : List Piece} :
    c ≠ '\x7b' → Reads k cs ps → Reads (k + 1) (c :: cs) ps
  | ref {c : Char} {cs : List Char} {p : Placeholder} {ps : List Piece} :
    placeholderAt? (c :: cs) = some p → Reads p.body.length cs ps →
    Reads 0 (c :: cs) (.ref p.ref :: ps)
  | char {c : Char} {cs : List Char} {ps : List Piece} :
    placeholderAt? (c :: cs) = none → Reads 0 cs ps → Reads 0 (c :: cs) (.char c :: ps)

/-- The pieces of a text, if it has any, are those that it is taken apart into. The characters that
are skipped belong to a placeholder, so there is no brace among them. -/
theorem reads_of_pieces : ∀ {cs : List Char} {skip : Nat} {ps : List Piece},
    '\x7b' ∉ cs.take skip → pieces skip cs = .ok ps → Reads skip cs ps
  | [], _, _, _, h => by
    obtain rfl := Except.ok.inj h
    exact .nil
  | c :: cs, k + 1, ps, hskip, h => by
    have hc : c ≠ '\x7b' := fun hc => hskip (by simp [hc])
    exact .skip hc (reads_of_pieces (fun hmem => hskip (by simp [hmem])) h)
  | c :: cs, 0, ps, _, h => by
    have hc : ¬ Malformed (c :: cs) := by
      intro hc
      rw [pieces_of_malformed hc] at h
      cases h
    rw [pieces_of_not_malformed hc] at h
    cases hp : placeholderAt? (c :: cs) with
    | some p =>
      rw [hp] at h
      obtain ⟨rest, hrest, rfl⟩ := map_eq_ok.mp h
      have hskip := Placeholder.brace_not_mem_take (placeholderAt?_cons_eq_some.mp hp).2
      exact .ref hp (reads_of_pieces hskip hrest)
    | none =>
      rw [hp] at h
      obtain ⟨rest, hrest, rfl⟩ := map_eq_ok.mp h
      exact .char hp (reads_of_pieces (by simp) hrest)

end Template

/-! ### The error -/

/-- No brace of a text is malformed. -/
def WellFormed (cs : List Char) : Prop := ∀ before bad, cs = before ++ bad → ¬ Malformed bad

theorem wellFormed_nil : WellFormed [] := by
  intro before bad h
  obtain ⟨rfl, rfl⟩ := List.append_eq_nil_iff.mp h.symm
  exact not_malformed_nil

theorem wellFormed_cons_iff {c : Char} {cs : List Char} :
    WellFormed (c :: cs) ↔ ¬ Malformed (c :: cs) ∧ WellFormed cs := by
  constructor
  · intro h
    refine ⟨h [] (c :: cs) rfl, fun before bad hsplit => h (c :: before) bad ?_⟩
    rw [hsplit, List.cons_append]
  · rintro ⟨hhead, htail⟩ before bad hsplit
    cases before with
    | nil =>
      rw [List.nil_append] at hsplit
      exact hsplit ▸ hhead
    | cons d before => exact htail before bad (List.cons.inj hsplit).2

/-- The leftmost malformed brace of a text is the one after `before`. -/
structure FirstMalformed (cs before bad : List Char) : Prop where
  split : cs = before ++ bad
  malformed : Malformed bad
  leftmost : ∀ before' bad', cs = before' ++ bad' → Malformed bad' →
    before.length ≤ before'.length

namespace FirstMalformed

theorem of_malformed {cs : List Char} (h : Malformed cs) : FirstMalformed cs [] cs :=
  ⟨rfl, h, fun _ _ _ _ => Nat.zero_le _⟩

theorem cons {c : Char} {cs before bad : List Char} (hc : ¬ Malformed (c :: cs))
    (h : FirstMalformed cs before bad) : FirstMalformed (c :: cs) (c :: before) bad := by
  refine ⟨by rw [h.split, List.cons_append], h.malformed, fun before' bad' hsplit hbad => ?_⟩
  cases before' with
  | nil => exact absurd (hsplit ▸ hbad) hc
  | cons d before' => exact Nat.succ_le_succ (h.leftmost _ _ (List.cons.inj hsplit).2 hbad)

theorem unique {cs before before' bad bad' : List Char} (h : FirstMalformed cs before bad)
    (h' : FirstMalformed cs before' bad') : bad = bad' := by
  have hlength : before.length = before'.length :=
    Nat.le_antisymm (h.leftmost _ _ h'.split h'.malformed) (h'.leftmost _ _ h.split h.malformed)
  exact (List.append_inj (h.split.symm.trans h'.split) hlength).2

end FirstMalformed

/-- A part of a text starts where the text does, and it ends with the first closing brace, or with
the text if there is none. -/
def EndsAtBrace (cs part : List Char) : Prop :=
  (∃ before after, cs = before ++ '\x7d' :: after ∧ '\x7d' ∉ before ∧ part = before ++ ['\x7d']) ∨
    '\x7d' ∉ cs ∧ part = cs

theorem throughClosingBrace_cons {c : Char} (h : c ≠ '\x7d') (cs : List Char) :
    throughClosingBrace (c :: cs) = c :: throughClosingBrace cs := by
  simp [throughClosingBrace, h]

theorem endsAtBrace_iff {cs part : List Char} :
    EndsAtBrace cs part ↔ part = throughClosingBrace cs := by
  have hbefore : ∀ before : List Char, '\x7d' ∉ before →
      ∀ c ∈ before, decide (c ≠ '\x7d') = true := by
    intro before hnot c hc
    exact decide_eq_true fun heq => hnot (heq ▸ hc)
  have hends : ∀ {part : List Char}, EndsAtBrace cs part → part = throughClosingBrace cs := by
    rintro part (⟨before, after, rfl, hnot, rfl⟩ | ⟨hnot, rfl⟩)
    · have htake : (before ++ '\x7d' :: after).takeWhile (· ≠ '\x7d') = before := by
        rw [List.takeWhile_append_of_pos (hbefore before hnot),
          List.takeWhile_cons_of_neg (by simp), List.append_nil]
      simp only [throughClosingBrace, htake, List.drop_left]
      rfl
    · have htake : part.takeWhile (· ≠ '\x7d') = part :=
        List.takeWhile_eq_self_iff.mpr (hbefore part hnot)
      simp only [throughClosingBrace, htake, List.drop_length, List.take_nil, List.append_nil]
  refine ⟨hends, fun h => ?_⟩
  by_cases hmem : '\x7d' ∈ cs
  · obtain ⟨before, after, hsplit, hnot⟩ := List.eq_append_cons_of_mem hmem
    have hpart : EndsAtBrace cs (before ++ ['\x7d']) := .inl ⟨before, after, hsplit, hnot, rfl⟩
    rwa [h, ← hends hpart]
  · have hpart : EndsAtBrace cs cs := .inr ⟨hmem, rfl⟩
    rwa [h, ← hends hpart]

namespace Template

/-- Reading takes a well-formed text apart, and fails at the leftmost malformed brace of any other.
The characters that are skipped belong to a placeholder, so there is no brace among them. -/
theorem pieces_cases : ∀ (cs : List Char) (skip : Nat), '\x7b' ∉ cs.take skip →
    (WellFormed cs ∧ ∃ ps, pieces skip cs = .ok ps) ∨
    ∃ before bad, FirstMalformed cs before bad ∧
      pieces skip cs = .error ⟨String.ofList (throughClosingBrace bad)⟩
  | [], _, _ => .inl ⟨wellFormed_nil, [], rfl⟩
  | c :: cs, skip, hskip => by
    -- one step takes a character or a placeholder and goes on with the rest
    have hstep : ∀ (skip' : Nat) (f : List Piece → List Piece), ¬ Malformed (c :: cs) →
        '\x7b' ∉ cs.take skip' → pieces skip (c :: cs) = (pieces skip' cs).map f →
        (WellFormed (c :: cs) ∧ ∃ ps, pieces skip (c :: cs) = .ok ps) ∨
        ∃ before bad, FirstMalformed (c :: cs) before bad ∧
          pieces skip (c :: cs) = .error ⟨String.ofList (throughClosingBrace bad)⟩ := by
      intro skip' f hc hskip' hpieces
      rw [hpieces]
      rcases pieces_cases cs skip' hskip' with ⟨hcs, ps, hps⟩ | ⟨before, bad, hbad, herror⟩
      · exact .inl ⟨wellFormed_cons_iff.mpr ⟨hc, hcs⟩, f ps, by rw [hps]; rfl⟩
      · exact .inr ⟨c :: before, bad, hbad.cons hc, by rw [herror]; rfl⟩
    cases skip with
    | succ skip =>
      have hc : ¬ Malformed (c :: cs) := fun h => hskip (by simp [head_of_malformed h])
      refine hstep skip id hc (fun h => hskip (by simp [h])) ?_
      simp only [pieces]
      cases pieces skip cs <;> rfl
    | zero =>
      by_cases hc : Malformed (c :: cs)
      · refine .inr ⟨[], c :: cs, .of_malformed hc, ?_⟩
        have hne : c ≠ '\x7d' := by
          rw [head_of_malformed hc]
          decide
        rw [pieces_of_malformed hc, throughClosingBrace_cons hne]
      · have hpieces := pieces_of_not_malformed hc
        cases hp : placeholderAt? (c :: cs) with
        | none =>
          rw [hp] at hpieces
          exact hstep 0 _ hc (by simp) hpieces
        | some p =>
          rw [hp] at hpieces
          have hskip' := Placeholder.brace_not_mem_take (placeholderAt?_cons_eq_some.mp hp).2
          exact hstep p.body.length _ hc hskip' hpieces

/-- **A template is refused exactly if a brace in it is malformed.** The error shows the leftmost
malformed brace and what follows it, through the next closing brace or to the end. -/
theorem parse_eq_error_iff_firstMalformed (source : String) :
    ((∃ e, parse source = .error e) ↔
      ∃ before bad, source.toList = before ++ bad ∧ Malformed bad) ∧
    ∀ e, parse source = .error e ↔
      ∃ before bad, FirstMalformed source.toList before bad ∧ EndsAtBrace bad e.text.toList := by
  have hparse : ∀ e, parse source = .error e ↔ pieces 0 source.toList = .error e := by
    intro e
    rw [parse]
    cases pieces 0 source.toList <;> simp [Except.map]
  rcases pieces_cases source.toList 0 (by simp) with ⟨hwell, ps, hps⟩ | ⟨before, bad, hbad, herror⟩
  · have hnot : ∀ e, parse source ≠ .error e := by
      intro e he
      rw [hparse, hps] at he
      cases he
    constructor
    · refine ⟨fun ⟨e, he⟩ => absurd he (hnot e), fun ⟨before, bad, hsplit, hbad⟩ => ?_⟩
      exact absurd hbad (hwell before bad hsplit)
    · refine fun e => ⟨fun he => absurd he (hnot e), fun ⟨before, bad, hbad, _⟩ => ?_⟩
      exact absurd hbad.malformed (hwell before bad hbad.split)
  · have hfails := (hparse _).mpr herror
    constructor
    · exact ⟨fun _ => ⟨before, bad, hbad.split, hbad.malformed⟩, fun _ => ⟨_, hfails⟩⟩
    · intro e
      rw [hfails, Except.error.injEq]
      constructor
      · rintro rfl
        exact ⟨before, bad, hbad, endsAtBrace_iff.mpr (String.toList_ofList)⟩
      · rintro ⟨before', bad', hbad', hends⟩
        obtain rfl := hbad.unique hbad'
        rw [← endsAtBrace_iff.mp hends, String.ofList_toList]

/-- The leftmost brace is plain text, the second is malformed, though not by its digits alone. -/
example : parse "\x7ba\x7b\u20030.kex" = .error ⟨"\x7b\u20030.kex"⟩ := by cbv

end Template

end TagRules
