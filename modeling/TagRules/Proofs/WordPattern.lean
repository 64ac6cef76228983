/-
# Patterns that are lists of words

The engine reads a text of plain words with bars between them as one of the words, each
character for itself (`Regex.read?_words`). The program takes at most 128 bytes for each byte
of the text and of one bar more. So the engine makes a search of every such text for which
there is that much room (`PatternLibrary.isSome_compile?_words`).

Key definitions: `Pattern.IsPlain`, `Pattern.Regex.word`.
Key theorems: `Pattern.Reader.run?_words`, `Pattern.Regex.read?_words`,
`Pattern.Regex.size_words_le`, `PatternLibrary.isSome_compile?_words`.
-/
import Mathlib.Algebra.BigOperators.Group.List.Basic
import Mathlib.Algebra.GroupWithZero.Nat
import TagRules.Pattern.Engine
import TagRules.Proofs.ByteOrder
import TagRules.Proofs.Lists

namespace TagRules.Pattern

/-- The characters that do not stand for themselves outside of brackets. -/
def metacharacters : List Char :=
  ['(', ')', '|', '[', '?', '*', '+', '\x7b', '\\', '.', '^', '$']

/-- Whether each character of a text stands for itself. -/
def IsPlain (cs : List Char) : Prop := ∀ c ∈ cs, c ∉ metacharacters

/-- The expression of a text whose characters stand for themselves. -/
def Regex.word (cs : List Char) : Regex := .seq (cs.map fun c => .chars (.single c))

/-! ### Reading words -/

namespace Reader

/-- The part that a plain character is read as. -/
def plainPart (c : Char) : Part := .expr ⟨.chars (.single c), 0⟩

/-- The branch that a plain word is read as. -/
def plainBranch (cs : List Char) : Nested := sideBySide (cs.map fun c => (plainPart c).nested) .seq

/-- The state after some branches and some parts of another one, outside of groups. -/
def stateAt (branches : List Nested) (parts : List Part) : State :=
  ⟨[], ⟨false, .start, branches, parts⟩, []⟩

theorem step?_plain {c : Char} (h : c ∉ metacharacters) (branches : List Nested)
    (parts : List Part) (rest : List Char) :
    step? (stateAt branches parts) c rest =
      some (stateAt branches (plainPart c :: parts), rest) := by
  simp only [metacharacters, List.mem_cons, List.not_mem_nil, or_false, not_or] at h
  unfold step?
  split <;> first | rfl | simp_all

theorem step?_bar (branches : List Nested) (parts : List Part) (rest : List Char) :
    step? (stateAt branches parts) '|' rest =
      some (stateAt ((stateAt branches parts).scope.branch :: branches) [], rest) := rfl

/-- One character that is read by itself uses up one unit of fuel. -/
theorem run?_cons {s s' : State} {c : Char} {rest : List Char} (hflags : s.scope.flags = .start)
    (h : step? s c rest = some (s', rest)) :
    run? (c :: rest).length s (c :: rest) = run? rest.length s' rest := by
  have hgap : s.scope.flags.gap (c :: rest) = c :: rest := by
    rw [hflags]
    rfl
  rw [List.length_cons, run?.eq_def]
  simp only [hgap, h]

theorem run?_word {cs : List Char} (h : IsPlain cs) (branches : List Nested) (parts : List Part)
    (rest : List Char) :
    run? (cs ++ rest).length (stateAt branches parts) (cs ++ rest) =
      run? rest.length (stateAt branches ((cs.map plainPart).reverse ++ parts)) rest := by
  induction cs generalizing parts with
  | nil => rfl
  | cons c cs ih =>
    obtain ⟨hc, hcs⟩ := List.forall_mem_cons.mp h
    rw [List.cons_append, run?_cons rfl (step?_plain hc branches parts _), ih hcs]
    simp

theorem branch_word (branches : List Nested) (cs : List Char) :
    (stateAt branches (cs.map plainPart).reverse).scope.branch = plainBranch cs := by
  rw [Scope.branch, stateAt, List.reverse_reverse, List.map_map]
  rfl

/-- Words with bars between them are read as one branch each. -/
theorem run?_words {w : List Char} {ws : List (List Char)} (hw : IsPlain w)
    (hws : ∀ w' ∈ ws, IsPlain w') (branches : List Nested) :
    ∃ s, run? (['|'].intercalate (w :: ws)).length (stateAt branches [])
        (['|'].intercalate (w :: ws)) = some s ∧ s.outer = [] ∧
      (s.scope.branch :: s.scope.branches).reverse =
        branches.reverse ++ (w :: ws).map plainBranch := by
  -- A bar moves the word before it to `branches`, so these are general.
  induction ws generalizing w branches with
  | nil =>
    refine ⟨stateAt branches (w.map plainPart).reverse, ?_, rfl, ?_⟩
    · have hword := run?_word hw branches [] []
      rw [List.append_nil, List.append_nil] at hword
      rw [List.intercalate_singleton, hword]
      rfl
    · rw [branch_word]
      simp [stateAt]
  | cons w' ws ih =>
    obtain ⟨hw', hws⟩ := List.forall_mem_cons.mp hws
    obtain ⟨s, hs, houter, hbranches⟩ := ih hw' hws (plainBranch w :: branches)
    refine ⟨s, ?_, houter, ?_⟩
    · rw [List.intercalate_cons_cons, List.append_assoc, run?_word hw, List.singleton_append,
        run?_cons rfl (step?_bar ..), List.append_nil, branch_word]
      exact hs
    · simpa using hbranches

/-- Things side by side nest at most one level deeper than each of them. -/
theorem depth_sideBySide_le {es : List Nested} {d : Nat} (h : ∀ e ∈ es, e.depth ≤ d)
    (join : List Regex → Regex) : (sideBySide es join).depth ≤ d + 1 := by
  have hmax : (es.map (·.depth)).foldl max 0 ≤ d :=
    foldl_max_le (Nat.zero_le d) (by simpa using h)
  unfold sideBySide
  dsimp only
  split <;> omega

theorem depth_plainBranch_le (cs : List Char) : (plainBranch cs).depth ≤ 1 :=
  depth_sideBySide_le (by simp [plainPart, Part.nested]) _

theorem regex_plainBranch (cs : List Char) : (plainBranch cs).regex = .word cs := by
  simp [plainBranch, sideBySide, plainPart, Part.nested, Regex.word, Function.comp_def]

end Reader

open Reader in
/-- **Words with bars between them are read as one of the words.** -/
theorem Regex.read?_words {words : List String} (hne : words ≠ [])
    (h : ∀ w ∈ words, IsPlain w.toList) :
    Regex.read? ("|".intercalate words) =
      some (.oneOf (words.map fun w => .word w.toList)) := by
  obtain ⟨w, ws, rfl⟩ := List.exists_cons_of_ne_nil hne
  obtain ⟨hw, hws⟩ := List.forall_mem_cons.mp h
  obtain ⟨s, hs, houter, hbranches⟩ := run?_words hw (List.forall_mem_map.mpr hws) []
  have hbody : s.scope.body =
      sideBySide (((w :: ws).map String.toList).map plainBranch) .oneOf := by
    rw [Scope.body, hbranches]
    rfl
  have hdepth : s.scope.body.depth ≤ nestingLimit := by
    rw [hbody]
    have hle : ∀ e ∈ ((w :: ws).map String.toList).map plainBranch, e.depth ≤ 1 :=
      List.forall_mem_map.mpr fun cs _ => depth_plainBranch_le cs
    exact Nat.le_trans (depth_sideBySide_le hle _) (by decide)
  have hregex : s.scope.body.regex = .oneOf ((w :: ws).map fun w => .word w.toList) := by
    rw [hbody]
    simp [sideBySide, Function.comp_def, regex_plainBranch]
  have htext : ("|".intercalate (w :: ws)).toList =
      ['|'].intercalate (w.toList :: ws.map String.toList) := String.toList_intercalate
  have hread : run? ("|".intercalate (w :: ws)).toList.length (stateAt [] [])
      ("|".intercalate (w :: ws)).toList = some s := by
    rw [htext]
    exact hs
  rw [stateAt] at hread
  simp only [Regex.read?, hread, Option.bind_eq_bind, Option.bind_some, houter, hregex]
  simp [hdepth]

/-! ### The size of words -/

namespace Regex

theorem size_plain_le (c : Char) : (Regex.chars (.single c)).size ≤ 128 := by
  have hchar : (Char.ofNat c.toNat).utf8Size ≤ 4 := Char.utf8Size_le_four _
  simp only [Regex.size, CharSet.size, CharSet.single, instructionSize, if_true]
  omega

/-- A bar costs no more than an instruction with two ways to go on and one more. -/
theorem size_alt_le (r s : Regex) : (Regex.alt r s).size ≤ 72 + r.size + s.size := by
  cases s <;> simp only [Regex.size, forkSize, branchSize, instructionSize] <;> omega

theorem size_word_le (cs : List Char) : (word cs).size ≤ 32 + 128 * cs.length := by
  induction cs with
  | nil => exact Nat.le_refl _
  | cons c cs ih =>
    have hc := size_plain_le c
    cases cs with
    | nil => exact Nat.le_trans hc (Nat.le_add_left 128 32)
    | cons c' cs =>
      have hcat : (word (c :: c' :: cs)).size =
        (Regex.chars (.single c)).size + (word (c' :: cs)).size := rfl
      rw [hcat, List.length_cons]
      omega

/-- The program for some words takes at most 128 bytes for each character of their text and
of one bar more. -/
theorem size_words_le (words : List (List Char)) (hne : words ≠ []) :
    (oneOf (words.map word)).size ≤ 128 * ((['|'].intercalate words).length + 1) := by
  obtain ⟨w, ws, rfl⟩ := List.exists_cons_of_ne_nil hne
  induction ws generalizing w with
  | nil =>
    have hw := size_word_le w
    rw [List.map_singleton, oneOf, List.intercalate_singleton]
    omega
  | cons w' ws ih =>
    have hw := size_word_le w
    have hws := ih w' (List.cons_ne_nil _ _)
    have hcons : (oneOf ((w :: w' :: ws).map word)).size =
      ((word w).alt (oneOf ((w' :: ws).map word))).size := rfl
    have halt := size_alt_le (word w) (oneOf ((w' :: ws).map word))
    rw [hcons, List.intercalate_cons_cons, List.length_append, List.length_append,
      List.length_singleton]
    omega

end Regex

/-! ### Texts as bytes -/

theorem length_toList_le (s : String) : s.toList.length ≤ s.utf8ByteSize := by
  have hsize : s.utf8ByteSize = (s.toList.map Char.utf8Size).sum := by
    rw [← String.size_toByteArray, ByteArray.size, ← Array.length_toList, toList_data_toByteArray,
      List.length_flatMap]
    simp
  rw [hsize, ← List.length_map Char.utf8Size]
  exact List.length_le_sum_of_one_le _ (by simpa using fun c _ => c.utf8Size_pos)

/-- A metacharacter is a byte of its own, so it shows among the bytes of a text. -/
theorem isPlain_of_bytes {s : String}
    (h : ∀ b ∈ s.toByteArray.data.toList, b ∉ metacharacters.map (·.val.toUInt8)) :
    IsPlain s.toList := by
  have hsize : ∀ c ∈ metacharacters, c.utf8Size = 1 := by
    simp [metacharacters, Char.utf8Size_eq_one_iff]
  intro c hc hmeta
  refine h c.val.toUInt8 ?_ (List.mem_map_of_mem hmeta)
  rw [toList_data_toByteArray]
  exact List.mem_flatMap.mpr ⟨c, hc, by simp [String.utf8EncodeChar_eq_singleton (hsize c hmeta)]⟩

end TagRules.Pattern

namespace TagRules

/-- What a text of words with bars between them takes: each word and one bar. -/
theorem utf8ByteSize_words {words : List String} (hne : words ≠ []) :
    ("|".intercalate words).utf8ByteSize + 1 = (words.map (·.utf8ByteSize + 1)).sum := by
  obtain ⟨w, ws, rfl⟩ := List.exists_cons_of_ne_nil hne
  induction ws generalizing w with
  | nil => simp
  | cons w' ws ih =>
    have hbar : "|".utf8ByteSize = 1 := rfl
    rw [String.intercalate_cons_cons, String.utf8ByteSize_append, String.utf8ByteSize_append,
      List.map_cons, List.sum_cons, ← ih w' (List.cons_ne_nil _ _), hbar]
    omega

open Pattern in
/-- **The engine makes a search of plain words**, if there is room for 128 bytes of program for
each byte of the words with a bar each. -/
theorem PatternLibrary.isSome_compile?_words {programSize : Nat} {words : List String}
    (hne : words ≠ []) (hplain : ∀ w ∈ words, IsPlain w.toList)
    (hprogram : 128 * (words.map (·.utf8ByteSize + 1)).sum ≤ programSize) :
    (engine.compile? programSize ("|".intercalate words)).isSome := by
  have hbytes := utf8ByteSize_words hne
  have hsize : (Regex.oneOf (words.map fun w => .word w.toList)).size ≤ programSize := by
    have hwords := Regex.size_words_le (words.map String.toList) (by simpa using hne)
    have hchars := length_toList_le ("|".intercalate words)
    rw [List.map_map] at hwords
    rw [String.toList_intercalate] at hchars
    calc
      _ ≤ 128 * ((['|'].intercalate (words.map String.toList)).length + 1) := hwords
      _ ≤ 128 * (words.map (·.utf8ByteSize + 1)).sum :=
        Nat.mul_le_mul_left 128 (hbytes ▸ Nat.succ_le_succ hchars)
      _ ≤ programSize := hprogram
  simp [engine, Regex.read?_words hne hplain, hsize]

end TagRules
