/-
# Rendering is one substitution in the text of a template

Where placeholders stand in a text, and what becomes of each of its characters, is decided by the
text alone. The placeholders are all those that start at some place of it, from left to right
(`occurrences`). To substitute them all at once, a character at which a placeholder starts gives
what the placeholder shows, a character inside of one gives nothing, and any other gives itself
(`substitute`). What is shown is not looked at again.

A template that was read has exactly the placeholders of its text
(`Template.placeholders_of_parse`), and it renders as the substitution of what they show
(`Template.text_eq_substitute`). If one of them cannot be read, there is no text, and the leftmost
of these is the error (`Template.render_eq_substitute`).

Key definitions: `occurrences`, `ReachesOver`, `substitute`.
Key theorems: `Template.Reads.flatMap_shown`, `Template.placeholders_of_parse`,
`Template.text_eq_substitute`, `Template.render_eq_substitute`.
-/
import Mathlib.Data.List.Infix
import TagRules.Proofs.Placeholder
import TagRules.Proofs.Template

namespace TagRules

/-! ### Substitution -/

/-- The placeholders of a text, from left to right. -/
def occurrences (cs : List Char) : List Placeholder := cs.tails.filterMap placeholderAt?

/-- A placeholder that starts before position `k` reaches over position `i`. -/
def ReachesOver (cs : List Char) (k i : Nat) : Prop :=
  ∃ j < k, ∃ p ∈ placeholderAt? (cs.drop j), i < j + p.chars.length

instance (cs : List Char) (k i : Nat) : Decidable (ReachesOver cs k i) :=
  inferInstanceAs (Decidable (∃ j < k, ∃ p ∈ placeholderAt? (cs.drop j), i < j + p.chars.length))

/-- What the character at a position gives. -/
def shownAt (shown : SlotRef → String) (cs : List Char) (i : Nat) : List Char :=
  match placeholderAt? (cs.drop i) with
  | some p => (shown p.ref).toList
  | none => if ReachesOver cs i i then [] else cs[i]?.toList

/-- A text with all its placeholders replaced at once. -/
def substitute (shown : SlotRef → String) (cs : List Char) : List Char :=
  (List.range cs.length).flatMap (shownAt shown cs)

theorem reachesOver_succ {cs : List Char} {k i : Nat} : ReachesOver cs (k + 1) i ↔
    ReachesOver cs k i ∨ ∃ p ∈ placeholderAt? (cs.drop k), i < k + p.chars.length := by
  simp only [ReachesOver, Nat.lt_succ_iff_lt_or_eq]
  constructor
  · rintro ⟨j, hj | rfl, h⟩
    · exact .inl ⟨j, hj, h⟩
    · exact .inr h
  · rintro (⟨j, hj, h⟩ | h)
    · exact ⟨j, .inl hj, h⟩
    · exact ⟨k, .inr rfl, h⟩

theorem drop_succ_eq {cs rest : List Char} {c : Char} {i : Nat} (h : cs.drop i = c :: rest) :
    cs.drop (i + 1) = rest := by
  rw [← List.drop_drop, h]
  rfl

/-- What a piece of a template refers to. -/
def Piece.ref? : Piece → Option SlotRef
  | .char _ => none
  | .ref r => some r

namespace Template

theorem Reads.filterMap_ref? {skip : Nat} {cs : List Char} {ps : List Piece}
    (h : Reads skip cs ps) : ps.filterMap Piece.ref? = (occurrences cs).map Placeholder.ref := by
  unfold occurrences
  induction h with
  | nil => rfl
  | skip hc _ ih =>
    rw [List.tails_cons, List.filterMap_cons_none (placeholderAt?_cons_of_ne hc _), ih]
  | ref hp _ ih =>
    rw [List.tails_cons, List.filterMap_cons_some hp, List.map_cons, ← ih]
    rfl
  | char hp _ ih =>
    rw [List.tails_cons, List.filterMap_cons_none hp, ← ih]
    rfl

/-- The pieces of the rest of a text show what the substitution in the whole text gives from there
on. The characters to be skipped are those over which a placeholder before them reaches. -/
theorem Reads.flatMap_shown {skip : Nat} {rest : List Char} {ps : List Piece}
    (h : Reads skip rest ps) (shown : SlotRef → String) (cs : List Char) :
    ∀ i, cs.drop i = rest → (∀ m, ReachesOver cs i (i + m) ↔ m < skip) →
      ps.flatMap (Piece.shown shown) =
        (List.range' i rest.length).flatMap (shownAt shown cs) := by
  -- `skip` counts down along the rest of the text, and how far a placeholder still reaches over the
  -- whole text from position `i` on has to keep in step with it
  induction h with
  | nil => exact fun _ _ _ => rfl
  | @skip k c rest ps hc _ ih =>
    intro i hi hreach
    have hnone : placeholderAt? (cs.drop i) = none := hi ▸ placeholderAt?_cons_of_ne hc rest
    have hover : ReachesOver cs i i := (hreach 0).mpr (Nat.succ_pos k)
    have hhere : shownAt shown cs i = [] := by
      rw [shownAt, hnone]
      exact if_pos hover
    have hnext : ∀ m, ReachesOver cs (i + 1) (i + 1 + m) ↔ m < k := by
      intro m
      have hm := hreach (1 + m)
      rw [← Nat.add_assoc] at hm
      rw [reachesOver_succ, hnone, hm]
      simp
      omega
    rw [List.length_cons, List.range'_succ, List.flatMap_cons, hhere, List.nil_append]
    exact ih (i + 1) (drop_succ_eq hi) hnext
  | @ref c rest p ps hp _ ih =>
    intro i hi hreach
    have hsome : placeholderAt? (cs.drop i) = some p := hi ▸ hp
    have hhere : shownAt shown cs i = (shown p.ref).toList := by rw [shownAt, hsome]
    have hnext : ∀ m, ReachesOver cs (i + 1) (i + 1 + m) ↔ m < p.body.length := by
      intro m
      have hm : ¬ ReachesOver cs i (i + 1 + m) := by
        rw [Nat.add_assoc, hreach]
        exact Nat.not_lt_zero _
      rw [reachesOver_succ, hsome]
      simp only [hm, Option.mem_def, Option.some.injEq, exists_eq_left', false_or,
        Placeholder.chars, List.length_cons]
      omega
    rw [List.length_cons, List.range'_succ, List.flatMap_cons, List.flatMap_cons, hhere]
    exact congrArg ((shown p.ref).toList ++ ·) (ih (i + 1) (drop_succ_eq hi) hnext)
  | @char c rest ps hp _ ih =>
    intro i hi hreach
    have hnone : placeholderAt? (cs.drop i) = none := hi ▸ hp
    have hnot : ¬ ReachesOver cs i i := fun h => Nat.not_lt_zero 0 ((hreach 0).mp h)
    have hhere : shownAt shown cs i = [c] := by
      rw [shownAt, hnone, ← List.head?_drop, hi]
      exact if_neg hnot
    have hnext : ∀ m, ReachesOver cs (i + 1) (i + 1 + m) ↔ m < 0 := by
      intro m
      rw [reachesOver_succ, hnone, Nat.add_assoc, hreach]
      simp
    rw [List.length_cons, List.range'_succ, List.flatMap_cons, List.flatMap_cons, hhere]
    exact congrArg (c :: ·) (ih (i + 1) (drop_succ_eq hi) hnext)

/-- A template that was read is made of what its text was taken apart into. -/
theorem exists_reads_of_parse {source : String} {t : Template} (h : parse source = .ok t) :
    ∃ ps, Reads 0 source.toList ps ∧ t = ⟨source, Segment.ofPieces [] ps⟩ := by
  obtain ⟨ps, hps, rfl⟩ := map_eq_ok.mp h
  exact ⟨ps, reads_of_pieces (by simp) hps, rfl⟩

theorem placeholders_flush (source : String) (pending : List Char) (rest : List Segment) :
    (mk source (Segment.flush pending rest)).placeholders = (mk source rest).placeholders := by
  unfold Segment.flush
  split <;> rfl

theorem placeholders_ofPieces (source : String) : ∀ (ps : List Piece) (pending : List Char),
    (mk source (Segment.ofPieces pending ps)).placeholders = ps.filterMap Piece.ref?
  | [], pending => placeholders_flush source pending []
  | .char c :: ps, pending => placeholders_ofPieces source ps (c :: pending)
  | .ref r :: ps, pending => by
    have ih := placeholders_ofPieces source ps []
    rw [Segment.ofPieces, placeholders_flush]
    exact congrArg (r :: ·) ih

/-- The references of a template that was read are the placeholders of its text, in order. -/
theorem placeholders_of_parse {source : String} {t : Template} (h : parse source = .ok t) :
    t.placeholders = (occurrences source.toList).map Placeholder.ref := by
  obtain ⟨ps, hps, rfl⟩ := exists_reads_of_parse h
  rw [placeholders_ofPieces, hps.filterMap_ref?]

/-- The text of a template that was read is one substitution in what it was read from. -/
theorem text_eq_substitute {source : String} {t : Template} (h : parse source = .ok t)
    (shown : SlotRef → String) :
    t.text shown = String.ofList (substitute shown source.toList) := by
  obtain ⟨ps, hps, rfl⟩ := exists_reads_of_parse h
  have hstart : ∀ m, ReachesOver source.toList 0 (0 + m) ↔ m < 0 := by simp [ReachesOver]
  have hshown := hps.flatMap_shown shown source.toList 0 rfl hstart
  rw [← List.range_eq_range'] at hshown
  apply String.toList_inj.mp
  rw [text, String.toList_join, Segment.flatMap_ofPieces, String.toList_ofList, hshown]
  rfl

/-- **Rendering is one substitution.** The references of a template that was read are the
placeholders of its text, from left to right. If a scope binds all their slots, each of them is
replaced at once by what its slot holds, and the text stays as it is everywhere else. If not, the
error is the slot of the leftmost placeholder that the scope does not bind. -/
theorem render_eq_substitute {source : String} {t : Template} (h : parse source = .ok t)
    (captures : Captures) :
    t.placeholders = (occurrences source.toList).map Placeholder.ref ∧
    t.render captures =
      match (occurrences source.toList).find? (!captures.isBound ·.ref.slot) with
      | some p => .error ⟨p.ref.slot⟩
      | none => .ok (String.ofList (substitute captures.shown source.toList)) := by
  have hplaceholders := placeholders_of_parse h
  refine ⟨hplaceholders, ?_⟩
  rw [render_eq_match, hplaceholders, List.find?_map, text_eq_substitute h]
  simp only [Function.comp_def]
  cases (occurrences source.toList).find? (!captures.isBound ·.ref.slot) <;> rfl

/-- A text with braces inside of braces, next to each other, and left open, and with leading
zeros. What the slots hold looks like placeholders too. -/
def nested : String := "\x7b\x7b0.key\x7d\x7ba\x7b007.value\x7d\x7d\x7b"

theorem render_nested :
    let t : Template := ⟨nested, [.text "\x7b", .ref ⟨0, .key⟩, .text "\x7ba", .ref ⟨7, .value⟩,
      .text "\x7d\x7b"]⟩
    let named : Captures := ⟨[some ⟨some "\x7b7.value\x7d", none⟩]⟩
    let both : Captures := named.bindText 7 "\x7b0"
    parse nested = .ok t ∧
      (occurrences nested.toList).map Placeholder.ref = [⟨0, .key⟩, ⟨7, .value⟩] ∧
      t.render both = .ok "\x7b\x7b7.value\x7d\x7ba\x7b0\x7d\x7b" ∧
      t.render named = .error ⟨7⟩ := by
  intro t named both
  have h : parse nested = .ok t := by cbv
  refine ⟨h, ?_, ?_, ?_⟩
  · rw [← (render_eq_substitute h .empty).1]
    rfl
  · have hbound : (occurrences nested.toList).find? (!both.isBound ·.ref.slot) = none := by
      decide +kernel
    have htext : substitute both.shown nested.toList =
        "\x7b\x7b7.value\x7d\x7ba\x7b0\x7d\x7b".toList := by decide +kernel
    rw [(render_eq_substitute h _).2, hbound, htext]
    rfl
  · have hunbound : ((occurrences nested.toList).find? (!named.isBound ·.ref.slot)).map
        Placeholder.ref = some ⟨7, .value⟩ := by decide +kernel
    obtain ⟨p, hp, href⟩ := Option.map_eq_some_iff.mp hunbound
    rw [(render_eq_substitute h _).2, hp]
    simp only [href]

end Template

end TagRules
