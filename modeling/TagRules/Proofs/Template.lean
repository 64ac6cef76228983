/-
# A message is its template with the references replaced

Rendering goes through segments; filling in goes through the text of the template once,
from left to right, and copies every character that belongs to no slot reference
(`fillIn`). Whenever all references can be read, both give the same text
(`Template.render_eq`, `Template.text_of_parse`). Texts that are filled in are not
looked at again. If some reference cannot be read, there is no text, and the first such
reference is the error (`Template.render_eq_match`).

Key definitions: `fillIn`, `Template.text`, `Captures.shown`.
Key theorems: `Template.render_eq`, `Template.text_of_parse`, `Captures.read_eq_shown`,
`Template.render_eq_match`.
-/
import TagRules.Proofs.Lists
import TagRules.Template

namespace TagRules

/-- A text with its slot references replaced, after `skip` characters that belong to a
reference that was replaced already. -/
def fillIn (shown : SlotRef → String) (skip : Nat) : List Char → List Char
  | [] => []
  | c :: cs =>
    match skip with
    | k + 1 => fillIn shown k cs
    | 0 =>
      if c = '\x7b' then
        match slotRef? cs with
        | some (r, n) => (shown r).toList ++ fillIn shown n cs
        | none => c :: fillIn shown 0 cs
      else c :: fillIn shown 0 cs

def Piece.shown (shown : SlotRef → String) : Piece → List Char
  | .char c => [c]
  | .ref r => (shown r).toList

def Segment.shown (shown : SlotRef → String) : Segment → String
  | .text s => s
  | .ref r => shown r

theorem fillIn_of_pieces (shown : SlotRef → String) : ∀ (cs : List Char) (skip : Nat)
    (ps : List Piece), Template.pieces skip cs = .ok ps →
    fillIn shown skip cs = ps.flatMap (Piece.shown shown)
  | [], _, ps, h => by
    obtain rfl := Except.ok.inj h
    rfl
  | c :: cs, k + 1, ps, h => fillIn_of_pieces shown cs k ps h
  | c :: cs, 0, ps, h => by
    -- a character or a reference comes first, and the rest has pieces of its own
    have hfirst : ∀ (p : Piece) (skip : Nat),
        (Template.pieces skip cs).map (p :: ·) = .ok ps →
        p.shown shown ++ fillIn shown skip cs = ps.flatMap (Piece.shown shown) := by
      intro p skip hp
      cases hrest : Template.pieces skip cs with
      | error e => rw [hrest] at hp; cases hp
      | ok rest =>
        rw [hrest] at hp
        obtain rfl := Except.ok.inj hp
        rw [fillIn_of_pieces shown cs skip rest hrest]
        rfl
    unfold Template.pieces at h
    unfold fillIn
    by_cases hc : c = '\x7b'
    · simp only [hc, if_true] at h ⊢
      cases hr : slotRef? cs with
      | some x =>
        rw [hr] at h
        exact hfirst (.ref x.1) x.2 h
      | none =>
        simp only [hr] at h ⊢
        split at h
        · cases h
        · exact hfirst (.char '\x7b') 0 h
    · simp only [hc, if_false] at h ⊢
      exact hfirst (.char c) 0 h

namespace Segment

theorem flatMap_flush (shown : SlotRef → String) (pending : List Char) (rest : List Segment) :
    ((flush pending rest).map (Segment.shown shown)).flatMap String.toList =
      pending.reverse ++ (rest.map (Segment.shown shown)).flatMap String.toList := by
  unfold flush
  by_cases h : pending = []
  · simp [h]
  · simp [h, Segment.shown]

/-- Joining characters to segments changes nothing of what is shown. -/
theorem flatMap_ofPieces (shown : SlotRef → String) : ∀ (ps : List Piece) (pending : List Char),
    ((ofPieces pending ps).map (Segment.shown shown)).flatMap String.toList =
      pending.reverse ++ ps.flatMap (Piece.shown shown)
  | [], pending => by
    rw [ofPieces, flatMap_flush]
    rfl
  | .char c :: ps, pending => by
    rw [ofPieces, flatMap_ofPieces shown ps, List.reverse_cons, List.append_assoc]
    rfl
  | .ref r :: ps, pending => by
    rw [ofPieces, flatMap_flush, List.map_cons, List.flatMap_cons, flatMap_ofPieces shown ps]
    rfl

end Segment

namespace Template

def text (t : Template) (shown : SlotRef → String) : String :=
  String.join (t.segments.map (Segment.shown shown))

/-- A template renders as its text, if all its references can be read. -/
theorem render_eq {t : Template} {captures : Captures} {shown : SlotRef → String}
    (h : ∀ r ∈ t.placeholders, captures.read r = .ok (shown r)) :
    t.render captures = .ok (t.text shown) := by
  have hsegments : t.segments.mapM (Segment.render captures) =
      .ok (t.segments.map (Segment.shown shown)) := by
    refine mapM_ok_of_forall fun s hs => ?_
    cases s with
    | text s => rfl
    | ref r => exact h r (List.mem_filterMap.mpr ⟨.ref r, hs, rfl⟩)
  rw [render, hsegments]
  rfl

/-- The text of a template that was read is what it was read from, filled in. -/
theorem text_of_parse {source : String} {t : Template} (ht : parse source = .ok t)
    (shown : SlotRef → String) : t.text shown = String.ofList (fillIn shown 0 source.toList) := by
  unfold parse at ht
  cases hps : pieces 0 source.toList with
  | error e => rw [hps] at ht; cases ht
  | ok ps =>
    rw [hps] at ht
    obtain rfl := Except.ok.inj ht
    rw [fillIn_of_pieces shown _ 0 ps hps]
    apply String.toList_inj.mp
    rw [text, String.toList_join, Segment.flatMap_ofPieces, String.toList_ofList]
    rfl

end Template

/-- What a reference shows in a scope; a missing half shows as the empty text. -/
def Captures.shown (captures : Captures) (r : SlotRef) : String :=
  ((captures.get? r.slot).bind (·.half r.part)).getD ""

theorem Captures.read_eq_shown {captures : Captures} {r : SlotRef}
    (h : captures.isBound r.slot = true) : captures.read r = .ok (captures.shown r) := by
  unfold isBound at h
  unfold read shown
  cases hx : captures.get? r.slot with
  | none => rw [hx] at h; cases h
  | some x => rfl

theorem Captures.read_eq_error {captures : Captures} {r : SlotRef}
    (h : captures.isBound r.slot = false) : captures.read r = .error ⟨r.slot⟩ := by
  unfold isBound at h
  unfold read
  cases hx : captures.get? r.slot with
  | none => rfl
  | some x => rw [hx] at h; cases h

namespace Template

/-- Segments are rendered from left to right, up to the first reference that cannot be read. -/
theorem mapM_render (captures : Captures) (source : String) : ∀ segments : List Segment,
    segments.mapM (Segment.render captures) =
      match (mk source segments).placeholders.find? (!captures.isBound ·.slot) with
      | some r => .error ⟨r.slot⟩
      | none => .ok (segments.map (Segment.shown captures.shown))
  | [] => rfl
  | .text s :: segments => by
    have ih := mapM_render captures source segments
    have hplaceholders : (mk source (.text s :: segments)).placeholders =
        (mk source segments).placeholders := rfl
    rw [List.mapM_cons, ih, hplaceholders]
    cases (mk source segments).placeholders.find? (!captures.isBound ·.slot) <;> rfl
  | .ref r :: segments => by
    have ih := mapM_render captures source segments
    have hplaceholders : (mk source (.ref r :: segments)).placeholders =
        r :: (mk source segments).placeholders := rfl
    rw [List.mapM_cons, hplaceholders]
    cases h : captures.isBound r.slot with
    | false =>
      have hread : Segment.render captures (.ref r) = .error ⟨r.slot⟩ := Captures.read_eq_error h
      rw [hread, List.find?_cons_of_pos (by simp [h])]
      rfl
    | true =>
      have hread : Segment.render captures (.ref r) = .ok (captures.shown r) :=
        Captures.read_eq_shown h
      rw [hread, ih, List.find?_cons_of_neg (by simp [h])]
      cases (mk source segments).placeholders.find? (!captures.isBound ·.slot) <;> rfl

/-- **A template renders as its text, or not at all.** The error is the first reference, from the
left, to a slot that is not bound. -/
theorem render_eq_match (t : Template) (captures : Captures) :
    t.render captures =
      match t.placeholders.find? (!captures.isBound ·.slot) with
      | some r => .error ⟨r.slot⟩
      | none => .ok (t.text captures.shown) := by
  rw [render, mapM_render captures t.source]
  cases t.placeholders.find? (!captures.isBound ·.slot) <;> rfl

end Template

end TagRules
