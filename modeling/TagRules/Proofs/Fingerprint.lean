/-
# What a fingerprint is taken of

For a clause of a rule, the id of the rule is hashed, a line feed, and the texts of the tests one
after the other (`hashed`). Nothing in these texts is escaped, so where a part of one ends can only
be told from what closes it and what may stand next: the key of a test is closed by a quote, and a
bracket or the sign of an operator follows; its operand is closed by a quote or a slash and a
bracket, and nothing or another test follows; the id is closed by the line feed, and a test follows.

A part that does not hold its own end is apart from what follows (`Apart`, `append_close_inj`). If
all parts are, the bytes say which rule and which tests they were made of (`hashed_eq_iff`), and two
different clauses have one fingerprint only if the digests of different bytes start alike.

If one part does hold its own end, this fails: other tests can be made of the same bytes, be it a
key, an operand of either kind, or an id (`hashed_collisions`).

Key definitions: `Apart`, `Test.asks`, `Test.Closed`, `hashed`.
Key theorems: `append_close_inj`, `Test.asks_inj`, `hashed_eq_iff`, `hashed_collisions`.
-/
import TagRules.Pattern.Engine
import TagRules.Proofs.Build

namespace TagRules

/-! ### Texts that are apart from what follows -/

/-- Nowhere in a text does `close` stand before one of the characters `next`. -/
def Apart (close next : List Char) (text : String) : Prop :=
  ∀ c ∈ next, ¬ close ++ [c] <:+: text.toList

-- spelled out, since the instance found for `∀ c ∈ next` may be one that runs over all characters
instance (close next : List Char) : DecidablePred (Apart close next) := fun text =>
  decidable_of_iff (next.all (fun c => !Text.occursIn (close ++ [c]) text.toList) = true)
    (by simp [Apart, ← Text.occursIn_iff_isInfix])

/-- A text ends, or one of the characters `next` comes first. -/
def StartsWith (next cs : List Char) : Prop := ∀ c ∈ cs.head?, c ∈ next

/-- Where a text is closed, no longer text that is apart from what follows is closed too. -/
theorem eq_nil_of_append_close {x : Char} {close next w rest rest' : List Char} (hclose : x ∉ close)
    (hnext : x ∉ next) (hw : ∀ c ∈ next, ¬ x :: close ++ [c] <:+: w) (hrest : StartsWith next rest)
    (h : w ++ (x :: close ++ rest') = x :: close ++ rest) : w = [] := by
  cases w with
  | nil => rfl
  | cons y w =>
    obtain ⟨rfl, htail⟩ := List.cons.inj h
    rcases List.append_eq_append_iff.mp htail with ⟨u, hclose', hrest'⟩ | ⟨u, rfl, hrest'⟩
    · -- `close` goes on past `w`, with the first character of itself
      cases u with
      | nil => exact absurd (hrest y (by rw [← List.nil_append rest, ← hrest']; rfl)) hnext
      | cons z u =>
        obtain ⟨rfl, -⟩ := List.cons.inj hrest'
        exact absurd (hclose' ▸ List.mem_append_right w List.mem_cons_self) hclose
    · -- `w` goes on past `close`, with what may come next
      cases u with
      | nil => exact absurd (hrest y (by rw [hrest']; rfl)) hnext
      | cons c u =>
        have hc : c ∈ next := hrest c (by rw [hrest']; rfl)
        exact absurd ⟨[], u, by simp⟩ (hw c hc)

/-- Texts that are apart from what follows are told from it, and it from them. -/
theorem append_close_inj {x : Char} {close next : List Char} {text text' : String}
    {rest rest' : List Char} (hclose : x ∉ close) (hnext : x ∉ next)
    (htext : Apart (x :: close) next text) (htext' : Apart (x :: close) next text')
    (hrest : StartsWith next rest) (hrest' : StartsWith next rest')
    (h : text.toList ++ (x :: close ++ rest) = text'.toList ++ (x :: close ++ rest')) :
    text = text' ∧ rest = rest' := by
  have hpart : ∀ {v w : List Char} {c : Char}, x :: close ++ [c] <:+: w →
      x :: close ++ [c] <:+: v ++ w := fun h => h.trans (List.suffix_append _ _).isInfix
  have htexts : text.toList = text'.toList := by
    rcases List.append_eq_append_iff.mp h with ⟨w, hw, hsplit⟩ | ⟨w, hw, hsplit⟩
    · have hnil : w = [] := eq_nil_of_append_close hclose hnext
        (fun c hc hin => htext' c hc (hw ▸ hpart hin)) hrest hsplit.symm
      rw [hw, hnil, List.append_nil]
    · have hnil : w = [] := eq_nil_of_append_close hclose hnext
        (fun c hc hin => htext c hc (hw ▸ hpart hin)) hrest' hsplit.symm
      rw [hw, hnil, List.append_nil]
  refine ⟨String.toList_inj.mp htexts, ?_⟩
  rw [htexts] at h
  exact List.append_cancel_left (List.append_cancel_left h)

/-! ### Texts of tests -/

namespace Predicate

/-- What stands before the quoted key in the text of a test. -/
def mark : Predicate → List Char
  | .absent => ['!']
  | .present | .equals _ | .differs _ | .contains _ | .finds _ | .avoids _ => []

/-- What closes the operand. -/
def close : Predicate → List Char
  | .finds _ | .avoids _ => ['/', ']']
  | .present | .absent | .equals _ | .differs _ | .contains _ => ['"', ']']

/-- What stands after the quoted key in the text of a test. -/
def ending : Predicate → List Char
  | .present | .absent => [']']
  | .equals text => '=' :: '"' :: (text.toList ++ ['"', ']'])
  | .differs text => '!' :: '=' :: '"' :: (text.toList ++ ['"', ']'])
  | .contains text => '*' :: '=' :: '"' :: (text.toList ++ ['"', ']'])
  | .finds p => '=' :: '~' :: '/' :: (p.source.toList ++ ['/', ']'])
  | .avoids p => '!' :: '~' :: '/' :: (p.source.toList ++ ['/', ']'])

/-- The characters that may follow a quoted key. -/
def signs : List Char := [']', '=', '!', '*']

theorem startsWith_ending (p : Predicate) (rest : List Char) :
    StartsWith signs (p.ending ++ rest) := by
  intro c hc
  cases p <;> simp_all [ending, signs, eq_comm]

theorem mark_inj {p p' : Predicate} {cs cs' : List Char}
    (h : p.mark ++ '"' :: cs = p'.mark ++ '"' :: cs') : p.mark = p'.mark ∧ cs = cs' := by
  cases p <;> cases p' <;> simp_all [mark]

/-- What stands after the key tells what a test asks, if it is known whether the key is marked. -/
theorem ending_inj {p p' : Predicate} {rest rest' : List Char} (hmark : p.mark = p'.mark)
    (hp : ∀ text ∈ p.operand?, Apart p.close ['['] text)
    (hp' : ∀ text ∈ p'.operand?, Apart p'.close ['['] text)
    (hrest : StartsWith ['['] rest) (hrest' : StartsWith ['['] rest')
    (h : p.ending ++ rest = p'.ending ++ rest') :
    (p.operator = p'.operator ∧ p.operand? = p'.operand?) ∧ rest = rest' := by
  have hoperand : ∀ {quote : Char} {text text' : String}, quote ∉ [']'] → quote ∉ ['['] →
      Apart [quote, ']'] ['['] text → Apart [quote, ']'] ['['] text' →
      text.toList ++ quote :: ']' :: rest = text'.toList ++ quote :: ']' :: rest' →
      text = text' ∧ rest = rest' := fun hclose hnext htext htext' heq =>
    append_close_inj hclose hnext htext htext' hrest hrest' heq
  -- for two operators, the texts differ in the mark or in what comes first after the key
  cases p <;> cases p' <;> simp [ending, mark] at h hmark
  case present.present | absent.absent => exact ⟨⟨rfl, rfl⟩, h⟩
  case equals.equals text text' | differs.differs text text' | contains.contains text text' =>
    obtain ⟨rfl, heq⟩ := hoperand (by decide) (by decide) (hp _ rfl) (hp' _ rfl) h
    exact ⟨⟨rfl, rfl⟩, heq⟩
  case finds.finds q q' | avoids.avoids q q' =>
    obtain ⟨hsource, heq⟩ := hoperand (by decide) (by decide) (hp _ rfl) (hp' _ rfl) h
    exact ⟨⟨rfl, congrArg some hsource⟩, heq⟩

end Predicate

namespace Test

/-- What a test asks: its key, its operator and its operand. It does not matter what it binds. -/
def asks (t : Test) : String × Operator × Option String :=
  (t.key, t.predicate.operator, t.predicate.operand?)

/-- The parts of the text of a test are apart from what follows them. -/
structure Closed (t : Test) : Prop where
  key : Apart ['"'] Predicate.signs t.key
  operand : ∀ text ∈ t.predicate.operand?, Apart t.predicate.close ['['] text

instance : DecidablePred Closed := fun t =>
  decidable_of_iff (Apart ['"'] Predicate.signs t.key ∧
      ∀ text ∈ t.predicate.operand?, Apart t.predicate.close ['['] text)
    ⟨fun h => ⟨h.1, h.2⟩, fun h => ⟨h.key, h.operand⟩⟩

theorem toList_text (t : Test) : t.text.toList =
    '[' :: (t.predicate.mark ++ '"' :: (t.key.toList ++ '"' :: t.predicate.ending)) := by
  obtain ⟨key, predicate, slot⟩ := t
  cases predicate <;> simp [text, Predicate.mark, Predicate.ending]

theorem text_eq_of_asks {t t' : Test} (h : t.asks = t'.asks) : t.text = t'.text := by
  obtain ⟨key, predicate, slot⟩ := t
  obtain ⟨key', predicate', slot'⟩ := t'
  cases predicate <;> cases predicate' <;>
    simp_all [asks, text, Predicate.operator, Predicate.operand?]

theorem map_text_of_asks : ∀ {tests tests' : List Test},
    tests.map asks = tests'.map asks → tests.map text = tests'.map text
  | [], [], _ => rfl
  | t :: ts, t' :: ts', h => by
    obtain ⟨ht, hts⟩ := List.cons.inj h
    rw [List.map_cons, List.map_cons, text_eq_of_asks ht, map_text_of_asks hts]

/-- The text of a test tells what the test asks, and where the text ends. -/
theorem asks_inj {t t' : Test} {rest rest' : List Char} (ht : t.Closed) (ht' : t'.Closed)
    (hrest : StartsWith ['['] rest) (hrest' : StartsWith ['['] rest')
    (h : t.text.toList ++ rest = t'.text.toList ++ rest') : t.asks = t'.asks ∧ rest = rest' := by
  simp only [toList_text, List.cons_append, List.append_assoc] at h
  obtain ⟨hmark, h⟩ := Predicate.mark_inj (List.cons.inj h).2
  obtain ⟨hkey, h⟩ := append_close_inj (by decide) (by decide) ht.key ht'.key
    (t.predicate.startsWith_ending rest) (t'.predicate.startsWith_ending rest') h
  obtain ⟨⟨hop, hoperand⟩, heq⟩ :=
    Predicate.ending_inj hmark ht.operand ht'.operand hrest hrest' h
  exact ⟨by rw [asks, asks, hkey, hop, hoperand], heq⟩

/-- The texts of tests one after the other start as that of a test does. -/
theorem startsWith_texts : ∀ tests : List Test,
    StartsWith ['['] (tests.flatMap (·.text.toList))
  | [] => nofun
  | t :: ts => by
    intro c hc
    rw [List.flatMap_cons, toList_text] at hc
    exact Option.some.inj hc ▸ List.mem_cons_self

/-- The texts of tests one after the other tell what each of them asks. -/
theorem map_asks_inj : ∀ {tests tests' : List Test}, (∀ t ∈ tests, t.Closed) →
    (∀ t ∈ tests', t.Closed) →
    tests.flatMap (·.text.toList) = tests'.flatMap (·.text.toList) →
    tests.map asks = tests'.map asks
  | [], [], _, _, _ => rfl
  | [], t :: ts, _, _, h => by
    rw [List.flatMap_cons, toList_text] at h
    cases h
  | t :: ts, [], _, _, h => by
    rw [List.flatMap_cons, toList_text] at h
    cases h
  | t :: ts, t' :: ts', ht, ht', h => by
    rw [List.forall_mem_cons] at ht ht'
    obtain ⟨hasks, hrest⟩ :=
      asks_inj ht.1 ht'.1 (startsWith_texts ts) (startsWith_texts ts') h
    rw [List.map_cons, List.map_cons, hasks, map_asks_inj ht.2 ht'.2 hrest]

end Test

/-! ### What is hashed -/

/-- The bytes that are hashed for a clause of a rule. -/
def hashed (rule : String) (tests : List Test) : List UInt8 :=
  fingerprintBytes rule (String.join (tests.map (·.text)))

/-- The loop puts the bytes from position `i` on after those that it has collected. -/
theorem loop_toList (bytes : ByteArray) (i : Nat) (collected : List UInt8) :
    ByteArray.toList.loop bytes i collected =
      collected.reverse ++ bytes.data.toList.drop i := by
  fun_induction ByteArray.toList.loop bytes i collected with
  | case1 i collected hlt ih =>
    have hi : i < bytes.data.toList.length := hlt
    have hget : bytes.get! i = bytes.data.toList[i] := getElem!_pos bytes.data i hlt
    rw [ih, List.drop_eq_getElem_cons hi, hget, List.reverse_cons, List.append_assoc]
    rfl
  | case2 i collected hge =>
    have hle : bytes.data.toList.length ≤ i := Nat.le_of_not_lt hge
    rw [List.drop_eq_nil_of_le hle, List.append_nil]

theorem toList_eq_toList_data (bytes : ByteArray) : bytes.toList = bytes.data.toList :=
  loop_toList bytes 0 []

theorem toList_toUTF8_inj {s s' : String} (h : s.toUTF8.toList = s'.toUTF8.toList) : s = s' := by
  rw [toList_eq_toList_data, toList_eq_toList_data] at h
  exact String.toByteArray_inj.mp (ByteArray.ext (Array.toList_inj.mp h))

theorem fingerprintBytes_inj {rule rule' text text' : String}
    (h : fingerprintBytes rule text = fingerprintBytes rule' text') :
    rule.toList ++ '\n' :: text.toList = rule'.toList ++ '\n' :: text'.toList := by
  have hstring := congrArg String.toList (toList_toUTF8_inj h)
  simpa using hstring

theorem toList_join_texts (tests : List Test) :
    (String.join (tests.map (·.text))).toList = tests.flatMap (·.text.toList) := by
  rw [String.toList_join, List.flatMap_map]

theorem hashed_inj {rule rule' : String} {tests tests' : List Test}
    (hrule : Apart ['\n'] ['['] rule) (hrule' : Apart ['\n'] ['['] rule')
    (htests : ∀ t ∈ tests, t.Closed) (htests' : ∀ t ∈ tests', t.Closed)
    (h : hashed rule tests = hashed rule' tests') :
    rule = rule' ∧ tests.map Test.asks = tests'.map Test.asks := by
  have hbytes := fingerprintBytes_inj h
  rw [toList_join_texts, toList_join_texts] at hbytes
  obtain ⟨hrules, hrest⟩ := append_close_inj (by decide) (by decide) hrule hrule'
    (Test.startsWith_texts tests) (Test.startsWith_texts tests') hbytes
  exact ⟨hrules, Test.map_asks_inj htests htests' hrest⟩

/-- **What is hashed tells the clause**, if each part of the texts is apart from what follows it.
Two clauses that differ in what they ask, or belong to different rules, then have one fingerprint
only if the digests of their different bytes have the same first 31 bits. -/
theorem hashed_eq_iff {rule rule' : String} {tests tests' : List Test}
    (hrule : Apart ['\n'] ['['] rule) (hrule' : Apart ['\n'] ['['] rule')
    (htests : ∀ t ∈ tests, t.Closed) (htests' : ∀ t ∈ tests', t.Closed) :
    (hashed rule tests = hashed rule' tests' ↔
      rule = rule' ∧ tests.map Test.asks = tests'.map Test.asks) ∧
    (fingerprint rule (String.join (tests.map (·.text))) =
        fingerprint rule' (String.join (tests'.map (·.text))) →
      rule = rule' ∧ tests.map Test.asks = tests'.map Test.asks ∨
      hashed rule tests ≠ hashed rule' tests' ∧
        (Sha256.digest (hashed rule tests)).headD 0 >>> 1 =
          (Sha256.digest (hashed rule' tests')).headD 0 >>> 1) := by
  have hinj := hashed_inj hrule hrule' htests htests'
  refine ⟨⟨hinj, ?_⟩, fun h => ?_⟩
  · rintro ⟨rfl, hasks⟩
    rw [hashed, hashed, Test.map_text_of_asks hasks]
  · by_cases heq : hashed rule tests = hashed rule' tests'
    · exact .inl (hinj heq)
    · exact .inr ⟨heq, h⟩

/-- Two clauses whose texts hold quotes, slashes, brackets and a line feed, and differ in a slash
only. -/
theorem hashed_of_quotes :
    let searched := PatternLibrary.found .engine .standard
    let tests := fun source => [⟨"max\"height", .equals "5\"]", some 0⟩,
      ⟨"note", .differs "\n[\"a\"]", none⟩, ⟨"kind", .finds ⟨source, searched source⟩, none⟩]
    (∀ t ∈ tests "[;/]", t.Closed) ∧ (∀ t ∈ tests "[;]", t.Closed) ∧
      hashed "bridge" (tests "[;/]") ≠ hashed "bridge" (tests "[;]") := by
  intro searched tests
  have hrule : Apart ['\n'] ['['] "bridge" := by decide +kernel
  have hslash : ∀ t ∈ tests "[;/]", t.Closed := by decide +kernel
  have hplain : ∀ t ∈ tests "[;]", t.Closed := by decide +kernel
  refine ⟨hslash, hplain, fun heq => ?_⟩
  have hasks := ((hashed_eq_iff hrule hrule hslash hplain).1.mp heq).2
  exact absurd hasks (by decide +kernel)

theorem hashed_eq_of_text {rule rule' : String} {tests tests' : List Test}
    (h : rule ++ "\n" ++ String.join (tests.map (·.text)) =
      rule' ++ "\n" ++ String.join (tests'.map (·.text))) :
    hashed rule tests = hashed rule' tests' := by
  rw [hashed, fingerprintBytes, h, hashed, fingerprintBytes]

/-- A catalog with one rule, for marks that have a key or two others. The one key reads like the
two others. -/
def quotedKeys : CatalogDefinition where
  classes := [⟨3, 7, 1, .empty, none⟩]
  rules := [{
    id := "marks"
    classId := 3
    subclass := none
    kinds := [.node]
    message := "a mark"
    guard := none
    clauses := [⟨none, none, [⟨"a\"][\"b", .present, none, none⟩]⟩,
      ⟨none, none, [⟨"a", .present, none, none⟩, ⟨"b", .present, none, none⟩]⟩] }]

/-- **Other clauses are hashed alike if a part of one holds its own end:** a key, a text to compare
with, the text of a pattern, or the id of a rule. For a key, two clauses of a catalog have one
subclass for that reason. -/
theorem hashed_collisions :
    let present := fun key => (⟨key, .present, none⟩ : Test)
    let equals := fun key text => (⟨key, .equals text, none⟩ : Test)
    let searched := PatternLibrary.found .engine .standard
    let finds := fun key source => (⟨key, .finds ⟨source, searched source⟩, none⟩ : Test)
    hashed "marks" [present "a\"][\"b"] = hashed "marks" [present "a", present "b"] ∧
      hashed "marks" [equals "k" "v\"][\"a"] = hashed "marks" [equals "k" "v", present "a"] ∧
      hashed "marks" [finds "k" "v/][\"a\"=~/b]"] =
        hashed "marks" [finds "k" "v", finds "a" "b]"] ∧
      hashed "marks" [equals "k" "v\n[\"a"] = hashed "marks\n[\"k\"=\"v" [present "a"] ∧
      ∃ catalog, quotedKeys.build .engine .standard = .ok catalog ∧ ∃ r ∈ catalog.rules, ∃ c c',
        r.clauses = [c, c'] ∧ c.tests.length ≠ c'.tests.length ∧ c.subclass = c'.subclass := by
  intro present equals searched finds
  have hkey : hashed "marks" [present "a\"][\"b"] = hashed "marks" [present "a", present "b"] :=
    hashed_eq_of_text (by decide +kernel)
  have hbuild : quotedKeys.build .engine .standard = .ok _ :=
    CatalogDefinition.build_eq_ok.mpr ⟨by decide +kernel, rfl⟩
  refine ⟨hkey, hashed_eq_of_text (by decide +kernel), hashed_eq_of_text (by decide +kernel),
    hashed_eq_of_text (by decide +kernel), _, hbuild, _, List.mem_cons_self, _, _, rfl,
    by decide, ?_⟩
  exact congrArg (fun bytes => (Sha256.digest bytes).headD 0 >>> 1) hkey

end TagRules
