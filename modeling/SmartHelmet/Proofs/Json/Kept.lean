import SmartHelmet.Proofs.Json.NumberValue
import SmartHelmet.Proofs.Json.Containers
/-!
# Kept values, from any text

A value that a field keeps whole is read by `readContent`, which checks more than the skipper
does: its strings must decode to UTF-8, its numbers must be in range, and each of its containers
takes one of the levels left. This module writes out the texts it reads and proves that it reads
them and nothing else:

* `KeptText n t v`, `KeptItems`, `KeptEntries` — the text of a value kept as `v` with `n` levels
  left: a keyword, a number with the value `numberValue` gives it, a string whose pieces decode
  to UTF-8 (`KeyString`), or a container, which needs a level to spare and holds its entries a
  level down; blanks stand before every token but the first;
* `Separated.ends_after`, `ends_after_item`, `ends_after_entry` — what follows an entry of a
  container ends a number;
* `readContent_ok`, `readItems_ok`, `readEntries_ok` — a success took such a text, before what
  ends a number;
* `readContent_reads` — such a text is read, given fuel for each of its bytes;
* `readContent_too_deep` — a text opening more arrays than there are levels left is refused.
-/

namespace SmartHelmet.Json

variable {c c' : Cursor} {d : Nat} {rest : Bytes}

/-! ## 1. The texts -/

mutual
/-- **The text of a kept value** with `n` levels of nesting left, from its first byte. -/
inductive KeptText : Nat → Bytes → Content → Prop
  | null {n : Nat} : KeptText n [110, 117, 108, 108] .null
  | bool {n : Nat} (b : Bool) : KeptText n (boolBytes b) (.bool b)
  | number {n : Nat} {t : Bytes} {num : Number} : SignedNumber t num → KeptText n t (.number num)
  | str {n : Nat} {k : Bytes} {s : String} : KeyString k s → KeptText n (34 :: k) (.str s)
  | seq {n : Nat} {r e : Bytes} {vs : List Content} : 1 < n → KeptItems (n - 1) true r vs →
      Blanks e → KeptText n (91 :: (r ++ e ++ [93])) (.seq vs)
  | map {n : Nat} {r e : Bytes} {es : List (String × Content)} : 1 < n →
      KeptEntries (n - 1) true r es → Blanks e → KeptText n (123 :: (r ++ e ++ [125])) (.map es)

/-- **The items of a kept array** after its bracket, up to the blanks before the closing one. -/
inductive KeptItems : Nat → Bool → Bytes → List Content → Prop
  | nil {n : Nat} {first : Bool} : KeptItems n first [] []
  | cons {n : Nat} {first : Bool} {s t r : Bytes} {v : Content} {vs : List Content} :
      Sep first s → KeptText n t v → KeptItems n false r vs →
      KeptItems n first (s ++ t ++ r) (v :: vs)

/-- **The members of a kept object** after its brace, up to the blanks before the closing one:
    each a quoted key, blanks, the colon, blanks and a value. -/
inductive KeptEntries : Nat → Bool → Bytes → List (String × Content) → Prop
  | nil {n : Nat} {first : Bool} : KeptEntries n first [] []
  | cons {n : Nat} {first : Bool} {s k w w' t r : Bytes} {name : String} {v : Content}
      {es : List (String × Content)} : Sep first s → KeyString k name → Blanks w → Blanks w' →
      KeptText n t v → KeptEntries n false r es →
      KeptEntries n first (s ++ (34 :: k ++ w ++ 58 :: w' ++ t) ++ r) ((name, v) :: es)
end

/-! ## 2. What follows an entry -/

/-- Blanks, then a comma or a closing bracket or brace, end a number. -/
theorem ends_blanks_before {e : Bytes} {b : UInt8} (he : Blanks e)
    (hb : b = 44 ∨ b = 93 ∨ b = 125) (t : Bytes) : Ends (e ++ b :: t) := by
  cases e with
  | nil => exact ends_cons t hb
  | cons x e => exact ends_blank _ (blanks_cons.1 he).1

/-- A separator before a later entry ends a number. -/
theorem Sep.ends {s : Bytes} (hs : Sep false s) (x : Bytes) : Ends (s ++ x) := by
  obtain ⟨w, w', hw, -, rfl⟩ := hs
  simpa using ends_blanks_before hw (.inl rfl) (w' ++ x)

/-- What follows an entry of a container, when what follows the container's entries does, ends
    a number. -/
theorem Separated.ends_after {μ : Type} {M : Bytes → μ → Prop} {r : Bytes} {ms : List μ}
    (h : Separated M false r ms) (hr : Ends rest) : Ends (r ++ rest) := by
  cases h with
  | nil => exact hr
  | cons hs _ _ => simpa using hs.ends _

/-- What follows an item of an array, up to its closing bracket, ends a number. -/
theorem ends_after_item {n : Nat} {r e : Bytes} {vs : List Content} (hr : KeptItems n false r vs)
    (he : Blanks e) : Ends (r ++ (e ++ 93 :: rest)) := by
  cases hr with
  | nil => exact ends_blanks_before he (.inr (.inl rfl)) rest
  | cons hs _ _ => simpa using hs.ends _

/-- What follows a member of an object, up to its closing brace, ends a number. -/
theorem ends_after_entry {n : Nat} {r e : Bytes} {es : List (String × Content)}
    (hr : KeptEntries n false r es) (he : Blanks e) : Ends (r ++ (e ++ 125 :: rest)) := by
  cases hr with
  | nil => exact ends_blanks_before he (.inr (.inr rfl)) rest
  | cons hs _ _ _ _ _ => simpa using hs.ends _

/-- Before a later item stands a separator, and before no item, blanks and the closing
    bracket: either ends a number. -/
theorem nextItem_ends {more : Bool} (h : (nextItem false).run c = .ok more c')
    (hend : more = false → Ends c'.rest) : Ends c.rest := by
  obtain ⟨s, hcs, hs⟩ := nextItem_ok h
  rw [hcs.1]
  rcases hs with ⟨rfl, hs, -⟩ | ⟨-, hs⟩
  · cases s with
    | nil => exact hend rfl
    | cons b t => exact ends_blank _ (blanks_cons.1 hs).1
  · exact hs.ends _

theorem nextKey_ends {more : Bool} (h : (nextKey false).run c = .ok more c')
    (hend : more = false → Ends c'.rest) : Ends c.rest := by
  obtain ⟨s, hcs, hs⟩ := nextKey_ok h
  rw [hcs.1]
  rcases hs with ⟨rfl, hs, -⟩ | ⟨-, hs, -⟩
  · cases s with
    | nil => exact hend rfl
    | cons b t => exact ends_blank _ (blanks_cons.1 hs).1
  · exact hs.ends _

/-- A member reader's step after a member: the members after it, or the closing brace, end a
    number when what follows them does. -/
theorem nextKey_bind_ends {α : Type} {x : Reader α} {a b : α}
    (h : (nextKey false >>= fun more => if more then x else pure a).run c = .ok b c')
    (hend : Ends c'.rest) : Ends c.rest := by
  obtain ⟨more, c₁, h₁, h⟩ := run_bind_ok h
  refine nextKey_ends h₁ fun hm => ?_
  subst hm
  rw [if_neg Bool.false_ne_true] at h
  obtain ⟨-, rfl⟩ := run_pure_ok h
  exact hend

/-- **The items after an item end a number**, when what follows them does. -/
theorem readItems_ends {fuel : Nat} {acc vs : List Content}
    (h : (readItems fuel false acc).run c = .ok vs c') (hend : Ends c'.rest) : Ends c.rest := by
  cases fuel with
  | zero =>
    simp only [readItems] at h
    obtain ⟨-, rfl⟩ := run_pure_ok h
    exact hend
  | succ fuel =>
    simp only [readItems] at h
    obtain ⟨more, c₁, h₁, h⟩ := run_bind_ok h
    refine nextItem_ends h₁ fun hm => ?_
    subst hm
    rw [if_neg Bool.false_ne_true] at h
    obtain ⟨-, rfl⟩ := run_pure_ok h
    exact hend

/-- **The members after a member end a number**, when what follows them does. -/
theorem readEntries_ends {fuel : Nat} {acc es : List (String × Content)}
    (h : (readEntries fuel false acc).run c = .ok es c') (hend : Ends c'.rest) : Ends c.rest := by
  cases fuel with
  | zero =>
    simp only [readEntries] at h
    obtain ⟨-, rfl⟩ := run_pure_ok h
    exact hend
  | succ fuel =>
    simp only [readEntries] at h
    exact nextKey_bind_ends h hend

/-- A number with its sign starts with a digit or a minus sign: no blank, no `null`, and
    nothing that closes a container. -/
theorem SignedNumber.head {t : Bytes} {num : Number} (h : SignedNumber t num) :
    ∃ b t', t = b :: t' ∧ isBlankByte b = false ∧ b ≠ 110 ∧ b ≠ 93 ∧ b ≠ 125 := by
  rcases h with ⟨hn, -⟩ | ⟨u, rfl, -, -⟩
  · obtain ⟨b, t, rfl, hb⟩ := hn.head
    exact ⟨b, t, rfl, digit_not_blank hb, ne_of_digit hb rfl, ne_of_digit hb rfl,
      ne_of_digit hb rfl⟩
  · exact ⟨_, _, rfl, rfl, by decide, by decide, by decide⟩

/-- A kept value starts with a byte that is no blank and closes no container. -/
theorem KeptText.head {n : Nat} {t : Bytes} {v : Content} (h : KeptText n t v) :
    ∃ b t', t = b :: t' ∧ isBlankByte b = false ∧ b ≠ 93 ∧ b ≠ 125 := by
  cases h with
  | null => exact ⟨_, _, rfl, rfl, by decide, by decide⟩
  | bool b => cases b <;> exact ⟨_, _, rfl, rfl, by decide, by decide⟩
  | number hn =>
    obtain ⟨b, t, rfl, hb, -, h93, h125⟩ := hn.head
    exact ⟨b, t, rfl, hb, h93, h125⟩
  | str => exact ⟨_, _, rfl, rfl, by decide, by decide⟩
  | seq => exact ⟨_, _, rfl, rfl, by decide, by decide⟩
  | map => exact ⟨_, _, rfl, rfl, by decide, by decide⟩

/-! ## 3. What a success took

A value is only known to be a number's whole text once what follows it is known to end a
number; the items after an item tell that before the item itself is taken apart
(`readItems_ends`). So each success is read from the end: the successes of the readers with
`fuel` are described, given what follows them, by induction on the fuel. -/

/-- A success of the value reader, before what ends a number, took blanks and a kept value. -/
def ContentSound (fuel : Nat) : Prop :=
  ∀ (c c' : Cursor) (v : Content), (readContent fuel).run c = .ok v c' → Ends c'.rest →
    ∃ w t, Blanks w ∧ KeptText c.depth t v ∧ Consumed c c' (w ++ t)

/-- A success of the item reader, before what ends a number, took items and blanks. -/
def ItemsSound (fuel : Nat) : Prop :=
  ∀ (first : Bool) (acc vs : List Content) (c c' : Cursor),
    (readItems fuel first acc).run c = .ok vs c' → Ends c'.rest →
      ∃ r e vs', KeptItems c.depth first r vs' ∧ Blanks e ∧ Consumed c c' (r ++ e) ∧
        vs = acc ++ vs'

/-- A success of the member reader, before what ends a number, took members and blanks. -/
def EntriesSound (fuel : Nat) : Prop :=
  ∀ (first : Bool) (acc es : List (String × Content)) (c c' : Cursor),
    (readEntries fuel first acc).run c = .ok es c' → Ends c'.rest →
      ∃ r e es', KeptEntries c.depth first r es' ∧ Blanks e ∧ Consumed c c' (r ++ e) ∧
        es = acc ++ es'

variable {fuel : Nat}

theorem readItems_succ_ok (hv : ContentSound fuel) (hi : ItemsSound fuel) :
    ItemsSound (fuel + 1) := by
  intro first acc vs c c' h hend
  simp only [readItems] at h
  obtain ⟨more, c₁, h₁, h⟩ := run_bind_ok h
  obtain ⟨s, hcs, hs⟩ := nextItem_ok h₁
  rcases hs with ⟨rfl, hs, -⟩ | ⟨rfl, hs⟩
  · -- the closing bracket
    rw [if_neg Bool.false_ne_true] at h
    obtain ⟨rfl, rfl⟩ := run_pure_ok h
    exact ⟨[], s, [], .nil, hs, by simpa using hcs, by simp⟩
  · rw [if_pos rfl] at h
    obtain ⟨v, c₂, h₂, h⟩ := run_bind_ok h
    obtain ⟨w, t, hw, ht, hct⟩ := hv c₁ c₂ v h₂ (readItems_ends h hend)
    obtain ⟨r, e, vs', hr, he, hcr, rfl⟩ := hi false _ _ c₂ c' h hend
    have hpre := hcs.trans hct
    rw [hcs.2] at ht
    rw [hpre.2] at hr
    exact ⟨s ++ w ++ t ++ r, e, v :: vs', .cons (hs.append_blanks hw) ht hr, he,
      by simpa using hpre.trans hcr, by simp⟩

theorem readEntries_succ_ok (hv : ContentSound fuel) (he : EntriesSound fuel) :
    EntriesSound (fuel + 1) := by
  intro first acc es c c' h hend
  simp only [readEntries] at h
  rcases nextKey_member_ok h with ⟨rfl, s, hs, hcs⟩ | ⟨s, k, key, c₂, hs, hk, hck, h⟩
  · -- the closing brace
    exact ⟨[], s, [], .nil, hs, by simpa using hcs, by simp⟩
  obtain ⟨_, c₃, h₃, h⟩ := run_bind_ok h
  obtain ⟨w, hw, hcw⟩ := colon_ok h₃
  obtain ⟨v, c₄, h₄, h⟩ := run_bind_ok h
  obtain ⟨w', t, hw', ht, hct⟩ := hv c₃ c₄ v h₄ (readEntries_ends h hend)
  obtain ⟨r, e, es', hr, he', hcr, rfl⟩ := he false _ _ c₄ c' h hend
  have hkey := hck.trans hcw
  have hpre := hkey.trans hct
  rw [hkey.2] at ht
  rw [hpre.2] at hr
  exact ⟨s ++ (34 :: k ++ w ++ 58 :: w' ++ t) ++ r, e, (key, v) :: es',
    .cons hs hk hw hw' ht hr, he', by simpa using hpre.trans hcr, by simp⟩

theorem readContent_succ_ok (hi : ItemsSound fuel) (he : EntriesSound fuel) :
    ContentSound (fuel + 1) := by
  intro c c' v h hend
  simp only [readContent] at h
  obtain ⟨o, c₁, h₁, h⟩ := run_bind_ok (positioned_run_ok h)
  obtain ⟨w, hc₁, hw, -, rfl⟩ := skipBlanks_ok h₁
  split at h
  · exact absurd h (Refused.run_ne_ok (failAhead_refused _))
  next b hb =>
  obtain ⟨t, ht⟩ := List.head?_eq_some_iff.1 hb
  -- the first byte decides the kind of value
  by_cases h110 : (b == 110) = true
  · rw [if_pos h110] at h
    cases beq_iff_eq.1 h110
    obtain ⟨rfl, hx⟩ := bump_keyword_ok ht h
    exact ⟨w, _, hw, hc₁.2 ▸ .null, hc₁.trans hx⟩
  rw [if_neg h110] at h
  by_cases h116 : (b == 116) = true
  · rw [if_pos h116] at h
    cases beq_iff_eq.1 h116
    obtain ⟨rfl, hx⟩ := bump_keyword_ok ht h
    exact ⟨w, _, hw, hc₁.2 ▸ .bool true, hc₁.trans hx⟩
  rw [if_neg h116] at h
  by_cases h102 : (b == 102) = true
  · rw [if_pos h102] at h
    cases beq_iff_eq.1 h102
    obtain ⟨rfl, hx⟩ := bump_keyword_ok ht h
    exact ⟨w, _, hw, hc₁.2 ▸ .bool false, hc₁.trans hx⟩
  rw [if_neg h102] at h
  by_cases h45 : (b == 45) = true
  · rw [if_pos h45] at h
    cases beq_iff_eq.1 h45
    obtain ⟨_, c₂, h₂, h⟩ := run_bind_ok h
    cases bump_ok h₂
    obtain ⟨num, c₃, h₃, h⟩ := run_bind_ok h
    obtain ⟨rfl, rfl⟩ := run_pure_ok h
    obtain ⟨u, hu, hcu, hval⟩ := readNumber_value h₃ hend
    exact ⟨w, 45 :: u, hw, .number (.inr ⟨u, rfl, hu, hval⟩),
      hc₁.trans ((Consumed.bump ht).trans hcu)⟩
  rw [if_neg h45] at h
  by_cases hdig : isDigitByte b = true
  · rw [if_pos hdig] at h
    obtain ⟨num, c₃, h₃, h⟩ := run_bind_ok h
    obtain ⟨rfl, rfl⟩ := run_pure_ok h
    obtain ⟨u, hu, hcu, hval⟩ := readNumber_value h₃ hend
    exact ⟨w, u, hw, .number (.inl ⟨hu, hval⟩), hc₁.trans hcu⟩
  rw [if_neg hdig] at h
  by_cases h34 : (b == 34) = true
  · rw [if_pos h34] at h
    cases beq_iff_eq.1 h34
    obtain ⟨_, c₂, h₂, h⟩ := run_bind_ok h
    cases bump_ok h₂
    obtain ⟨str, c₃, h₃, h⟩ := run_bind_ok h
    obtain ⟨rfl, rfl⟩ := run_pure_ok h
    obtain ⟨k, hk, hck⟩ := readString_ok h₃
    exact ⟨w, 34 :: k, hw, .str hk, hc₁.trans ((Consumed.bump ht).trans hck)⟩
  rw [if_neg h34] at h
  by_cases h91 : (b == 91) = true
  · -- an array: its items a level down, then its closing bracket
    rw [if_pos h91] at h
    cases beq_iff_eq.1 h91
    obtain ⟨vs, hvs, rfl⟩ := run_map_ok h
    obtain ⟨hdep, c₂, h₂, h₃⟩ := within_ok hvs
    obtain ⟨e', he', hce⟩ := closeArray_ok h₃
    have hend₂ : Ends c₂.rest := by
      have hrest : c₂.rest = e' ++ 93 :: c'.rest := by simpa using hce.1
      rw [hrest]
      exact ends_blanks_before he' (.inr (.inl rfl)) _
    obtain ⟨r, e, vs', hr, he, hcr, rfl⟩ := hi true [] vs _ c₂ h₂ hend₂
    simp only [Cursor.bump_depth, hc₁.2] at hr hdep
    exact ⟨w, 91 :: (r ++ (e ++ e') ++ [93]), hw, .seq hdep hr (blanks_append.2 ⟨he, he'⟩),
      by simpa using hc₁.trans (Consumed.within (by simpa [hc₁.2] using hdep) hb hcr hce)⟩
  rw [if_neg h91] at h
  by_cases h123 : (b == 123) = true
  · -- an object: its members a level down, then its closing brace
    rw [if_pos h123] at h
    cases beq_iff_eq.1 h123
    obtain ⟨es, hes, rfl⟩ := run_map_ok h
    obtain ⟨hdep, c₂, h₂, h₃⟩ := within_ok hes
    obtain ⟨e', he', hce⟩ := closeObject_ok h₃
    have hend₂ : Ends c₂.rest := by
      have hrest : c₂.rest = e' ++ 125 :: c'.rest := by simpa using hce.1
      rw [hrest]
      exact ends_blanks_before he' (.inr (.inr rfl)) _
    obtain ⟨r, e, es', hr, he, hcr, rfl⟩ := he true [] es _ c₂ h₂ hend₂
    simp only [Cursor.bump_depth, hc₁.2] at hr hdep
    exact ⟨w, 123 :: (r ++ (e ++ e') ++ [125]), hw, .map hdep hr (blanks_append.2 ⟨he, he'⟩),
      by simpa using hc₁.trans (Consumed.within (by simpa [hc₁.2] using hdep) hb hcr hce)⟩
  rw [if_neg h123] at h
  exact absurd h (Refused.run_ne_ok (failAhead_refused _))

/-- **What the kept-value readers took**, for every fuel. -/
theorem kept_sound (fuel : Nat) : ContentSound fuel ∧ ItemsSound fuel ∧ EntriesSound fuel := by
  induction fuel with
  | zero =>
    refine ⟨fun c c' v h _ => ?_, fun first acc vs c c' h _ => ?_,
      fun first acc es c c' h _ => ?_⟩
    · simp only [readContent] at h
      exact absurd h (Refused.run_ne_ok (fail_refused _))
    · simp only [readItems] at h
      obtain ⟨rfl, rfl⟩ := run_pure_ok h
      exact ⟨[], [], [], .nil, blanks_nil, Consumed.nil, by simp⟩
    · simp only [readEntries] at h
      obtain ⟨rfl, rfl⟩ := run_pure_ok h
      exact ⟨[], [], [], .nil, blanks_nil, Consumed.nil, by simp⟩
  | succ fuel ih =>
    exact ⟨readContent_succ_ok ih.2.1 ih.2.2, readItems_succ_ok ih.1 ih.2.1,
      readEntries_succ_ok ih.1 ih.2.2⟩

/-- **A kept value's success** took blanks and a kept value's text, once what follows it is known
    to end a number. -/
theorem readContent_ok {v : Content} (h : (readContent fuel).run c = .ok v c')
    (hend : Ends c'.rest) : ∃ w t, Blanks w ∧ KeptText c.depth t v ∧ Consumed c c' (w ++ t) :=
  (kept_sound fuel).1 c c' v h hend

/-! ## 4. Every kept text is read

The converse goes by induction on the fuel too: with fuel for each byte of a value, and for
each byte of a container's entries and one more, the readers read them. -/

/-- The value reader reads blanks and a kept value's text before what ends a number. -/
def ContentReads (fuel : Nat) : Prop :=
  ∀ {n : Nat} {w t rest : Bytes} {v : Content}, Blanks w → KeptText n t v → t.length ≤ fuel →
    Ends rest → Reads (readContent fuel) n (w ++ t) rest v

/-- The item reader reads an array's items and the blanks before its closing bracket. -/
def ItemsReads (fuel : Nat) : Prop :=
  ∀ {n : Nat} {first : Bool} {r e rest : Bytes} {acc vs : List Content}, KeptItems n first r vs →
    Blanks e → r.length < fuel → Reads (readItems fuel first acc) n (r ++ e) (93 :: rest) (acc ++ vs)

/-- The member reader reads an object's members and the blanks before its closing brace. -/
def EntriesReads (fuel : Nat) : Prop :=
  ∀ {n : Nat} {first : Bool} {r e rest : Bytes} {acc es : List (String × Content)},
    KeptEntries n first r es → Blanks e → r.length < fuel →
      Reads (readEntries fuel first acc) n (r ++ e) (125 :: rest) (acc ++ es)

theorem readItems_succ_reads (hv : ContentReads fuel) (hi : ItemsReads fuel) :
    ItemsReads (fuel + 1) := by
  intro n first r e rest acc vs hr he hlen
  simp only [readItems]
  cases hr with
  | nil =>
    rw [List.append_nil, List.nil_append]
    refine ((nextItem_close he).bind ?_ rfl).congr (List.append_nil _)
    rw [if_neg Bool.false_ne_true]
    exact Reads.pure acc
  | @cons _ _ s t r v vs hs ht hr =>
    obtain ⟨b, t', rfl, hbl, h93, -⟩ := ht.head
    simp only [List.length_append, List.length_cons] at hlen
    rw [show s ++ b :: t' ++ r ++ e = s ++ (b :: t' ++ (r ++ e)) by simp,
      show acc ++ v :: vs = acc ++ [v] ++ vs by simp]
    refine (nextItem_sep hs h93 hbl).bind ?_ rfl
    simp only [if_true]
    -- the item, before the separator of the next one or the closing bracket
    refine (hv blanks_nil ht (by simp; omega) (ends_after_item hr he)).bind ?_
      (List.append_assoc _ _ _).symm
    exact hi hr he (by omega)

theorem readEntries_succ_reads (hv : ContentReads fuel) (he : EntriesReads fuel) :
    EntriesReads (fuel + 1) := by
  intro n first r e rest acc es hr he' hlen
  simp only [readEntries]
  cases hr with
  | nil =>
    rw [List.append_nil, List.nil_append]
    exact nextKey_close_reads he'
  | @cons _ _ s k w w' t r name v es hs hk hw hw' ht hr =>
    simp only [List.length_append, List.length_cons] at hlen
    rw [show s ++ (34 :: k ++ w ++ 58 :: w' ++ t) ++ r ++ e =
        s ++ ((34 :: k) ++ ((w ++ [58]) ++ ((w' ++ t) ++ (r ++ e)))) by simp,
      show acc ++ (name, v) :: es = acc ++ [(name, v)] ++ es by simp]
    refine nextKey_member_reads hs hk ((colon_after hw).bind ?_ rfl)
    refine (hv hw' ht (by omega) (ends_after_entry hr he')).bind ?_
      (List.append_assoc _ _ _).symm
    exact he hr he' (by omega)

theorem readContent_succ_reads (hi : ItemsReads fuel) (he : EntriesReads fuel) :
    ContentReads (fuel + 1) := by
  intro n w t rest v hw ht hlen hr
  simp only [readContent]
  refine Reads.positioned ?_
  cases ht with
  | null =>
    refine (skipBlanks_upto hw rfl).bind ((bump_reads 110).bind ?_ rfl) rfl
    exact (keyword_reads [117, 108, 108]).bind (Reads.pure _) rfl
  | bool b =>
    cases b with
    | true =>
      refine (skipBlanks_upto hw rfl).bind ((bump_reads 116).bind ?_ rfl) rfl
      exact (keyword_reads [114, 117, 101]).bind (Reads.pure _) rfl
    | false =>
      refine (skipBlanks_upto hw rfl).bind ((bump_reads 102).bind ?_ rfl) rfl
      exact (keyword_reads [97, 108, 115, 101]).bind (Reads.pure _) rfl
  | @number _ _ num hnum =>
    rcases hnum with ⟨hu, hval⟩ | ⟨u, rfl, hu, hval⟩
    · -- a digit opens no keyword, string or container
      obtain ⟨b, t', rfl, hb⟩ := hu.head
      have hread : Reads (readNumber false) n (b :: t') rest num := by
        have h : Outcome (readNumber false) n (b :: t') rest (numberValue false (b :: t')) :=
          readNumber_outcome hu hr
        rwa [hval] at h
      have hne : ∀ x, isDigitByte x = false → (b == x) = false :=
        fun x hx => beq_false_of_ne (ne_of_digit hb hx)
      refine (skipBlanks_upto hw (digit_not_blank hb)).bind ?_ rfl
      simp only [hne 110 rfl, hne 116 rfl, hne 102 rfl, hne 45 rfl, hb, Bool.false_eq_true,
        if_false, if_true]
      exact (Reads.bind hread (Reads.pure (Content.number num)) rfl).congr (List.append_nil _)
    · have hread : Reads (readNumber true) n u rest num := by
        have h : Outcome (readNumber true) n u rest (numberValue true u) := readNumber_outcome hu hr
        rwa [hval] at h
      refine (skipBlanks_upto hw rfl).bind ((bump_reads 45).bind ?_ rfl) rfl
      exact (Reads.bind hread (Reads.pure (Content.number num)) rfl).congr (List.append_nil _)
  | @str _ k name hk =>
    refine (skipBlanks_upto hw rfl).bind ((bump_reads 34).bind ?_ rfl) rfl
    exact ((readString_reads hk).bind (Reads.pure (Content.str name)) rfl).congr
      (List.append_nil _)
  | @seq _ r e vs hd hitems he' =>
    simp only [List.length_cons, List.length_append] at hlen
    refine (skipBlanks_upto hw rfl).bind ?_ rfl
    exact Reads.map (within_reads 91 hd (hi hitems he' (by omega)) closeArray_reads) _
  | @map _ r e es hd hentries he' =>
    simp only [List.length_cons, List.length_append] at hlen
    refine (skipBlanks_upto hw rfl).bind ?_ rfl
    exact Reads.map (within_reads 123 hd (he hentries he' (by omega)) closeObject_reads) _

/-- **What the kept-value readers read**, for every fuel. -/
theorem kept_complete (fuel : Nat) : ContentReads fuel ∧ ItemsReads fuel ∧ EntriesReads fuel := by
  induction fuel with
  | zero =>
    -- a value's text is never empty, and no fuel is below zero
    refine ⟨fun _ ht hlen _ => ?_, fun _ _ hlen => absurd hlen (Nat.not_lt_zero _),
      fun _ _ hlen => absurd hlen (Nat.not_lt_zero _)⟩
    obtain ⟨b, t', rfl, -⟩ := ht.head
    simp at hlen
  | succ fuel ih =>
    exact ⟨readContent_succ_reads ih.2.1 ih.2.2, readItems_succ_reads ih.1 ih.2.1,
      readEntries_succ_reads ih.1 ih.2.2⟩

/-- **A kept value's text is read**, given fuel for each of its bytes, before what ends a
    number. -/
theorem readContent_reads {n : Nat} {w t : Bytes} {v : Content} (hw : Blanks w)
    (ht : KeptText n t v) (hlen : t.length ≤ fuel) (hr : Ends rest) :
    Reads (readContent fuel) n (w ++ t) rest v :=
  (kept_complete fuel).1 hw ht hlen hr

/-! ## 5. The depth limit -/

/-- An array's text is read by the array branch of the value reader. -/
theorem readContent_array_fails {fuel : Nat} {bs : Bytes}
    (h : Fails (within closeArray (readItems fuel true [])) d (91 :: bs) rest) :
    Fails (readContent (fuel + 1)) d (91 :: bs) rest := by
  simp only [readContent]
  exact Fails.positioned (Reads.bind_fails (skipBlanks_upto blanks_nil rfl) (Fails.map h _) rfl)

/-- **A text opening more arrays than there are levels left is refused**, whatever follows the
    brackets, given fuel to reach the innermost one: each array takes a level, and the one that
    finds none left fails. -/
theorem readContent_too_deep (k : Nat) : ∀ {fuel d : Nat}, d ≤ k + 1 → 2 * k < fuel →
    Fails (readContent fuel) d (List.replicate (k + 1) 91) rest := by
  induction k with
  | zero =>
    intro fuel d hd hf
    obtain ⟨fuel, rfl⟩ : ∃ f, fuel = f + 1 := ⟨fuel - 1, by omega⟩
    exact readContent_array_fails (within_deep hd)
  | succ k ih =>
    intro fuel d hd hf
    obtain ⟨fuel, rfl⟩ : ∃ f, fuel = f + 2 := ⟨fuel - 2, by omega⟩
    rw [List.replicate_succ]
    refine readContent_array_fails ?_
    by_cases h1 : d ≤ 1
    · exact within_deep h1
    -- a level down, the first item opens the arrays left
    refine within_fails 91 (by omega) ?_
    have hin : Fails (readContent fuel) (d - 1) (List.replicate (k + 1) 91) rest :=
      ih (by omega) (by omega)
    simp only [readItems]
    exact Reads.bind_fails (nextItem_sep (show Sep true [] from blanks_nil) (by decide : (91 : UInt8) ≠ 93)
      rfl) (Fails.bind hin) rfl

end SmartHelmet.Json
