import SmartHelmet.Proofs.Json.Numbers
/-!
# Skipped values, from any text

A value that no field asks for is skipped: read for its syntax and kept nowhere, its containers
tracked on a stack of the skipper's own (`skipIn`, `afterValue`). This module says which texts it
passes, all of them:

* `ScalarText` — a keyword, a number with or without its minus sign, or a quoted string whose
  escapes are checked for their form only (`LaxString`: its bytes need not be UTF-8);
* `Stretch`, `Skips` — the grammar of skipped text, by what a stretch of it stands for: a value,
  an entry of a container (an item, or a key, colon and value), or the rest of a container after
  its opening bracket or after an entry; blanks may stand before every token, and nesting has no
  bound;
* `Closes` — the text that closes, one after the other, the containers open on a stack;
* `skip_sound` — a success of the skipper took a value and what closes its stack;
* `skips_skipped` — the skipper passes the text of any value, given fuel twice its length;
* **`skipValue_ok`, `skipValue_reads`** — `skipValue` succeeds on the texts of `Skips` and on
  nothing else.
-/

namespace SmartHelmet.Json

variable {c c' : Cursor} {d : Nat} {rest : Bytes}

/-! ## 1. Scalars and keys -/

/-- The opening bracket of a container. -/
def Frame.opener : Frame → UInt8
  | .array => 91
  | .object => 123

/-- **The text of a skipped scalar**: `null`, `true`, `false`, a number with or without its minus
    sign, or a string from its opening quote. -/
def ScalarText (bs : Bytes) : Prop :=
  bs = [110, 117, 108, 108] ∨ bs = [116, 114, 117, 101] ∨ bs = [102, 97, 108, 115, 101] ∨
    NumberText bs ∨ (∃ t, bs = 45 :: t ∧ NumberText t) ∨ (∃ t, bs = 34 :: t ∧ LaxString t)

theorem digit_not_blank {b : UInt8} (hb : isDigitByte b = true) : isBlankByte b = false := by
  simp only [isDigitByte, Bool.and_eq_true, decide_eq_true_eq, UInt8.le_iff_toNat_le] at hb
  simp only [isBlankByte, Bool.or_eq_false_iff, beq_eq_false_iff_ne, ne_eq, UInt8.ext_iff]
  simp at hb ⊢
  omega

theorem ne_of_digit {b b' : UInt8} (hb : isDigitByte b = true) (hb' : isDigitByte b' = false) :
    b ≠ b' := fun e => by rw [e, hb'] at hb; cases hb

/-- A blank ends a number. -/
theorem ends_blank {b : UInt8} (t : Bytes) (h : isBlankByte b = true) : Ends (b :: t) := by
  simp only [isBlankByte, Bool.or_eq_true, beq_iff_eq] at h
  simp only [Ends, List.head?_cons, Option.mem_def, Option.some.injEq, forall_eq']
  rcases h with ((rfl | rfl) | rfl) | rfl <;> decide

/-- Blanks skipped up to a byte that is no blank. -/
theorem skipBlanks_upto {w : Bytes} {b : UInt8} (hw : Blanks w) (hb : isBlankByte b = false) :
    Reads skipBlanks d w (b :: rest) (some b) :=
  skipBlanks_blanks hw (unblank_cons hb)

/-- A byte known to be next, then a keyword's remaining bytes. -/
theorem bump_keyword_ok {α : Type} {b : UInt8} {t tail : Bytes} {a o : α} (hc : c.rest = b :: t)
    (h : (do bump; keyword tail; pure a : Reader α).run c = .ok o c') :
    o = a ∧ Consumed c c' (b :: tail) := by
  obtain ⟨_, c₁, h₁, h⟩ := run_bind_ok h
  cases bump_ok h₁
  obtain ⟨_, c₂, h₂, h⟩ := run_bind_ok h
  obtain ⟨rfl, rfl⟩ := run_pure_ok h
  exact ⟨rfl, (Consumed.bump hc).trans (keyword_ok h₂)⟩

/-- A skipper of a scalar's text that answers that it was no container. -/
theorem then_none_ok {x : Reader Unit} {o : Option Frame}
    (h : (do x; pure none : Reader (Option Frame)).run c = .ok o c') :
    o = none ∧ x.run c = .ok () c' := by
  obtain ⟨_, c₁, h₁, h⟩ := run_bind_ok h
  obtain ⟨rfl, rfl⟩ := run_pure_ok h
  exact ⟨rfl, h₁⟩

/-- **What a scalar or an opening bracket took**: blanks, then a scalar's text (answered `none`)
    or a container's opening bracket (answered by its kind). -/
theorem scalarOrOpen_ok {o : Option Frame} (h : scalarOrOpen.run c = .ok o c') :
    ∃ w x, Blanks w ∧ Consumed c c' (w ++ x) ∧
      ((o = none ∧ ScalarText x) ∨ ∃ f, o = some f ∧ x = [f.opener]) := by
  unfold scalarOrOpen at h
  obtain ⟨p, c₁, h₁, h⟩ := run_bind_ok h
  obtain ⟨w, hcw, hw, -, rfl⟩ := skipBlanks_ok h₁
  suffices ∃ x, Consumed c₁ c' x ∧
      ((o = none ∧ ScalarText x) ∨ ∃ f, o = some f ∧ x = [f.opener]) by
    obtain ⟨x, hx, ho⟩ := this
    exact ⟨w, x, hw, hcw.trans hx, ho⟩
  cases hc : c₁.rest with
  | nil => rw [hc] at h; exact absurd h (Refused.run_ne_ok (failAhead_refused _))
  | cons b t =>
    rw [hc] at h
    simp only [List.head?_cons] at h
    -- the first byte after the blanks says what stands there
    by_cases hn : (b == 110) = true
    · rw [if_pos hn] at h
      cases beq_iff_eq.1 hn
      obtain ⟨rfl, hx⟩ := bump_keyword_ok hc h
      exact ⟨_, hx, .inl ⟨rfl, .inl rfl⟩⟩
    rw [if_neg hn] at h
    by_cases ht : (b == 116) = true
    · rw [if_pos ht] at h
      cases beq_iff_eq.1 ht
      obtain ⟨rfl, hx⟩ := bump_keyword_ok hc h
      exact ⟨_, hx, .inl ⟨rfl, .inr (.inl rfl)⟩⟩
    rw [if_neg ht] at h
    by_cases hf : (b == 102) = true
    · rw [if_pos hf] at h
      cases beq_iff_eq.1 hf
      obtain ⟨rfl, hx⟩ := bump_keyword_ok hc h
      exact ⟨_, hx, .inl ⟨rfl, .inr (.inr (.inl rfl))⟩⟩
    rw [if_neg hf] at h
    by_cases hm : (b == 45) = true
    · rw [if_pos hm] at h
      cases beq_iff_eq.1 hm
      obtain ⟨_, c₂, h₂, h⟩ := run_bind_ok h
      cases bump_ok h₂
      obtain ⟨rfl, h₃⟩ := then_none_ok h
      obtain ⟨nb, hnb, hcn⟩ := skipNumber_ok h₃
      exact ⟨45 :: nb, (Consumed.bump hc).trans hcn,
        .inl ⟨rfl, .inr (.inr (.inr (.inr (.inl ⟨nb, rfl, hnb⟩))))⟩⟩
    rw [if_neg hm] at h
    by_cases hd : isDigitByte b = true
    · rw [if_pos hd] at h
      obtain ⟨rfl, h₂⟩ := then_none_ok h
      obtain ⟨nb, hnb, hcn⟩ := skipNumber_ok h₂
      exact ⟨nb, hcn, .inl ⟨rfl, .inr (.inr (.inr (.inl hnb)))⟩⟩
    rw [if_neg hd] at h
    by_cases hq : (b == 34) = true
    · rw [if_pos hq] at h
      cases beq_iff_eq.1 hq
      obtain ⟨_, c₂, h₂, h⟩ := run_bind_ok h
      cases bump_ok h₂
      obtain ⟨rfl, h₃⟩ := then_none_ok h
      obtain ⟨sb, hsb, hcs⟩ := skipString_ok h₃
      exact ⟨34 :: sb, (Consumed.bump hc).trans hcs,
        .inl ⟨rfl, .inr (.inr (.inr (.inr (.inr ⟨sb, rfl, hsb⟩))))⟩⟩
    rw [if_neg hq] at h
    by_cases ha : (b == 91) = true
    · rw [if_pos ha] at h
      cases beq_iff_eq.1 ha
      obtain ⟨_, c₂, h₂, h⟩ := run_bind_ok h
      cases bump_ok h₂
      obtain ⟨rfl, rfl⟩ := run_pure_ok h
      exact ⟨[91], Consumed.bump hc, .inr ⟨.array, rfl, rfl⟩⟩
    rw [if_neg ha] at h
    by_cases ho : (b == 123) = true
    · rw [if_pos ho] at h
      cases beq_iff_eq.1 ho
      obtain ⟨_, c₂, h₂, h⟩ := run_bind_ok h
      cases bump_ok h₂
      obtain ⟨rfl, rfl⟩ := run_pure_ok h
      exact ⟨[123], Consumed.bump hc, .inr ⟨.object, rfl, rfl⟩⟩
    rw [if_neg ho] at h
    exact absurd h (Refused.run_ne_ok (failAhead_refused _))

/-- **A scalar's text is skipped whole**, after any blanks, before anything that cannot continue
    it. -/
theorem scalarOrOpen_scalarText {w x : Bytes} (hw : Blanks w) (hx : ScalarText x)
    (hr : Ends rest) : Reads scalarOrOpen d (w ++ x) rest none := by
  unfold scalarOrOpen
  rcases hx with rfl | rfl | rfl | hn | ⟨t, rfl, hn⟩ | ⟨t, rfl, hs⟩
  · refine (skipBlanks_upto hw rfl).bind ?_ rfl
    exact (bump_reads 110).bind ((keyword_reads _).bind (Reads.pure none) rfl) rfl
  · refine (skipBlanks_upto hw rfl).bind ?_ rfl
    exact (bump_reads 116).bind ((keyword_reads _).bind (Reads.pure none) rfl) rfl
  · refine (skipBlanks_upto hw rfl).bind ?_ rfl
    exact (bump_reads 102).bind ((keyword_reads _).bind (Reads.pure none) rfl) rfl
  · obtain ⟨b, t, rfl, hb⟩ := hn.head
    refine (skipBlanks_upto hw (digit_not_blank hb)).bind ?_ rfl
    -- a digit is none of the bytes tested before it
    simp only [beq_false_of_ne (ne_of_digit hb (rfl : isDigitByte 110 = false)),
      beq_false_of_ne (ne_of_digit hb (rfl : isDigitByte 116 = false)),
      beq_false_of_ne (ne_of_digit hb (rfl : isDigitByte 102 = false)),
      beq_false_of_ne (ne_of_digit hb (rfl : isDigitByte 45 = false)), hb, Bool.false_eq_true,
      if_false, if_true]
    exact ((skipNumber_reads hn hr).bind (Reads.pure none) rfl).congr (List.append_nil _)
  · refine (skipBlanks_upto hw rfl).bind ?_ rfl
    exact ((bump_reads 45).bind ((skipNumber_reads hn hr).bind (Reads.pure none) rfl) rfl).congr
      (by simp)
  · refine (skipBlanks_upto hw rfl).bind ?_ rfl
    exact ((bump_reads 34).bind ((skipString_reads hs).bind (Reads.pure none) rfl) rfl).congr
      (by simp)

/-- A container's opening bracket, after any blanks. -/
theorem scalarOrOpen_opener {w : Bytes} (hw : Blanks w) (frame : Frame) :
    Reads scalarOrOpen d (w ++ [frame.opener]) rest (some frame) := by
  unfold scalarOrOpen
  cases frame
  · exact (skipBlanks_upto hw (rfl : isBlankByte 91 = false)).bind
      ((bump_reads 91).bind (Reads.pure (some Frame.array)) rfl) rfl
  · exact (skipBlanks_upto hw (rfl : isBlankByte 123 = false)).bind
      ((bump_reads 123).bind (Reads.pure (some Frame.object)) rfl) rfl

/-- **What a skipped key took**: blanks, a string, blanks and the colon. -/
theorem skipKey_ok {u : Unit} (h : skipKey.run c = .ok u c') :
    ∃ w k w', Blanks w ∧ LaxString k ∧ Blanks w' ∧ Consumed c c' (w ++ 34 :: k ++ w' ++ [58]) := by
  unfold skipKey at h
  obtain ⟨o, c₁, h₁, h⟩ := run_bind_ok h
  obtain ⟨w, hc₁, hw, -, rfl⟩ := skipBlanks_ok h₁
  simp only at h
  split at h
  · rename_i hq
    obtain ⟨t, hq⟩ := List.head?_eq_some_iff.1 hq
    obtain ⟨_, c₂, h₂, h⟩ := run_bind_ok h
    cases bump_ok h₂
    obtain ⟨_, c₃, h₃, h⟩ := run_bind_ok h
    obtain ⟨k, hk, hck⟩ := skipString_ok h₃
    obtain ⟨o, c₄, h₄, h⟩ := run_bind_ok h
    obtain ⟨w', hc₄, hw', -, rfl⟩ := skipBlanks_ok h₄
    split at h
    · rename_i hcol
      obtain ⟨t', hcol⟩ := List.head?_eq_some_iff.1 hcol
      cases bump_ok h
      have hall := (((hc₁.trans (Consumed.bump hq)).trans hck).trans hc₄).trans
        (Consumed.bump hcol)
      exact ⟨w, k, w', hw, hk, hw', by simpa using hall⟩
    · exact absurd h (Refused.run_ne_ok (failAhead_refused _))
    · exact absurd h (Refused.run_ne_ok (failAhead_refused _))
  · exact absurd h (Refused.run_ne_ok ((failAhead_refused _).bind))
  · exact absurd h (Refused.run_ne_ok ((failAhead_refused _).bind))

/-- **A key is skipped**: blanks, a string of any escaped form, blanks and the colon. -/
theorem skipKey_reads {w k w' : Bytes} (hw : Blanks w) (hk : LaxString k) (hw' : Blanks w') :
    Reads skipKey d (w ++ 34 :: k ++ w' ++ [58]) rest () := by
  unfold skipKey
  dsimp only
  rw [show w ++ 34 :: k ++ w' ++ [58] = w ++ ([34] ++ (k ++ (w' ++ [58]))) by simp]
  refine (skipBlanks_upto hw (rfl : isBlankByte 34 = false)).bind
    ((bump_reads 34).bind ?_ rfl) rfl
  exact (skipString_reads hk).bind
    ((skipBlanks_upto hw' (rfl : isBlankByte 58 = false)).bind (bump_reads 58) rfl) rfl

/-! ## 2. The grammar of skipped text -/

/-- What a stretch of skipped text stands for. -/
inductive Stretch where
  /-- a whole value -/
  | value
  /-- an entry of a container: an item of an array; a key, its colon and a value in an object -/
  | entry (frame : Frame)
  /-- the rest of a container, from after its opening bracket (`comma` false) or after an entry
      (`comma` true) up to its closing bracket -/
  | rest (frame : Frame) (comma : Bool)

/-- **The grammar of skipped text.** Blanks may stand before every token, strings are
    `LaxString`s, and containers nest without bound. -/
inductive Skips : Stretch → Bytes → Prop where
  /-- a keyword, a number or a string -/
  | scalar {s : Bytes} : ScalarText s → Skips .value s
  /-- an opening bracket, then the rest of its container -/
  | container {frame : Frame} {r : Bytes} :
      Skips (.rest frame false) r → Skips .value (frame.opener :: r)
  /-- an item of an array is a value -/
  | item {v : Bytes} : Skips .value v → Skips (.entry .array) v
  /-- a member of an object: a quoted key, blanks, the colon, blanks and a value -/
  | member {k w w' v : Bytes} : LaxString k → Blanks w → Blanks w' → Skips .value v →
      Skips (.entry .object) (34 :: k ++ w ++ 58 :: w' ++ v)
  /-- blanks and the closing bracket, at once or after an entry -/
  | close {frame : Frame} {comma : Bool} {w : Bytes} :
      Blanks w → Skips (.rest frame comma) (w ++ [frame.closer])
  /-- after the opening bracket: blanks, the first entry and what follows it -/
  | first {frame : Frame} {w e r : Bytes} : Blanks w → Skips (.entry frame) e →
      Skips (.rest frame true) r → Skips (.rest frame false) (w ++ e ++ r)
  /-- after an entry: blanks, a comma, blanks, the next entry and what follows it -/
  | next {frame : Frame} {w w' e r : Bytes} : Blanks w → Blanks w' → Skips (.entry frame) e →
      Skips (.rest frame true) r → Skips (.rest frame true) (w ++ 44 :: w' ++ e ++ r)

/-- **The text closing a stack of containers**, innermost first: for each, what follows an entry
    of it up to its closing bracket. -/
def Closes : List Frame → Bytes → Prop
  | [], r => r = []
  | frame :: stack, r => ∃ r₁ r₂, r = r₁ ++ r₂ ∧ Skips (.rest frame true) r₁ ∧ Closes stack r₂

/-- A value starts with a byte that is no blank and closes no container. -/
theorem Skips.value_head {v : Bytes} (h : Skips .value v) :
    ∃ b t, v = b :: t ∧ isBlankByte b = false ∧ b ≠ 93 ∧ b ≠ 125 := by
  cases h with
  | scalar hs =>
    rcases hs with rfl | rfl | rfl | hn | ⟨t, rfl, -⟩ | ⟨t, rfl, -⟩
    · exact ⟨_, _, rfl, rfl, by decide, by decide⟩
    · exact ⟨_, _, rfl, rfl, by decide, by decide⟩
    · exact ⟨_, _, rfl, rfl, by decide, by decide⟩
    · obtain ⟨b, t, rfl, hb⟩ := hn.head
      exact ⟨b, t, rfl, digit_not_blank hb, ne_of_digit hb rfl, ne_of_digit hb rfl⟩
    · exact ⟨_, _, rfl, rfl, by decide, by decide⟩
    · exact ⟨_, _, rfl, rfl, by decide, by decide⟩
  | @container frame r _ =>
    cases frame
    · exact ⟨_, _, rfl, rfl, by decide, by decide⟩
    · exact ⟨_, _, rfl, rfl, by decide, by decide⟩

/-- An entry starts with a byte that is no blank and does not close its container. -/
theorem Skips.entry_head {frame : Frame} {e : Bytes} (h : Skips (.entry frame) e) :
    ∃ b t, e = b :: t ∧ isBlankByte b = false ∧ b ≠ frame.closer := by
  cases h with
  | item hv =>
    obtain ⟨b, t, rfl, hb, h93, -⟩ := hv.value_head
    exact ⟨b, t, rfl, hb, h93⟩
  | member => exact ⟨34, _, rfl, rfl, by decide⟩

/-- What follows an entry starts with a blank, a comma or the closing bracket. -/
theorem Skips.rest_head {frame : Frame} {r : Bytes} (h : Skips (.rest frame true) r) :
    ∃ b t, r = b :: t ∧ (isBlankByte b = true ∨ b = 44 ∨ b = frame.closer) := by
  cases h with
  | @close _ _ w hw =>
    cases w with
    | nil => exact ⟨_, [], rfl, .inr (.inr rfl)⟩
    | cons b t => exact ⟨b, _, rfl, .inl (blanks_cons.1 hw).1⟩
  | @next _ w _ _ _ hw =>
    cases w with
    | nil => exact ⟨44, _, rfl, .inr (.inl rfl)⟩
    | cons b t => exact ⟨b, _, rfl, .inl (blanks_cons.1 hw).1⟩

/-- Nothing that follows an entry continues a number. -/
theorem Skips.rest_ends {frame : Frame} {r : Bytes} (h : Skips (.rest frame true) r) (x : Bytes) :
    Ends (r ++ x) := by
  obtain ⟨b, t, rfl, hb⟩ := h.rest_head
  rcases hb with hb | rfl | rfl
  · exact ends_blank _ hb
  · exact ends_cons _ (.inl rfl)
  · cases frame
    · exact ends_cons _ (.inr (.inl rfl))
    · exact ends_cons _ (.inr (.inr rfl))

/-- An entry of a container, as the skipper reads it after a comma or an opening bracket. -/
def entrySkip (fuel : Nat) (frame : Frame) (stack : List Frame) : Reader Unit :=
  if frame == .object then do skipKey; skipIn fuel (frame :: stack)
  else skipIn fuel (frame :: stack)

theorem entrySkip_array {fuel : Nat} {stack : List Frame} :
    entrySkip fuel .array stack = skipIn fuel (.array :: stack) := rfl

theorem entrySkip_object {fuel : Nat} {stack : List Frame} :
    entrySkip fuel .object stack = (do skipKey; skipIn fuel (.object :: stack)) := rfl

/-- What the skipper does once a value is behind it: nothing more at the top, else what follows
    the value inside the innermost open container. -/
def resume (fuel : Nat) : List Frame → Reader Unit
  | [] => pure ()
  | frame :: stack => afterValue fuel true frame stack

/-! ## 3. What a success took

The skipper's two functions call each other with one step of fuel less; what each success took
is proved for every fuel at once, the step from `fuel` to `fuel + 1` using both statements at
`fuel`. -/

/-- What a success of the skipper inside the containers of a stack took: blanks, a value, and
    what closes the stack. -/
def SkipInSound (fuel : Nat) : Prop :=
  ∀ stack c c', (skipIn fuel stack).run c = .ok () c' →
    ∃ w v r, Blanks w ∧ Skips .value v ∧ Closes stack r ∧ Consumed c c' (w ++ v ++ r)

/-- What a success after an entry or an opening bracket took: the rest of the container, and
    what closes the stack under it. -/
def AfterValueSound (fuel : Nat) : Prop :=
  ∀ comma frame stack c c', (afterValue fuel comma frame stack).run c = .ok () c' →
    ∃ r r', Skips (.rest frame comma) r ∧ Closes stack r' ∧ Consumed c c' (r ++ r')

variable {fuel : Nat}

theorem resume_ok (ha : AfterValueSound fuel) {stack : List Frame}
    (h : (resume fuel stack).run c = .ok () c') : ∃ r, Closes stack r ∧ Consumed c c' r := by
  cases stack with
  | nil =>
    obtain ⟨-, rfl⟩ := run_pure_ok h
    exact ⟨[], rfl, Consumed.nil⟩
  | cons frame stack =>
    obtain ⟨r, r', hr, hr', hc⟩ := ha true frame stack c c' h
    exact ⟨r ++ r', ⟨r, r', rfl, hr, hr'⟩, hc⟩

/-- What an entry, the rest of its container and what closes the stack took. -/
theorem entrySkip_ok (hs : SkipInSound fuel) {frame : Frame} {stack : List Frame}
    (h : (entrySkip fuel frame stack).run c = .ok () c') :
    ∃ w e r r', Blanks w ∧ Skips (.entry frame) e ∧ Skips (.rest frame true) r ∧
      Closes stack r' ∧ Consumed c c' (w ++ e ++ r ++ r') := by
  cases frame with
  | array =>
    -- an item is a value
    obtain ⟨w, v, _, hw, hv, ⟨r, r', rfl, hr, hr'⟩, hc⟩ := hs _ _ _ h
    exact ⟨w, v, r, r', hw, .item hv, hr, hr', by simpa using hc⟩
  | object =>
    -- a member is a key and its colon, then a value
    rw [entrySkip_object] at h
    obtain ⟨_, c₁, h₁, h⟩ := run_bind_ok h
    obtain ⟨w, k, w₁, hw, hk, hw₁, hck⟩ := skipKey_ok h₁
    obtain ⟨w₂, v, _, hw₂, hv, ⟨r, r', rfl, hr, hr'⟩, hc⟩ := hs _ _ _ h
    exact ⟨w, 34 :: k ++ w₁ ++ 58 :: w₂ ++ v, r, r', hw, .member hk hw₁ hw₂ hv, hr, hr',
      by simpa using hck.trans hc⟩

theorem skipIn_succ_ok (ha : AfterValueSound fuel) : SkipInSound (fuel + 1) := by
  intro stack c c' h₀
  unfold skipIn at h₀
  obtain ⟨o, c₁, h₁, h⟩ := run_bind_ok h₀
  obtain ⟨w, x, hw, hc₁, ho⟩ := scalarOrOpen_ok h₁
  rcases ho with ⟨rfl, hs⟩ | ⟨frame, rfl, rfl⟩
  · -- a scalar, and the skipper resumes under it
    have hk : (resume fuel stack).run c₁ = .ok () c' := by cases stack <;> exact h
    obtain ⟨r, hr, hc⟩ := resume_ok ha hk
    exact ⟨w, x, r, hw, .scalar hs, hr, hc₁.trans hc⟩
  · -- an opening bracket, the rest of its container, and what closes the stack
    obtain ⟨r, r', hr, hr', hc⟩ := ha false frame stack c₁ c' h
    exact ⟨w, frame.opener :: r, r', hw, .container hr, hr', by simpa using hc₁.trans hc⟩

theorem afterValue_succ_ok (hs : SkipInSound fuel) (ha : AfterValueSound fuel) :
    AfterValueSound (fuel + 1) := by
  intro comma frame stack c c' h₀
  simp only [afterValue] at h₀
  obtain ⟨o, c₁, h₁, h⟩ := run_bind_ok h₀
  obtain ⟨w, hc₁, hw, -, rfl⟩ := skipBlanks_ok h₁
  cases hc : c₁.rest with
  | nil => rw [hc] at h; exact absurd h (Refused.run_ne_ok (failAhead_refused _))
  | cons b t =>
    rw [hc] at h
    simp only [List.head?_cons] at h
    by_cases hcomma : (comma && b == 44) = true
    · -- a comma, then the next entry
      rw [if_pos hcomma] at h
      obtain ⟨rfl, hb⟩ : comma = true ∧ b = 44 := by simpa using hcomma
      subst hb
      obtain ⟨_, c₂, h₂, h⟩ := run_bind_ok h
      cases bump_ok h₂
      obtain ⟨w', e, r, r', hw', he, hr, hr', hce⟩ := entrySkip_ok hs h
      exact ⟨w ++ 44 :: w' ++ e ++ r, r', .next hw hw' he hr, hr',
        by simpa using (hc₁.trans (Consumed.bump hc)).trans hce⟩
    rw [if_neg hcomma] at h
    by_cases hclose : (b == frame.closer) = true
    · -- the closing bracket, and the skipper resumes under it
      rw [if_pos hclose] at h
      cases beq_iff_eq.1 hclose
      obtain ⟨_, c₂, h₂, h⟩ := run_bind_ok h
      cases bump_ok h₂
      have hk : (resume fuel stack).run c₁.bump = .ok () c' := by cases stack <;> exact h
      obtain ⟨r, hr, hcr⟩ := resume_ok ha hk
      exact ⟨w ++ [frame.closer], r, .close hw, hr,
        by simpa using (hc₁.trans (Consumed.bump hc)).trans hcr⟩
    rw [if_neg hclose] at h
    by_cases hc' : comma = true
    · rw [if_pos hc'] at h
      exact absurd h (Refused.run_ne_ok (failAhead_refused _))
    rw [if_neg hc'] at h
    -- right after the opening bracket: the first entry
    obtain rfl : comma = false := by simpa using hc'
    obtain ⟨w', e, r, r', hw', he, hr, hr', hce⟩ := entrySkip_ok hs h
    exact ⟨w ++ w' ++ e ++ r, r', .first (blanks_append.2 ⟨hw, hw'⟩) he hr, hr',
      by simpa using hc₁.trans hce⟩

/-- **What a success of the skipper took**, for every fuel: from any stack, blanks, a value and
    what closes the stack; after an entry or an opening bracket, the rest of the container and
    what closes the stack under it. -/
theorem skip_sound (fuel : Nat) : SkipInSound fuel ∧ AfterValueSound fuel := by
  induction fuel with
  | zero =>
    refine ⟨fun stack c c' h => ?_, fun comma frame stack c c' h => ?_⟩
    · unfold skipIn at h
      exact absurd h (Refused.run_ne_ok (fail_refused _))
    · unfold afterValue at h
      exact absurd h (Refused.run_ne_ok (fail_refused _))
  | succ fuel ih => exact ⟨skipIn_succ_ok ih.2, afterValue_succ_ok ih.1 ih.2⟩

/-- **A skipped value's text**: a success of `skipValue` took blanks and the text of a value. -/
theorem skipValue_ok {u : Unit} (h : skipValue.run c = .ok u c') :
    ∃ w v, Blanks w ∧ Skips .value v ∧ Consumed c c' (w ++ v) := by
  unfold skipValue at h
  obtain ⟨w, v, r, hw, hv, hr, hc⟩ := (skip_sound _).1 [] c c' (get_bind_run_ok h)
  cases hr
  exact ⟨w, v, hw, hv, by simpa using hc⟩

/-! ## 4. Every text of the grammar is skipped

The converse goes by induction on the grammar. What the skipper does with a stretch is stated
for every stack, every text after it and every fuel above twice its length: the skipper takes the
stretch and then behaves as it does after it, on the text that follows, from any fuel left over
above a threshold `n`. -/

/-- **What the skipper does with each stretch**: after blanks, a value is skipped and the
    skipper resumes; an entry is skipped and the skipper goes on after it in its container; the
    rest of a container is passed up to its closing bracket and the skipper resumes under it. -/
def Skipped (d : Nat) : Stretch → Bytes → Prop
  | .value, v => ∀ (w more rest : Bytes) (fuel n : Nat) (stack : List Frame), Blanks w →
      Ends (more ++ rest) → n + 2 * v.length ≤ fuel + 1 →
      (∀ g, n ≤ g → Reads (resume g stack) d more rest ()) →
      Reads (skipIn fuel stack) d (w ++ v ++ more) rest ()
  | .entry frame, e => ∀ (w more rest : Bytes) (fuel n : Nat) (stack : List Frame), Blanks w →
      Ends (more ++ rest) → n + 2 * e.length ≤ fuel + 1 →
      (∀ g, n ≤ g → Reads (afterValue g true frame stack) d more rest ()) →
      Reads (entrySkip fuel frame stack) d (w ++ e ++ more) rest ()
  | .rest frame comma, r => ∀ (more rest : Bytes) (fuel n : Nat) (stack : List Frame),
      n + 2 * r.length ≤ fuel + 1 → (∀ g, n ≤ g → Reads (resume g stack) d more rest ()) →
      Reads (afterValue fuel comma frame stack) d (r ++ more) rest ()

theorem skipped_scalar {s : Bytes} (hs : ScalarText s) : Skipped d .value s := by
  intro w more rest fuel n stack hw hr hcost hk
  obtain ⟨b, t, rfl, -⟩ := (Skips.scalar hs).value_head
  simp only [List.length_cons] at hcost
  obtain ⟨fuel, rfl⟩ : ∃ f, fuel = f + 1 := ⟨fuel - 1, by omega⟩
  unfold skipIn
  refine (scalarOrOpen_scalarText hw hs hr).bind ?_ rfl
  cases stack <;> exact hk fuel (by omega)

theorem skipped_container {frame : Frame} {r : Bytes} (hr : Skipped d (.rest frame false) r) :
    Skipped d .value (frame.opener :: r) := by
  intro w more rest fuel n stack hw _ hcost hk
  simp only [List.length_cons] at hcost
  obtain ⟨fuel, rfl⟩ : ∃ f, fuel = f + 1 := ⟨fuel - 1, by omega⟩
  unfold skipIn
  exact ((scalarOrOpen_opener hw frame).bind (hr more rest fuel n stack (by omega) hk) rfl).congr
    (by simp)

theorem skipped_item {v : Bytes} (hv : Skipped d .value v) : Skipped d (.entry .array) v :=
  fun w more rest fuel n stack hw hr hcost hk => by
    rw [entrySkip_array]
    exact hv w more rest fuel n (.array :: stack) hw hr hcost hk

theorem skipped_member {k w₁ w₂ v : Bytes} (hk : LaxString k) (hw₁ : Blanks w₁)
    (hw₂ : Blanks w₂) (hv : Skipped d .value v) :
    Skipped d (.entry .object) (34 :: k ++ w₁ ++ 58 :: w₂ ++ v) := by
  intro w more rest fuel n stack hw hr hcost hc
  have hcost' : n + 2 * v.length ≤ fuel + 1 := by simp at hcost; omega
  rw [entrySkip_object]
  exact ((skipKey_reads hw hk hw₁).bind
    (hv w₂ more rest fuel n (.object :: stack) hw₂ hr hcost' hc) rfl).congr (by simp)

theorem skipped_close {frame : Frame} {comma : Bool} {w : Bytes} (hw : Blanks w) :
    Skipped d (.rest frame comma) (w ++ [frame.closer]) := by
  intro more rest fuel n stack hcost hk
  simp only [List.length_append, List.length_singleton] at hcost
  obtain ⟨fuel, rfl⟩ : ∃ f, fuel = f + 1 := ⟨fuel - 1, by omega⟩
  have hsep : (frame.closer == 44) = false := by cases frame <;> rfl
  simp only [afterValue]
  rw [List.append_assoc]
  refine (skipBlanks_upto hw (by cases frame <;> rfl)).bind ?_ rfl
  simp only [hsep, Bool.and_false, Bool.false_eq_true, if_false, beq_self_eq_true, if_true]
  refine (bump_reads _).bind ?_ rfl
  cases stack <;> exact hk fuel (by omega)

theorem skipped_first {frame : Frame} {w e r : Bytes} (hw : Blanks w)
    (he : Skips (.entry frame) e) (he' : Skipped d (.entry frame) e)
    (hr : Skips (.rest frame true) r) (hr' : Skipped d (.rest frame true) r) :
    Skipped d (.rest frame false) (w ++ e ++ r) := by
  intro more rest fuel n stack hcost hk
  obtain ⟨b, t, rfl, hb, hclose⟩ := he.entry_head
  obtain ⟨b', t', rfl, -⟩ := hr.rest_head
  simp only [List.length_append, List.length_cons] at hcost
  obtain ⟨fuel, rfl⟩ : ∃ f, fuel = f + 1 := ⟨fuel - 1, by omega⟩
  -- the entry from one step less, and what follows it from what the entry leaves
  have hentry := he' [] (b' :: t' ++ more) rest fuel (n + 2 * t'.length + 1) stack blanks_nil
    (by simpa using hr.rest_ends (more ++ rest)) (by simp; omega)
    (fun g hg => hr' more rest g n stack (by simp; omega) hk)
  simp only [afterValue]
  simp only [List.append_assoc, List.cons_append]
  refine (skipBlanks_upto hw hb).bind ?_ rfl
  simp only [Bool.false_and, Bool.false_eq_true, if_false, beq_false_of_ne hclose]
  exact hentry.congr (by simp)

theorem skipped_next {frame : Frame} {w w' e r : Bytes} (hw : Blanks w) (hw' : Blanks w')
    (he' : Skipped d (.entry frame) e) (hr : Skips (.rest frame true) r)
    (hr' : Skipped d (.rest frame true) r) :
    Skipped d (.rest frame true) (w ++ 44 :: w' ++ e ++ r) := by
  intro more rest fuel n stack hcost hk
  obtain ⟨b', t', rfl, -⟩ := hr.rest_head
  simp only [List.length_append, List.length_cons] at hcost
  obtain ⟨fuel, rfl⟩ : ∃ f, fuel = f + 1 := ⟨fuel - 1, by omega⟩
  -- after the comma, the entry from one step less, and what follows it
  have hentry := he' w' (b' :: t' ++ more) rest fuel (n + 2 * t'.length + 1) stack hw'
    (by simpa using hr.rest_ends (more ++ rest)) (by omega)
    (fun g hg => hr' more rest g n stack (by simp; omega) hk)
  simp only [afterValue]
  simp only [List.append_assoc, List.cons_append]
  refine (skipBlanks_upto hw (rfl : isBlankByte 44 = false)).bind ?_ rfl
  simp only [Bool.true_and, beq_self_eq_true, if_true]
  refine (bump_reads 44).bind ?_ rfl
  exact hentry.congr (by simp)

/-- **Every text of the grammar is skipped**, stretch by stretch. -/
theorem skips_skipped {p : Stretch} {t : Bytes} (h : Skips p t) : Skipped d p t := by
  induction h with
  | scalar hs => exact skipped_scalar hs
  | container _ ih => exact skipped_container ih
  | item _ ih => exact skipped_item ih
  | member hk hw hw' _ ih => exact skipped_member hk hw hw' ih
  | close hw => exact skipped_close hw
  | first hw he hr ihe ihr => exact skipped_first hw he ihe hr ihr
  | next hw hw' _ hr ihe ihr => exact skipped_next hw hw' ihe hr ihr

/-- **A value of the grammar is skipped**, after any blanks, before anything that cannot continue
    it, however deeply it nests and whatever bytes stand in its strings. -/
theorem skipValue_reads {w v : Bytes} (hw : Blanks w) (hv : Skips .value v) (hr : Ends rest) :
    Reads skipValue d (w ++ v) rest () := by
  unfold skipValue
  refine Reads.get_bind fun c hc => ?_
  have hs : Skipped d .value v := skips_skipped hv
  have hcost : 0 + 2 * v.length ≤ 4 * c.rest.length + 4 + 1 := by
    rw [hc]
    simp only [List.length_append]
    omega
  exact (hs w [] rest _ 0 [] hw hr hcost fun g _ => Reads.pure ()).congr (List.append_nil _)

end SmartHelmet.Json
