import SmartHelmet.Proofs.Json.Numbers
/-!
# The value of a number's text

The number reader takes digits into a 64-bit significand while they fit and counts the others
into the exponent, so its value is no plain function of the decimal the text writes. It is a
function of the text alone: before anything that cannot continue a number, the reader gives
one value, or refuses the number as out of range, whatever follows. That value is fixed here
once, as the one the reader gives the text on its own.

* `numberValue` — the value of a number's text, `none` when it is out of range;
* `SignedNumber` — the text of a number with its minus sign, if any, and its value;
* `digitsWhile_ok`, `exponentPart_ok`, `fractionPart_ok`, `readNumber_ok` — a success of the
  number reader took a number's text;
* `Settles`, `digitsWhile_splits`, `exponentPart_settles`, `fractionPart_settles`,
  `readNumber_settles` — on a number's text the reader settles on one outcome, whatever
  follows;
* **`readNumber_outcome`**, `readNumber_value` — that outcome is `numberValue`.
-/

namespace SmartHelmet.Json

variable {c c' : Cursor} {d : Nat} {rest : Bytes}

/-! ## 1. The digit loop -/

/-- **The digit loop's success**, whatever it folds: it took digits, folded them into its state,
    and stopped on a digit only when the fold refused it. -/
theorem digitsWhile_go_ok {σ : Type} (step : σ → Nat → Option σ) :
    ∀ (fuel : Nat) (s : σ) (c c' : Cursor) (r : σ × Bool),
      (digitsWhile.go step fuel s).run c = .ok r c' →
        ∃ ds, AllDigits ds ∧ Consumed c c' ds ∧ (ds.map digitValue).foldlM step s = some r.1 ∧
          (r.2 = true → ∃ b ∈ c'.rest.head?, isDigitByte b = true)
  | 0, s, c, c', r, h => by
    obtain ⟨rfl, rfl⟩ := run_pure_ok h
    exact ⟨[], allDigits_nil, Consumed.nil, rfl, fun h => absurd h Bool.false_ne_true⟩
  | fuel + 1, s, c, c', r, h => by
    simp only [digitsWhile.go] at h
    obtain ⟨o, c₁, h₁, h⟩ := run_bind_ok h
    obtain ⟨rfl, rfl⟩ := peek_ok h₁
    cases hc : c.rest with
    | nil =>
      rw [hc] at h
      obtain ⟨rfl, rfl⟩ := run_pure_ok h
      exact ⟨[], allDigits_nil, Consumed.nil, rfl, fun h => absurd h Bool.false_ne_true⟩
    | cons b t =>
      rw [hc] at h
      simp only [List.head?_cons] at h
      by_cases hb : isDigitByte b = true
      · rw [if_pos hb] at h
        cases hs : step s (digitValue b) with
        | none =>
          -- the fold refuses the digit, which stays for the caller
          rw [hs] at h
          obtain ⟨rfl, rfl⟩ := run_pure_ok h
          exact ⟨[], allDigits_nil, Consumed.nil, rfl, fun _ => ⟨b, by simp [hc], hb⟩⟩
        | some s' =>
          rw [hs] at h
          obtain ⟨_, c₂, h₂, h⟩ := run_bind_ok h
          cases bump_ok h₂
          obtain ⟨ds, hds, hcons, hfold, hover⟩ := digitsWhile_go_ok step fuel s' _ _ r h
          exact ⟨b :: ds, allDigits_cons.2 ⟨hb, hds⟩, (Consumed.bump hc).trans hcons,
            by simp [List.foldlM_cons, hs, hfold], hover⟩
      · rw [if_neg hb] at h
        obtain ⟨rfl, rfl⟩ := run_pure_ok h
        exact ⟨[], allDigits_nil, Consumed.nil, rfl, fun h => absurd h Bool.false_ne_true⟩

theorem digitsWhile_ok {σ : Type} {step : σ → Nat → Option σ} {s : σ} {r : σ × Bool}
    (h : (digitsWhile step s).run c = .ok r c') :
    ∃ ds, AllDigits ds ∧ Consumed c c' ds ∧ (ds.map digitValue).foldlM step s = some r.1 ∧
      (r.2 = true → ∃ b ∈ c'.rest.head?, isDigitByte b = true) :=
  digitsWhile_go_ok step _ s c c' r (get_bind_run_ok h)

/-- **The digit loop on digits**: it takes them while the fold accepts them, and stops on the
    first one it refuses, or after the last; what it takes and gives does not depend on what
    follows the digits. -/
theorem digitsWhile_go_splits {σ : Type} (step : σ → Nat → Option σ) :
    ∀ (ds : Bytes), AllDigits ds → ∀ s : σ, ∃ taken left t cut, ds = taken ++ left ∧
      (taken.map digitValue).foldlM step s = some t ∧ (cut = false → left = []) ∧
      (cut = true → left ≠ []) ∧
      ∀ fuel d rest, taken.length < fuel → (∀ b ∈ rest.head?, isDigitByte b = false) →
        Reads (digitsWhile.go step fuel s) d taken (left ++ rest) (t, cut)
  | [], _, s => by
    refine ⟨[], [], s, false, rfl, rfl, fun _ => rfl, fun h => absurd h Bool.false_ne_true,
      fun fuel d rest hlen hr => ?_⟩
    obtain ⟨fuel, rfl⟩ : ∃ f, fuel = f + 1 := ⟨fuel - 1, by simp at hlen; omega⟩
    unfold digitsWhile.go
    refine peek_reads.bind ?_ rfl
    cases rest with
    | nil => exact Reads.pure _
    | cons b t =>
      simp only [List.nil_append, List.head?_cons, hr b rfl, Bool.false_eq_true, if_false]
      exact Reads.pure _
  | b :: ds, hds, s => by
    obtain ⟨hb, hds⟩ := allDigits_cons.1 hds
    cases hs : step s (digitValue b) with
    | none =>
      -- the first digit is refused: nothing is taken
      refine ⟨[], b :: ds, s, true, rfl, rfl, fun h => absurd h (by decide),
        fun _ => List.cons_ne_nil _ _, fun fuel d rest hlen _ => ?_⟩
      obtain ⟨fuel, rfl⟩ : ∃ f, fuel = f + 1 := ⟨fuel - 1, by simp at hlen; omega⟩
      unfold digitsWhile.go
      refine (peek_at b).bind ?_ rfl
      simp only [hb, if_true, hs]
      exact Reads.pure _
    | some s' =>
      obtain ⟨taken, left, t, cut, rfl, hfold, hnone, hsome, hreads⟩ :=
        digitsWhile_go_splits step ds hds s'
      refine ⟨b :: taken, left, t, cut, rfl, by simp [List.foldlM_cons, hs, hfold], hnone, hsome,
        fun fuel d rest hlen hr => ?_⟩
      obtain ⟨fuel, rfl⟩ : ∃ f, fuel = f + 1 := ⟨fuel - 1, by simp at hlen; omega⟩
      unfold digitsWhile.go
      refine (peek_at b).bind ?_ rfl
      simp only [hb, if_true, hs]
      exact (bump_reads b).bind (hreads fuel d rest (by simp at hlen; omega) hr) rfl

theorem digitsWhile_splits {σ : Type} (step : σ → Nat → Option σ) {ds : Bytes}
    (hds : AllDigits ds) (s : σ) :
    ∃ taken left t cut, ds = taken ++ left ∧ (taken.map digitValue).foldlM step s = some t ∧
      (cut = false → left = []) ∧ (cut = true → left ≠ []) ∧
      ∀ d rest, (∀ b ∈ rest.head?, isDigitByte b = false) →
        Reads (digitsWhile step s) d taken (left ++ rest) (t, cut) := by
  obtain ⟨taken, left, t, cut, hsplit, hfold, hnone, hsome, hreads⟩ :=
    digitsWhile_go_splits step ds hds s
  refine ⟨taken, left, t, cut, hsplit, hfold, hnone, hsome, fun d rest hr => ?_⟩
  unfold digitsWhile
  exact Reads.get_bind fun c hc => hreads _ d rest (by simp [hc]) hr

/-! ## 2. Settling on a text -/

section Settles

variable {α β : Type}

/-- **A reader settles on `bs`**: before anything that cannot continue a number, it reads `bs`
    to one value, or refuses it, whatever follows. -/
def Settles (r : Reader α) (bs : Bytes) : Prop :=
  ∃ o : Option α, ∀ d rest, Ends rest → Outcome r d bs rest o

theorem Settles.of_reads {x : Reader α} {bs : Bytes} {a : α}
    (h : ∀ d rest, Ends rest → Reads x d bs rest a) : Settles x bs :=
  ⟨some a, h⟩

theorem Settles.of_fails {x : Reader α} {bs : Bytes}
    (h : ∀ d rest, Ends rest → Fails x d bs rest) : Settles x bs :=
  ⟨none, h⟩

/-- A step that reads the same whatever follows, then one that settles. -/
theorem Settles.reads_bind {x : Reader α} {f : α → Reader β} {a : α} {bs₁ bs₂ : Bytes}
    (hx : ∀ d rest, Ends rest → Reads x d bs₁ (bs₂ ++ rest) a) (hf : Settles (f a) bs₂) :
    Settles (x >>= f) (bs₁ ++ bs₂) := by
  obtain ⟨o, ho⟩ := hf
  exact ⟨o, fun d rest hr => Outcome.reads_bind (hx d rest hr) (ho d rest hr) rfl⟩

theorem Settles.congr {x : Reader α} {bs bs' : Bytes} (h : Settles x bs) (e : bs = bs') :
    Settles x bs' :=
  e ▸ h

theorem Settles.bind_pure {x : Reader α} {bs : Bytes} (h : Settles x bs) (f : α → β) :
    Settles (x >>= fun a => pure (f a)) bs := by
  obtain ⟨o, ho⟩ := h
  refine ⟨o.bind fun a => some (f a), fun d rest hr => ?_⟩
  have hf : ∀ a, o = some a → Outcome (pure (f a) : Reader β) d [] rest (some (f a)) :=
    fun a _ => Reads.pure (f a)
  exact (Outcome.bind (ho d rest hr) hf rfl).congr (List.append_nil _)

/-- A look at the next byte, after which the reader goes on the same way whatever follows. -/
theorem Settles.peek_bind {f : Option UInt8 → Reader α} {g : Reader α} {bs : Bytes}
    (hf : ∀ rest, Ends rest → f (bs ++ rest).head? = g) (hg : Settles g bs) :
    Settles (peek >>= f) bs := by
  obtain ⟨o, ho⟩ := hg
  exact ⟨o, fun d rest hr => Outcome.look_bind peek_reads (hf rest hr ▸ ho d rest hr) rfl⟩

/-- What a reader gives a text on its own: its value, or `none` when it refuses it. -/
def valueOn (r : Reader α) (bs : Bytes) : Option α :=
  match r.run (Cursor.start bs) with
  | .ok a _ => some a
  | .error _ _ => none

/-- **What a reader settles on is what it gives the text alone.** -/
theorem Settles.outcome {x : Reader α} {bs : Bytes} (h : Settles x bs) (hr : Ends rest) :
    Outcome x d bs rest (valueOn x bs) := by
  obtain ⟨o, ho⟩ := h
  have halone := ho 128 [] (by simp [Ends])
  suffices e : valueOn x bs = o from e ▸ ho d rest hr
  cases o with
  | none =>
    obtain ⟨e, c', hrun⟩ := halone (Cursor.start bs) (by simp [Cursor.start]) rfl
    simp [valueOn, hrun]
  | some a =>
    obtain ⟨c', hrun, -, -⟩ := halone (Cursor.start bs) (by simp [Cursor.start]) rfl
    simp [valueOn, hrun]

end Settles

/-! ## 3. Exponents -/

variable {negative positive : Bool} {sig : Nat} {start : Int}

/-- The step of an exponent's digit loop. -/
abbrev exponentStep (e d : Nat) : Option Nat :=
  if exponentFitsAfter e d then some (e * 10 + d) else none

theorem exponentSign_ok {p : Bool} (h : exponentSign.run c = .ok p c') :
    ∃ s, ExponentSign s ∧ Consumed c c' s := by
  unfold exponentSign at h
  obtain ⟨o, c₁, h₁, h⟩ := run_bind_ok h
  obtain ⟨rfl, rfl⟩ := peek_ok h₁
  split at h
  · rename_i hs
    obtain ⟨_, c₂, h₂, h⟩ := run_bind_ok h
    cases bump_ok h₂
    obtain ⟨-, rfl⟩ := run_pure_ok h
    obtain ⟨t, ht⟩ := List.head?_eq_some_iff.1 hs
    exact ⟨[43], .inr (.inl rfl), Consumed.bump ht⟩
  · rename_i hs
    obtain ⟨_, c₂, h₂, h⟩ := run_bind_ok h
    cases bump_ok h₂
    obtain ⟨-, rfl⟩ := run_pure_ok h
    obtain ⟨t, ht⟩ := List.head?_eq_some_iff.1 hs
    exact ⟨[45], .inr (.inr rfl), Consumed.bump ht⟩
  · obtain ⟨-, rfl⟩ := run_pure_ok h
    exact ⟨[], .inl rfl, Consumed.nil⟩

/-- A sign, or none before a digit, is read; only a minus sign makes the exponent negative. -/
theorem exponentSign_reads {s : Bytes} (hs : ExponentSign s) {b : UInt8}
    (hb : isDigitByte b = true) : Reads exponentSign d s (b :: rest) (s != [45]) := by
  unfold exponentSign
  rcases hs with rfl | rfl | rfl
  · refine (peek_at b).bind ?_ rfl
    have h43 : b ≠ 43 := fun e => by subst e; cases hb
    have h45 : b ≠ 45 := fun e => by subst e; cases hb
    split
    · rename_i he; cases he; exact absurd rfl h43
    · rename_i he; cases he; exact absurd rfl h45
    · exact Reads.pure _
  · exact (peek_at 43).bind ((bump_reads 43).bind (Reads.pure _) rfl) rfl
  · exact (peek_at 45).bind ((bump_reads 45).bind (Reads.pure _) rfl) rfl

/-- **The digits of an exponent's success**: at least one digit was taken. -/
theorem exponentValue_ok {x : Float} (h : (exponentValue negative sig start positive).run c = .ok x c') :
    ∃ ds, ds ≠ [] ∧ AllDigits ds ∧ Consumed c c' ds := by
  unfold exponentValue at h
  obtain ⟨o, c₁, h₁, h⟩ := run_bind_ok h
  obtain ⟨rfl, rfl⟩ := next_ok h₁
  cases hc : c.rest with
  | nil =>
    rw [hc] at h
    exact absurd h (Refused.run_ne_ok (fail_refused _))
  | cons b t =>
    rw [hc] at h
    by_cases hb : isDigitByte b = true
    · simp only [List.head?_cons, hb, Bool.not_true, Bool.false_eq_true, if_false] at h
      obtain ⟨r, c₂, h₂, h⟩ := run_bind_ok h
      obtain ⟨ds₁, hds₁, hc₂, -, hcut⟩ := digitsWhile_ok h₂
      have hc₁ : Consumed c c₂ (b :: ds₁) := (Consumed.bump hc).trans hc₂
      by_cases hr : r.2 = true
      · -- the exponent left 32 bits: the digit it stopped at and the rest are dropped
        rw [if_pos hr] at h
        obtain ⟨k, hk, hkd⟩ := hcut hr
        obtain ⟨t₂, ht₂⟩ := List.head?_eq_some_iff.1 hk
        obtain ⟨_, c₃, h₃, h⟩ := run_bind_ok h
        cases bump_ok h₃
        by_cases hs : (sig != 0 && positive) = true
        · rw [if_pos hs] at h
          exact absurd h (Refused.run_ne_ok (fail_refused _).bind)
        · rw [if_neg hs] at h
          obtain ⟨n, c₄, h₄, h⟩ := run_bind_ok h
          obtain ⟨ds₂, hds₂, hc₄, -⟩ := skipDigits_ok h₄
          obtain ⟨-, rfl⟩ := run_pure_ok h
          have hcons : Consumed c c' (b :: ds₁ ++ k :: ds₂) := by
            simpa using hc₁.trans ((Consumed.bump ht₂).trans hc₄)
          have hall : AllDigits (b :: ds₁ ++ k :: ds₂) := by
            intro x hx
            simp only [List.cons_append, List.mem_cons, List.mem_append] at hx
            rcases hx with rfl | hx | rfl | hx
            exacts [hb, hds₁ x hx, hkd, hds₂ x hx]
          exact ⟨b :: ds₁ ++ k :: ds₂, by simp, hall, hcons⟩
      · rw [if_neg hr] at h
        split at h
        · obtain ⟨-, rfl⟩ := run_pure_ok h
          exact ⟨b :: ds₁, List.cons_ne_nil _ _, allDigits_cons.2 ⟨hb, hds₁⟩, hc₁⟩
        · exact absurd h (Refused.run_ne_ok (fail_refused _))
    · simp only [List.head?_cons, hb, Bool.not_false, if_true] at h
      exact absurd h (Refused.run_ne_ok (fail_refused _).bind)

/-- **The digits of an exponent settle**: whatever follows them, they are read to one double or
    refused. -/
theorem exponentValue_settles {ds : Bytes} (hne : ds ≠ []) (hds : AllDigits ds) :
    Settles (exponentValue negative sig start positive) ds := by
  obtain ⟨b, ds, rfl⟩ := List.exists_cons_of_ne_nil hne
  obtain ⟨hb, hds⟩ := allDigits_cons.1 hds
  obtain ⟨taken, left, t, cut, rfl, -, hnone, hsome, hreads⟩ :=
    digitsWhile_splits exponentStep hds (digitValue b)
  unfold exponentValue
  refine Settles.reads_bind (fun d rest _ => next_reads b) ?_
  simp only [hb, Bool.not_true, Bool.false_eq_true, if_false]
  refine Settles.reads_bind (fun d rest hr => hreads d rest hr.noDigit) ?_
  cases cut with
  | false =>
    -- every digit fits: the double of the significand and the exponent, if in range
    obtain rfl := hnone rfl
    simp only [Bool.false_eq_true, if_false]
    split
    · exact Settles.of_reads fun d rest _ => Reads.pure _
    · exact Settles.of_fails fun d rest _ => (fail_refused _).fails
  | true =>
    -- the exponent left 32 bits: the rest of its digits are dropped
    obtain ⟨k, left, rfl⟩ := List.exists_cons_of_ne_nil (hsome rfl)
    have hleft : AllDigits left := fun x hx => hds x (by simp [hx])
    simp only [if_true]
    refine (Settles.reads_bind (fun d rest _ => bump_reads k) ?_).congr rfl
    by_cases hs : (sig != 0 && positive) = true
    · rw [if_pos hs]
      exact Settles.of_fails fun d rest _ => (fail_refused _).bind.fails
    · rw [if_neg hs]
      have hskip : ∀ d rest, Ends rest → Reads skipDigits d left ([] ++ rest) left.length :=
        fun d rest hr => skipDigits_reads hleft hr.noDigit
      refine (Settles.reads_bind hskip ?_).congr (List.append_nil _)
      exact Settles.of_reads fun d rest _ => Reads.pure _

/-- **An exponent's success** took its letter, its sign and at least one digit. -/
theorem exponentPart_ok {e : UInt8} {x : Float} (he : c.rest.head? = some e) (hl : e = 101 ∨ e = 69)
    (h : (exponentPart negative sig start).run c = .ok x c') :
    ∃ xs, ExponentText xs ∧ xs ≠ [] ∧ Consumed c c' xs := by
  unfold exponentPart at h
  obtain ⟨t, ht⟩ := List.head?_eq_some_iff.1 he
  obtain ⟨_, c₁, h₁, h⟩ := run_bind_ok h
  cases bump_ok h₁
  obtain ⟨p, c₂, h₂, h⟩ := run_bind_ok h
  obtain ⟨s, hs, hc₂⟩ := exponentSign_ok h₂
  obtain ⟨ds, hne, hds, hc₃⟩ := exponentValue_ok h
  exact ⟨e :: (s ++ ds), .inr ⟨e, s, ds, rfl, hl, hs, hne, hds⟩, List.cons_ne_nil _ _,
    (Consumed.bump ht).trans (hc₂.trans hc₃)⟩

/-- **An exponent settles**: its letter, sign and digits give one double, or are refused. -/
theorem exponentPart_settles {e : UInt8} {s ds : Bytes} (hs : ExponentSign s) (hne : ds ≠ [])
    (hds : AllDigits ds) : Settles (exponentPart negative sig start) (e :: (s ++ ds)) := by
  obtain ⟨b, t, rfl⟩ := List.exists_cons_of_ne_nil hne
  have hb : isDigitByte b = true := hds b (by simp)
  unfold exponentPart
  refine Settles.reads_bind (fun d rest _ => bump_reads e) ?_
  exact Settles.reads_bind (fun d rest _ => exponentSign_reads hs hb) (exponentValue_settles hne hds)

/-! ## 4. Fractions and the end of a number -/

theorem finishParts_ok {x : Float} (h : (finishParts negative sig start).run c = .ok x c') :
    c' = c := by
  unfold finishParts at h
  split at h
  · exact (run_pure_ok h).2
  · exact absurd h (Refused.run_ne_ok (fail_refused _))

theorem finishParts_settles (negative : Bool) (sig : Nat) (start : Int) :
    Settles (finishParts negative sig start) [] := by
  unfold finishParts
  split
  · exact Settles.of_reads fun d rest _ => Reads.pure _
  · exact Settles.of_fails fun d rest _ => (fail_refused _).fails

/-- **The end of a number's success** took its exponent, if it has one. -/
theorem numberEnd_ok {x : Float} (h : (numberEnd negative sig start).run c = .ok x c') :
    ∃ xs, ExponentText xs ∧ Consumed c c' xs := by
  unfold numberEnd at h
  obtain ⟨o, c₁, h₁, h⟩ := run_bind_ok h
  obtain ⟨rfl, rfl⟩ := peek_ok h₁
  split at h
  · next he =>
    obtain ⟨xs, hx, -, hc⟩ := exponentPart_ok he (.inl rfl) h
    exact ⟨xs, hx, hc⟩
  · next he =>
    obtain ⟨xs, hx, -, hc⟩ := exponentPart_ok he (.inr rfl) h
    exact ⟨xs, hx, hc⟩
  · cases finishParts_ok h
    exact ⟨[], .inl rfl, Consumed.nil⟩

theorem numberEnd_settles (negative : Bool) (sig : Nat) (start : Int) {xs : Bytes}
    (hx : ExponentText xs) :
    Settles (numberEnd negative sig start) xs := by
  unfold numberEnd
  rcases hx with rfl | ⟨e, s, ds, rfl, he | he, hs, hne, hds⟩
  · -- no exponent: what follows cannot start one
    refine Settles.peek_bind (fun rest hr => ?_) (finishParts_settles negative sig start)
    cases rest with
    | nil => rfl
    | cons b t =>
      obtain ⟨-, -, h101, h69⟩ := hr b rfl
      simp only [List.nil_append, List.head?_cons]
      split
      · next heq => exact absurd (Option.some.inj heq) h101
      · next heq => exact absurd (Option.some.inj heq) h69
      · rfl
  · subst he
    exact Settles.peek_bind (fun rest _ => rfl) (exponentPart_settles hs hne hds)
  · subst he
    exact Settles.peek_bind (fun rest _ => rfl) (exponentPart_settles hs hne hds)

/-- Skipping digits from a digit takes it. -/
theorem skipDigits_ok_cons {k : UInt8} {t : Bytes} {n : Nat} (hk : c.rest = k :: t)
    (hkd : isDigitByte k = true) (h : skipDigits.run c = .ok n c') :
    ∃ ds, AllDigits (k :: ds) ∧ Consumed c c' (k :: ds) := by
  unfold skipDigits digitsWhile at h
  obtain ⟨r, c₁, h₁, h⟩ := run_bind_ok h
  obtain ⟨-, rfl⟩ := run_pure_ok h
  have h₁ := get_bind_run_ok h₁
  rw [hk, List.length_cons, digitsWhile.go] at h₁
  obtain ⟨o, c₂, h₂, h₁⟩ := run_bind_ok h₁
  obtain ⟨rfl, rfl⟩ := peek_ok h₂
  simp only [hk, List.head?_cons, hkd, if_true] at h₁
  obtain ⟨_, c₃, h₃, h₁⟩ := run_bind_ok h₁
  cases bump_ok h₃
  obtain ⟨ds, hds, hcons, -⟩ := digitsWhile_count_ok _ _ _ _ r h₁
  exact ⟨ds, allDigits_cons.2 ⟨hkd, hds⟩, (Consumed.bump hk).trans hcons⟩

/-- The step of a fraction's digit loop: the significand so far, and how many digits it took. -/
abbrev fractionStep (p : Nat × Nat) (d : Nat) : Option (Nat × Nat) :=
  if fitsAfter p.1 d then some (p.1 * 10 + d, p.2 + 1) else none

/-- The fraction's loop counts the digits it takes. -/
theorem fractionStep_count : ∀ (ks : List Nat) (p r : Nat × Nat),
    ks.foldlM fractionStep p = some r → r.2 = p.2 + ks.length
  | [], p, r, h => by
    obtain rfl : p = r := Option.some.inj h
    simp
  | k :: ks, p, r, h => by
    rw [List.foldlM_cons] at h
    by_cases hf : fitsAfter p.1 k = true
    · simp only [fractionStep, hf, if_true, Option.bind_eq_bind, Option.bind_some] at h
      have := fractionStep_count ks _ r h
      simp only [List.length_cons] at this ⊢
      omega
    · simp [fractionStep, hf] at h

/-- **A fraction's success** took its point and at least one digit. -/
theorem fractionDigits_ok {r : Nat × Nat} (hc : c.rest.head? = some 46)
    (h : (fractionDigits sig).run c = .ok r c') :
    ∃ ds, FractionText (46 :: ds) ∧ Consumed c c' (46 :: ds) := by
  unfold fractionDigits at h
  obtain ⟨t, ht⟩ := List.head?_eq_some_iff.1 hc
  obtain ⟨_, c₁, h₁, h⟩ := run_bind_ok h
  cases bump_ok h₁
  obtain ⟨⟨⟨s', k'⟩, cut⟩, c₂, h₂, h⟩ := run_bind_ok h
  obtain ⟨ds₁, hds₁, hc₂, hfold, hcut⟩ := digitsWhile_ok h₂
  have hc₁ : Consumed c c₂ (46 :: ds₁) := (Consumed.bump ht).trans hc₂
  cases cut with
  | true =>
    -- a digit did not fit: it and the rest are dropped
    simp only [if_true] at h
    obtain ⟨k, hk, hkd⟩ := hcut rfl
    obtain ⟨t₂, ht₂⟩ := List.head?_eq_some_iff.1 hk
    obtain ⟨n, c₃, h₃, h⟩ := run_bind_ok h
    obtain ⟨ds₂, hds₂, hc₃⟩ := skipDigits_ok_cons ht₂ hkd h₃
    obtain ⟨-, rfl⟩ := run_pure_ok h
    have hall : AllDigits (ds₁ ++ k :: ds₂) := by
      intro x hx
      rcases List.mem_append.1 hx with hx | hx
      exacts [hds₁ x hx, hds₂ x hx]
    exact ⟨ds₁ ++ k :: ds₂, .inr ⟨_, rfl, by simp, hall⟩, by simpa using hc₁.trans hc₃⟩
  | false =>
    simp only [Bool.false_eq_true, if_false] at h
    have hcount : k' = ds₁.length := by simpa using fractionStep_count _ _ _ hfold
    by_cases hk : k' = 0
    · -- no digit after the point
      rw [if_pos (by simp [hk])] at h
      obtain ⟨o, c₃, h₃, h⟩ := run_bind_ok h
      split at h <;> exact absurd h (Refused.run_ne_ok (failAhead_refused _))
    · rw [if_neg (by simp [hk])] at h
      obtain ⟨-, rfl⟩ := run_pure_ok h
      have hne : ds₁ ≠ [] := fun e => hk (by simp [hcount, e])
      exact ⟨ds₁, .inr ⟨ds₁, rfl, hne, hds₁⟩, hc₁⟩

/-- **A fraction's digits are read whatever follows them**, when no digit does. -/
theorem fractionDigits_reads (sig : Nat) {ds : Bytes} (hne : ds ≠ []) (hds : AllDigits ds) :
    ∃ r, ∀ d rest, (∀ b ∈ rest.head?, isDigitByte b = false) →
      Reads (fractionDigits sig) d (46 :: ds) rest r := by
  obtain ⟨taken, left, ⟨s', k'⟩, cut, rfl, hfold, hnone, hsome, hreads⟩ :=
    digitsWhile_splits fractionStep hds (sig, 0)
  refine ⟨(s', k'), fun d rest hr => ?_⟩
  unfold fractionDigits
  refine (bump_reads 46).bind ?_ rfl
  refine (hreads d rest hr).bind ?_ rfl
  cases cut with
  | true =>
    -- the digits that did not fit are skipped
    have hleft : AllDigits left := fun x hx => hds x (by simp [hx])
    simp only [if_true]
    exact ((skipDigits_reads hleft hr).bind (Reads.pure (s', k')) rfl).congr (List.append_nil _)
  | false =>
    obtain rfl := hnone rfl
    have hcount : k' = taken.length := by simpa using fractionStep_count _ _ _ hfold
    have hk : k' ≠ 0 := by simpa [hcount] using hne
    simp only [Bool.false_eq_true, if_false]
    rw [if_neg (by simp [hk])]
    exact Reads.pure _

/-- **A fraction's success** took its point and digits, then the exponent, if any. -/
theorem fractionPart_ok {x : Float} (hc : c.rest.head? = some 46)
    (h : (fractionPart negative sig start).run c = .ok x c') :
    ∃ f xs, FractionText f ∧ ExponentText xs ∧ Consumed c c' (f ++ xs) := by
  unfold fractionPart at h
  obtain ⟨⟨s', k'⟩, c₁, h₁, h⟩ := run_bind_ok h
  obtain ⟨ds, hf, hc₁⟩ := fractionDigits_ok hc h₁
  obtain ⟨xs, hx, hc₂⟩ := numberEnd_ok h
  exact ⟨46 :: ds, xs, hf, hx, hc₁.trans hc₂⟩

theorem fractionPart_settles {ds xs : Bytes} (hne : ds ≠ []) (hds : AllDigits ds)
    (hx : ExponentText xs) : Settles (fractionPart negative sig start) (46 :: ds ++ xs) := by
  unfold fractionPart
  obtain ⟨⟨s', k'⟩, hr⟩ := fractionDigits_reads sig hne hds
  exact Settles.reads_bind (fun d rest hend => hr d (xs ++ rest) (exponent_ends hx hend))
    (numberEnd_settles negative s' (start - k') hx)

/-- What follows an exponent, or ends a number, is no point. -/
theorem exponent_no_point {xs : Bytes} (hx : ExponentText xs) (hr : Ends rest) :
    ∀ b ∈ (xs ++ rest).head?, b ≠ 46 := by
  rcases hx with rfl | ⟨e, s, ds, rfl, he | he, -⟩
  · exact fun b hb => (hr b hb).2.1
  all_goals
    rintro b hb
    simp only [List.cons_append, List.head?_cons, Option.mem_def, Option.some.injEq] at hb
    subst hb he
    decide

/-- **The rest of a number's success**: its fraction, if any, then its exponent, if any. -/
theorem afterInteger_ok {x : Float} (h : (afterInteger negative sig start).run c = .ok x c') :
    ∃ f xs, FractionText f ∧ ExponentText xs ∧ Consumed c c' (f ++ xs) := by
  unfold afterInteger at h
  obtain ⟨o, c₁, h₁, h⟩ := run_bind_ok h
  obtain ⟨rfl, rfl⟩ := peek_ok h₁
  split at h
  · next hp => exact fractionPart_ok hp h
  · obtain ⟨xs, hx, hc⟩ := numberEnd_ok h
    exact ⟨[], xs, .inl rfl, hx, hc⟩

theorem afterInteger_settles (negative : Bool) (sig : Nat) (start : Int) {f xs : Bytes}
    (hf : FractionText f) (hx : ExponentText xs) :
    Settles (afterInteger negative sig start) (f ++ xs) := by
  unfold afterInteger
  rcases hf with rfl | ⟨ds, rfl, hne, hds⟩
  · -- no fraction: what follows is no point
    refine Settles.peek_bind (fun rest hr => ?_) (numberEnd_settles negative sig start hx)
    have hpt := exponent_no_point hx hr
    rw [List.nil_append]
    split
    · next heq => exact absurd rfl (hpt 46 heq)
    · rfl
  · exact Settles.peek_bind (fun rest _ => rfl) (fractionPart_settles hne hds hx)

/-! ## 5. Numbers -/

/-- The step of an integer's digit loop. -/
abbrev integerStep (s d : Nat) : Option Nat :=
  if fitsAfter s d then some (s * 10 + d) else none

/-- What follows a number's integer part is no digit. -/
theorem tail_no_digit {f xs : Bytes} (hf : FractionText f) (hx : ExponentText xs)
    (hr : Ends rest) : ∀ b ∈ (f ++ xs ++ rest).head?, isDigitByte b = false := by
  rcases hf with rfl | ⟨ds, rfl, -, -⟩
  · simpa using exponent_ends hx hr
  · intro b hb
    simp only [List.cons_append, List.head?_cons, Option.mem_def, Option.some.injEq] at hb
    subst hb
    decide

/-- A fraction or an exponent starts with a point or an exponent's letter. -/
theorem tail_head {f xs : Bytes} (hf : FractionText f) (hx : ExponentText xs)
    (hne : f ++ xs ≠ []) : ∃ b t, f ++ xs = b :: t ∧ (b = 46 ∨ b = 101 ∨ b = 69) := by
  rcases hf with rfl | ⟨ds, rfl, -, -⟩
  · rcases hx with rfl | ⟨e, s, ds, rfl, he, -⟩
    · exact absurd rfl hne
    · exact ⟨e, s ++ ds, rfl, .inr he⟩
  · exact ⟨46, ds ++ xs, rfl, .inl rfl⟩

/-- **A number's success** took a number's text. -/
theorem readNumber_ok {n : Number} (h : (readNumber negative).run c = .ok n c') :
    ∃ bs, NumberText bs ∧ Consumed c c' bs := by
  unfold readNumber at h
  obtain ⟨o, c₁, h₁, h⟩ := run_bind_ok h
  obtain ⟨rfl, rfl⟩ := next_ok h₁
  split at h
  · exact absurd h (Refused.run_ne_ok (fail_refused _))
  · -- a zero, alone or before a fraction or an exponent
    next h48 =>
    obtain ⟨t, ht⟩ := List.head?_eq_some_iff.1 h48
    have hz : Consumed c c.bump [48] := Consumed.bump ht
    have hzero : NumberText [48] := ⟨[48], [], [], rfl, .inl rfl, .inl rfl, .inl rfl⟩
    obtain ⟨p, c₂, h₂, h⟩ := run_bind_ok h
    obtain ⟨rfl, rfl⟩ := peek_ok h₂
    split at h
    · next b' _ =>
      by_cases hd : isDigitByte b' = true
      · rw [if_pos hd] at h
        exact absurd h (Refused.run_ne_ok (failAhead_refused _))
      · rw [if_neg hd] at h
        split at h
        · obtain ⟨x, c₃, h₃, h⟩ := run_bind_ok h
          obtain ⟨-, rfl⟩ := run_pure_ok h
          obtain ⟨f, xs, hf, hx, hc₃⟩ := afterInteger_ok h₃
          exact ⟨[48] ++ f ++ xs, ⟨[48], f, xs, rfl, .inl rfl, hf, hx⟩,
            by simpa using hz.trans hc₃⟩
        · obtain ⟨-, rfl⟩ := run_pure_ok h
          exact ⟨[48], hzero, hz⟩
    · obtain ⟨-, rfl⟩ := run_pure_ok h
      exact ⟨[48], hzero, hz⟩
  · -- digits from one to nine: as many as fit, the others dropped, then the rest
    next b hb48 hb =>
    obtain ⟨t, ht⟩ := List.head?_eq_some_iff.1 hb
    have hb₁ : Consumed c c.bump [b] := Consumed.bump ht
    by_cases hd : isDigitByte b = true
    · simp only [hd, Bool.not_true, Bool.false_eq_true, if_false] at h
      obtain ⟨⟨sig', cut⟩, c₂, h₂, h⟩ := run_bind_ok h
      obtain ⟨ds₁, hds₁, hc₂, -, -⟩ := digitsWhile_ok h₂
      cases cut with
      | true =>
        simp only [if_true] at h
        obtain ⟨dropped, c₃, h₃, h⟩ := run_bind_ok h
        obtain ⟨ds₂, hds₂, hc₃, -⟩ := skipDigits_ok h₃
        obtain ⟨x, c₄, h₄, h⟩ := run_bind_ok h
        obtain ⟨-, rfl⟩ := run_pure_ok h
        obtain ⟨f, xs, hf, hx, hc₄⟩ := afterInteger_ok h₄
        have hint : IntegerText (b :: (ds₁ ++ ds₂)) := by
          refine .inr ⟨b, ds₁ ++ ds₂, rfl, hd, hb48, fun x hx => ?_⟩
          rcases List.mem_append.1 hx with hx | hx
          exacts [hds₁ x hx, hds₂ x hx]
        exact ⟨b :: (ds₁ ++ ds₂) ++ f ++ xs, ⟨_, f, xs, rfl, hint, hf, hx⟩,
          by simpa using hb₁.trans (hc₂.trans (hc₃.trans hc₄))⟩
      | false =>
        simp only [Bool.false_eq_true, if_false] at h
        have hint : IntegerText (b :: ds₁) := .inr ⟨b, ds₁, rfl, hd, hb48, hds₁⟩
        obtain ⟨p, c₃, h₃, h⟩ := run_bind_ok h
        obtain ⟨rfl, rfl⟩ := peek_ok h₃
        have hafter : ∀ {x : Float} {c₄ : Cursor},
            (afterInteger negative sig' 0).run c₂ = .ok x c₄ → (pure (Number.float x) : Reader Number).run c₄ = .ok n c' →
              ∃ bs, NumberText bs ∧ Consumed c c' bs := by
          intro x c₄ h₄ h
          obtain ⟨-, rfl⟩ := run_pure_ok h
          obtain ⟨f, xs, hf, hx, hc₄⟩ := afterInteger_ok h₄
          exact ⟨b :: ds₁ ++ f ++ xs, ⟨_, f, xs, rfl, hint, hf, hx⟩,
            by simpa using hb₁.trans (hc₂.trans hc₄)⟩
        split at h
        · obtain ⟨x, c₄, h₄, h⟩ := run_bind_ok h
          exact hafter h₄ h
        · obtain ⟨x, c₄, h₄, h⟩ := run_bind_ok h
          exact hafter h₄ h
        · obtain ⟨x, c₄, h₄, h⟩ := run_bind_ok h
          exact hafter h₄ h
        · obtain ⟨-, rfl⟩ := run_pure_ok h
          exact ⟨b :: ds₁, ⟨_, [], [], by simp, hint, .inl rfl, .inl rfl⟩, hb₁.trans hc₂⟩
    · simp only [hd, Bool.not_false, if_true] at h
      exact absurd h (Refused.run_ne_ok (fail_refused _).bind)

/-- **A number's text settles**: the reader gives it one value, or refuses it as out of range,
    whatever ends it. -/
theorem readNumber_settles {bs : Bytes} (h : NumberText bs) : Settles (readNumber negative) bs := by
  obtain ⟨i, f, xs, rfl, hi, hf, hx⟩ := h
  unfold readNumber
  rcases hi with rfl | ⟨b, ds, rfl, hb, hb48, hds⟩
  · -- a zero, alone or before a fraction or an exponent
    refine (Settles.reads_bind (fun d rest _ => next_reads 48) ?_).congr
      (List.append_assoc _ _ _).symm
    by_cases hfx : f ++ xs = []
    · obtain ⟨rfl, rfl⟩ := List.append_eq_nil_iff.1 hfx
      refine Settles.peek_bind (fun rest hr => ?_) (Settles.of_reads fun d rest _ =>
        Reads.pure (if negative then Number.float (-0.0) else .unsigned 0))
      cases rest with
      | nil => rfl
      | cons b t =>
        obtain ⟨hd, hpt, he, hE⟩ := hr b rfl
        simp [hd, hpt, he, hE]
    · obtain ⟨b, t, hbt, hb⟩ := tail_head hf hx hfx
      refine Settles.peek_bind (fun rest _ => ?_)
        ((afterInteger_settles negative 0 0 hf hx).bind_pure Number.float)
      rw [hbt]
      rcases hb with rfl | rfl | rfl <;> rfl
  · -- digits from one to nine: as many as fit, the others dropped, then the rest
    obtain ⟨taken, left, t, cut, rfl, -, hnone, hsome, hreads⟩ :=
      digitsWhile_splits integerStep hds (digitValue b)
    have hdig : ∀ d rest, Ends rest → Reads (digitsWhile integerStep (digitValue b)) d taken
        ((left ++ (f ++ xs)) ++ rest) (t, cut) := fun d rest hr => by
      simpa using hreads d (f ++ xs ++ rest) (tail_no_digit hf hx hr)
    rw [show b :: (taken ++ left) ++ f ++ xs = [b] ++ (taken ++ (left ++ (f ++ xs))) by simp]
    refine Settles.reads_bind (fun d rest _ => next_reads b) ?_
    split
    · next heq => cases heq
    · next heq => exact absurd (Option.some.inj heq) hb48
    · next heq =>
      obtain rfl := Option.some.inj heq
      simp only [hb, Bool.not_true, Bool.false_eq_true, if_false]
      refine Settles.reads_bind hdig ?_
      cases cut with
      | true =>
        have hleft : AllDigits left := fun x hx => hds x (by simp [hx])
        have hskip : ∀ d rest, Ends rest → Reads skipDigits d left (f ++ xs ++ rest) left.length :=
          fun d rest hr => skipDigits_reads hleft (tail_no_digit hf hx hr)
        simp only [if_true]
        exact Settles.reads_bind hskip
          ((afterInteger_settles negative t left.length hf hx).bind_pure Number.float)
      | false =>
        obtain rfl := hnone rfl
        simp only [Bool.false_eq_true, if_false, List.nil_append]
        by_cases hfx : f ++ xs = []
        · -- an integer: nothing after it continues the number
          rw [hfx]
          refine Settles.peek_bind (fun rest hr => ?_) (Settles.of_reads fun d rest _ =>
            Reads.pure (integerNumber negative t))
          cases rest with
          | nil => rfl
          | cons b t =>
            obtain ⟨-, hpt, he, hE⟩ := hr b rfl
            simp only [List.nil_append, List.head?_cons]
            split
            · next heq => exact absurd (Option.some.inj heq) hpt
            · next heq => exact absurd (Option.some.inj heq) he
            · next heq => exact absurd (Option.some.inj heq) hE
            · rfl
        · obtain ⟨b, t', hbt, hb⟩ := tail_head hf hx hfx
          refine Settles.peek_bind (fun rest _ => ?_)
            ((afterInteger_settles negative t 0 hf hx).bind_pure Number.float)
          rw [hbt]
          rcases hb with rfl | rfl | rfl <;> rfl

/-! ## 6. The value of a number's text -/

/-- **The value of a number's text**, after a minus sign when `negative`: what the number reader
    gives the text on its own, `none` when it refuses it as out of range. -/
def numberValue (negative : Bool) (bs : Bytes) : Option Number := valueOn (readNumber negative) bs

/-- **The text of a number with its sign, and its value**: a number's text, or a minus sign and
    one, whose value the number is. -/
def SignedNumber (bs : Bytes) (n : Number) : Prop :=
  (NumberText bs ∧ numberValue false bs = some n) ∨
    ∃ t, bs = 45 :: t ∧ NumberText t ∧ numberValue true t = some n

/-- **The number reader gives a number's text its value**, whatever ends the number. -/
theorem readNumber_outcome {bs : Bytes} (h : NumberText bs) (hr : Ends rest) :
    Outcome (readNumber negative) d bs rest (numberValue negative bs) :=
  (readNumber_settles h).outcome hr

/-- **A number read is the value of its text**, once what follows it is known to end it. -/
theorem readNumber_value {n : Number} (h : (readNumber negative).run c = .ok n c')
    (hr : Ends c'.rest) : ∃ bs, NumberText bs ∧ Consumed c c' bs ∧ numberValue negative bs = some n := by
  obtain ⟨bs, hbs, hc⟩ := readNumber_ok h
  refine ⟨bs, hbs, hc, ?_⟩
  have ho : Outcome (readNumber negative) c.depth bs c'.rest (numberValue negative bs) :=
    readNumber_outcome hbs hr
  cases hv : numberValue negative bs with
  | none =>
    rw [hv] at ho
    obtain ⟨e, c'', he⟩ := ho c hc.1 rfl
    rw [h] at he
    cases he
  | some a =>
    rw [hv] at ho
    obtain ⟨c'', ha, -, -⟩ := ho c hc.1 rfl
    rw [h] at ha
    cases ha
    rfl

end SmartHelmet.Json
