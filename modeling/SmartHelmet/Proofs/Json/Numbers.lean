import SmartHelmet.Proofs.Json.Strings
/-!
# The text of numbers

A skipped number is checked for its syntax only. Its text after the minus sign is JSON's:

* `IntegerText`, `FractionText`, `ExponentText`, `NumberText` — a zero alone or a digit from one
  to nine and more digits; then a point and at least one digit, if any; then `e` or `E`, a sign or
  none, and at least one digit, if any;
* `skipNumber_eq` — the skipper reads the integer part (`integerPart`), then what may follow it
  (`numberTail`);
* `Ends`, `ends_cons` — what may follow a number: nothing that continues it, such as a comma or a
  closing bracket or brace;
* `skipNumber_ok`, `skipNumber_reads` — a success took a number's text, and a number's text is
  skipped before anything that cannot continue it.
-/

namespace SmartHelmet.Json

/-! ## 1. The text -/

/-- What may follow a number: nothing that would continue it, no digit, point or exponent
    mark. -/
def Ends (rest : Bytes) : Prop :=
  ∀ b ∈ rest.head?, isDigitByte b = false ∧ b ≠ 46 ∧ b ≠ 101 ∧ b ≠ 69

/-- A comma or a closing bracket or brace ends a number. -/
theorem ends_cons {b : UInt8} (t : Bytes) (h : b = 44 ∨ b = 93 ∨ b = 125) : Ends (b :: t) := by
  simp only [Ends, List.head?_cons, Option.mem_def, Option.some.injEq, forall_eq']
  rcases h with rfl | rfl | rfl <;> decide

/-- Decimal digits, any number of them. -/
def AllDigits (ds : Bytes) : Prop := ∀ b ∈ ds, isDigitByte b = true

/-- The integer part of a number: a zero alone, or a digit other than zero and more digits. -/
def IntegerText (bs : Bytes) : Prop :=
  bs = [48] ∨ ∃ b ds, bs = b :: ds ∧ isDigitByte b = true ∧ b ≠ 48 ∧ AllDigits ds

/-- The fraction of a number, if it has one: a point and at least one digit. -/
def FractionText (bs : Bytes) : Prop := bs = [] ∨ ∃ ds, bs = 46 :: ds ∧ ds ≠ [] ∧ AllDigits ds

/-- The signs an exponent may have: none, plus or minus. -/
def ExponentSign (s : Bytes) : Prop := s = [] ∨ s = [43] ∨ s = [45]

/-- The exponent of a number, if it has one: `e` or `E`, a sign or none, and at least one
    digit. -/
def ExponentText (bs : Bytes) : Prop :=
  bs = [] ∨ ∃ e s ds, bs = e :: (s ++ ds) ∧ (e = 101 ∨ e = 69) ∧ ExponentSign s ∧ ds ≠ [] ∧
    AllDigits ds

/-- **The text of a number after its minus sign, if any**: an integer part, a fraction and an
    exponent. -/
def NumberText (bs : Bytes) : Prop :=
  ∃ i f x, bs = i ++ f ++ x ∧ IntegerText i ∧ FractionText f ∧ ExponentText x

@[simp] theorem allDigits_nil : AllDigits [] := by simp [AllDigits]

@[simp] theorem allDigits_cons {b : UInt8} {ds : Bytes} :
    AllDigits (b :: ds) ↔ isDigitByte b = true ∧ AllDigits ds := by
  simp [AllDigits]

/-- A number's text starts with a digit. -/
theorem NumberText.head {bs : Bytes} (h : NumberText bs) :
    ∃ b t, bs = b :: t ∧ isDigitByte b = true := by
  obtain ⟨i, f, x, rfl, hi, -, -⟩ := h
  rcases hi with rfl | ⟨b, ds, rfl, hb, -, -⟩
  · exact ⟨48, f ++ x, rfl, rfl⟩
  · exact ⟨b, ds ++ f ++ x, rfl, hb⟩

/-! ## 2. Digits -/

variable {c c' : Cursor} {d : Nat} {rest : Bytes}

/-- The digit loop of the skipper: a success took digits only, and counted them. -/
theorem digitsWhile_count_ok : ∀ (fuel s : Nat) (c c' : Cursor) (r : Nat × Bool),
    (digitsWhile.go (fun n _ => some (n + 1)) fuel s).run c = .ok r c' →
      ∃ ds, AllDigits ds ∧ Consumed c c' ds ∧ r.1 = s + ds.length
  | 0, s, c, c', r, h => by
    obtain ⟨rfl, rfl⟩ := run_pure_ok h
    exact ⟨[], allDigits_nil, Consumed.nil, rfl⟩
  | fuel + 1, s, c, c', r, h => by
    simp only [digitsWhile.go] at h
    obtain ⟨o, c₁, h₁, h⟩ := run_bind_ok h
    obtain ⟨rfl, rfl⟩ := peek_ok h₁
    cases hc : c.rest with
    | nil =>
      rw [hc] at h
      obtain ⟨rfl, rfl⟩ := run_pure_ok h
      exact ⟨[], allDigits_nil, Consumed.nil, rfl⟩
    | cons b t =>
      rw [hc] at h
      simp only [List.head?_cons] at h
      by_cases hb : isDigitByte b = true
      · -- a digit is taken and counted
        rw [if_pos hb] at h
        obtain ⟨_, c₂, h₂, h⟩ := run_bind_ok h
        cases bump_ok h₂
        obtain ⟨ds, hds, hcons, hr⟩ := digitsWhile_count_ok fuel (s + 1) _ _ r h
        exact ⟨b :: ds, allDigits_cons.2 ⟨hb, hds⟩, (Consumed.bump hc).trans hcons,
          by simp [hr]; omega⟩
      · rw [if_neg hb] at h
        obtain ⟨rfl, rfl⟩ := run_pure_ok h
        exact ⟨[], allDigits_nil, Consumed.nil, rfl⟩

/-- **Skipping digits** takes digits only, and answers how many. -/
theorem skipDigits_ok {n : Nat} (h : skipDigits.run c = .ok n c') :
    ∃ ds, AllDigits ds ∧ Consumed c c' ds ∧ n = ds.length := by
  unfold skipDigits digitsWhile at h
  obtain ⟨r, c₁, h₁, h⟩ := run_bind_ok h
  obtain ⟨ds, hds, hcons, hr⟩ := digitsWhile_count_ok _ 0 _ _ r (get_bind_run_ok h₁)
  obtain ⟨rfl, rfl⟩ := run_pure_ok h
  exact ⟨ds, hds, hcons, by simpa using hr⟩

theorem digitsWhile_count_reads (hr : ∀ b ∈ rest.head?, isDigitByte b = false) :
    ∀ (ds : Bytes), AllDigits ds → ∀ (fuel s : Nat), ds.length < fuel →
      Reads (digitsWhile.go (fun n _ => some (n + 1)) fuel s) d ds rest (s + ds.length, false)
  | [], _, fuel, s, hlen => by
    obtain ⟨fuel, rfl⟩ : ∃ f, fuel = f + 1 := ⟨fuel - 1, by simp at hlen; omega⟩
    unfold digitsWhile.go
    refine peek_reads.bind ?_ rfl
    cases rest with
    | nil => exact Reads.pure _
    | cons b t =>
      simp only [List.nil_append, List.head?_cons, hr b rfl, Bool.false_eq_true, if_false]
      exact Reads.pure _
  | b :: ds, hds, fuel, s, hlen => by
    obtain ⟨hb, hds⟩ := allDigits_cons.1 hds
    obtain ⟨fuel, rfl⟩ : ∃ f, fuel = f + 1 := ⟨fuel - 1, by simp at hlen; omega⟩
    unfold digitsWhile.go
    refine (peek_at b).bind ?_ rfl
    simp only [hb, if_true]
    have ih := digitsWhile_count_reads hr ds hds fuel (s + 1) (by simp at hlen; omega)
    rw [show s + 1 + ds.length = s + (b :: ds).length by simp; omega] at ih
    exact (bump_reads b).bind ih rfl

/-- **Digits are skipped**, up to a byte that is no digit, and counted. -/
theorem skipDigits_reads {ds : Bytes} (hds : AllDigits ds)
    (hr : ∀ b ∈ rest.head?, isDigitByte b = false) : Reads skipDigits d ds rest ds.length := by
  unfold skipDigits digitsWhile
  refine ((Reads.get_bind fun c hc => digitsWhile_count_reads hr ds hds _ 0
    (by simp [hc])).bind ?_ rfl).congr (List.append_nil _)
  rw [Nat.zero_add]
  exact Reads.pure _

/-! ## 3. Fractions and exponents -/

/-- Nothing that continues a number, so no digit either. -/
theorem Ends.noDigit (h : Ends rest) : ∀ b ∈ rest.head?, isDigitByte b = false :=
  fun b hb => (h b hb).1

/-- **A fraction's success** took at least one digit after the point. -/
theorem skipFraction_ok {u : Unit} (h : skipFraction.run c = .ok u c') :
    ∃ ds, ds ≠ [] ∧ AllDigits ds ∧ Consumed c.bump c' ds := by
  unfold skipFraction at h
  obtain ⟨_, c₁, h₁, h⟩ := run_bind_ok h
  cases bump_ok h₁
  obtain ⟨n, c₂, h₂, h⟩ := run_bind_ok h
  obtain ⟨ds, hds, hcons, rfl⟩ := skipDigits_ok h₂
  by_cases hz : (ds.length == 0) = true
  · rw [if_pos hz] at h
    exact absurd h (Refused.run_ne_ok (failAhead_refused _))
  · rw [if_neg hz] at h
    obtain ⟨-, rfl⟩ := run_pure_ok h
    exact ⟨ds, fun he => hz (by simp [he]), hds, hcons⟩

theorem skipFraction_reads {ds : Bytes} (hne : ds ≠ []) (hds : AllDigits ds)
    (hr : ∀ b ∈ rest.head?, isDigitByte b = false) : Reads skipFraction d (46 :: ds) rest () := by
  unfold skipFraction
  refine (bump_reads 46).bind (((skipDigits_reads hds hr).bind ?_ rfl).congr
    (List.append_nil _)) rfl
  rw [if_neg (by simpa using hne)]
  exact Reads.pure ()

/-- The digits of an exponent, after its sign: at least one. -/
def exponentDigits : Reader Unit := do
  match ← next with
  | some b => if isDigitByte b then do let _ ← skipDigits; pure () else fail .invalidNumber
  | none => fail .invalidNumber

theorem exponentDigits_ok {u : Unit} (h : exponentDigits.run c = .ok u c') :
    ∃ ds, ds ≠ [] ∧ AllDigits ds ∧ Consumed c c' ds := by
  unfold exponentDigits at h
  obtain ⟨o, c₁, h₁, h⟩ := run_bind_ok h
  obtain ⟨rfl, rfl⟩ := next_ok h₁
  cases hc : c.rest with
  | nil =>
    rw [hc] at h
    exact absurd h (Refused.run_ne_ok (fail_refused _))
  | cons b t =>
    rw [hc] at h
    simp only [List.head?_cons] at h
    by_cases hb : isDigitByte b = true
    · rw [if_pos hb] at h
      obtain ⟨n, c₂, h₂, h⟩ := run_bind_ok h
      obtain ⟨ds, hds, hcons, -⟩ := skipDigits_ok h₂
      obtain ⟨-, rfl⟩ := run_pure_ok h
      exact ⟨b :: ds, List.cons_ne_nil _ _, allDigits_cons.2 ⟨hb, hds⟩,
        (Consumed.bump hc).trans hcons⟩
    · rw [if_neg hb] at h
      exact absurd h (Refused.run_ne_ok (fail_refused _))

theorem exponentDigits_reads {ds : Bytes} (hne : ds ≠ []) (hds : AllDigits ds)
    (hr : ∀ b ∈ rest.head?, isDigitByte b = false) : Reads exponentDigits d ds rest () := by
  obtain ⟨b, ds, rfl⟩ := List.exists_cons_of_ne_nil hne
  obtain ⟨hb, hds⟩ := allDigits_cons.1 hds
  unfold exponentDigits
  refine (next_reads b).bind ?_ rfl
  simp only [hb, if_true]
  exact ((skipDigits_reads hds hr).bind (Reads.pure ()) rfl).congr (List.append_nil _)

/-- **An exponent's success** took, after its letter, a sign or none and at least one digit. -/
theorem skipExponent_ok {u : Unit} (h : skipExponent.run c = .ok u c') :
    ∃ s ds, ExponentSign s ∧ ds ≠ [] ∧ AllDigits ds ∧ Consumed c.bump c' (s ++ ds) := by
  unfold skipExponent at h
  obtain ⟨_, c₁, h₁, h⟩ := run_bind_ok h
  cases bump_ok h₁
  obtain ⟨o, c₂, h₂, h⟩ := run_bind_ok h
  obtain ⟨rfl, rfl⟩ := peek_ok h₂
  simp only at h
  split at h
  · -- a plus sign
    rename_i hs
    obtain ⟨_, c₃, h₃, h⟩ := run_bind_ok h
    cases bump_ok h₃
    obtain ⟨ds, hne, hds, hcons⟩ := exponentDigits_ok h
    obtain ⟨t, ht⟩ := List.head?_eq_some_iff.1 hs
    exact ⟨[43], ds, .inr (.inl rfl), hne, hds, (Consumed.bump ht).trans hcons⟩
  · -- a minus sign
    rename_i hs
    obtain ⟨_, c₃, h₃, h⟩ := run_bind_ok h
    cases bump_ok h₃
    obtain ⟨ds, hne, hds, hcons⟩ := exponentDigits_ok h
    obtain ⟨t, ht⟩ := List.head?_eq_some_iff.1 hs
    exact ⟨[45], ds, .inr (.inr rfl), hne, hds, (Consumed.bump ht).trans hcons⟩
  · -- no sign
    obtain ⟨ds, hne, hds, hcons⟩ := exponentDigits_ok h
    exact ⟨[], ds, .inl rfl, hne, hds, hcons⟩

theorem skipExponent_reads {e : UInt8} {s ds : Bytes} (hs : ExponentSign s) (hne : ds ≠ [])
    (hds : AllDigits ds) (hr : ∀ b ∈ rest.head?, isDigitByte b = false) :
    Reads skipExponent d (e :: (s ++ ds)) rest () := by
  have hdig : Reads exponentDigits d ds rest () := exponentDigits_reads hne hds hr
  unfold skipExponent
  refine (bump_reads e).bind ?_ rfl
  rcases hs with rfl | rfl | rfl
  · -- no sign: the first digit is no sign either
    obtain ⟨b, t, rfl⟩ := List.exists_cons_of_ne_nil hne
    have hb := (allDigits_cons.1 hds).1
    refine (peek_at b).bind ?_ rfl
    have h43 : b ≠ 43 := fun e => by subst e; cases hb
    have h45 : b ≠ 45 := fun e => by subst e; cases hb
    simp only
    split
    · rename_i he; cases he; exact absurd rfl h43
    · rename_i he; cases he; exact absurd rfl h45
    · exact hdig
  · refine (peek_at 43).bind ?_ rfl
    exact (bump_reads 43).bind hdig rfl
  · refine (peek_at 45).bind ?_ rfl
    exact (bump_reads 45).bind hdig rfl

/-- An exponent where its letter stands: a success took an exponent's text. -/
theorem skipExponent_at_ok {e : UInt8} (he : c.rest.head? = some e) (hl : e = 101 ∨ e = 69)
    {u : Unit} (h : skipExponent.run c = .ok u c') : ∃ x, ExponentText x ∧ Consumed c c' x := by
  obtain ⟨t, ht⟩ := List.head?_eq_some_iff.1 he
  obtain ⟨s, ds, hs, hne, hds, hcons⟩ := skipExponent_ok h
  exact ⟨e :: (s ++ ds), .inr ⟨e, s, ds, rfl, hl, hs, hne, hds⟩, (Consumed.bump ht).trans hcons⟩

/-- What may follow an integer part: a fraction if a point follows, then an exponent if its letter
    follows. -/
def numberTail : Reader Unit := do
  match ← peek with
  | some 46 =>
    skipFraction
    match ← peek with
    | some 101 => skipExponent
    | some 69 => skipExponent
    | _ => pure ()
  | some 101 => skipExponent
  | some 69 => skipExponent
  | _ => pure ()

/-- The integer part of a number: a zero, which no digit may follow, or a digit and more
    digits. -/
def integerPart : Reader Unit := do
  match ← next with
  | some 48 =>
    match ← peek with
    | some b => if isDigitByte b then failAhead .invalidNumber
    | none => pure ()
  | some b =>
    if isDigitByte b then do let _ ← skipDigits; pure () else fail .invalidNumber
  | none => fail .invalidNumber

/-- **The number skipper reads an integer part, then what may follow it.** -/
theorem skipNumber_eq : skipNumber = integerPart >>= fun _ => numberTail := by
  -- `numberTail` stays folded: each branch ends in its body, matched by `rfl`
  unfold skipNumber integerPart
  simp only [bind_assoc]
  congr 1
  funext o
  rcases o with _ | b
  · rfl
  · by_cases h48 : b = 48
    · subst h48
      simp only [bind_assoc]
      congr 1
      funext p
      rcases p with _ | b
      · exact (pure_bind _ _).symm
      · -- a digit after a leading zero is refused before the tail
        dsimp only
        by_cases hb : isDigitByte b = true
        · rw [if_pos hb, if_pos hb]
          rfl
        · rw [if_neg hb, if_neg hb, pure_bind]
          rfl
    · -- another first byte: the same test on both sides
      by_cases hb : isDigitByte b = true
      · simp only [hb, if_true, bind_assoc, pure_bind]
        rfl
      · simp only [hb, Bool.false_eq_true, if_false]
        rfl

theorem numberTail_ok {u : Unit} (h : numberTail.run c = .ok u c') :
    ∃ f x, FractionText f ∧ ExponentText x ∧ Consumed c c' (f ++ x) := by
  unfold numberTail at h
  obtain ⟨o, c₁, h₁, h⟩ := run_bind_ok h
  obtain ⟨rfl, rfl⟩ := peek_ok h₁
  split at h
  · -- a point: the fraction, then an exponent if its letter follows
    rename_i hp
    obtain ⟨t, ht⟩ := List.head?_eq_some_iff.1 hp
    obtain ⟨_, c₂, h₂, h⟩ := run_bind_ok h
    obtain ⟨ds, hne, hds, hcons⟩ := skipFraction_ok h₂
    have hf : FractionText (46 :: ds) := .inr ⟨ds, rfl, hne, hds⟩
    have hcf : Consumed c c₂ (46 :: ds) := (Consumed.bump ht).trans hcons
    obtain ⟨o', c₃, h₃, h⟩ := run_bind_ok h
    obtain ⟨rfl, rfl⟩ := peek_ok h₃
    split at h
    · rename_i he
      obtain ⟨x, hx, hcx⟩ := skipExponent_at_ok he (.inl rfl) h
      exact ⟨_, x, hf, hx, hcf.trans hcx⟩
    · rename_i he
      obtain ⟨x, hx, hcx⟩ := skipExponent_at_ok he (.inr rfl) h
      exact ⟨_, x, hf, hx, hcx |> hcf.trans⟩
    · obtain ⟨-, rfl⟩ := run_pure_ok h
      exact ⟨_, [], hf, .inl rfl, by simpa using hcf⟩
  · rename_i he
    obtain ⟨x, hx, hcx⟩ := skipExponent_at_ok he (.inl rfl) h
    exact ⟨[], x, .inl rfl, hx, hcx⟩
  · rename_i he
    obtain ⟨x, hx, hcx⟩ := skipExponent_at_ok he (.inr rfl) h
    exact ⟨[], x, .inl rfl, hx, hcx⟩
  · obtain ⟨-, rfl⟩ := run_pure_ok h
    exact ⟨[], [], .inl rfl, .inl rfl, Consumed.nil⟩

theorem integerPart_ok {u : Unit} (h : integerPart.run c = .ok u c') :
    ∃ i, IntegerText i ∧ Consumed c c' i := by
  unfold integerPart at h
  obtain ⟨o, c₁, h₁, h⟩ := run_bind_ok h
  obtain ⟨rfl, rfl⟩ := next_ok h₁
  cases hc : c.rest with
  | nil =>
    rw [hc] at h
    exact absurd h (Refused.run_ne_ok (fail_refused _))
  | cons b t =>
    rw [hc] at h
    simp only [List.head?_cons] at h
    split at h
    · -- a zero, and no digit after it
      rename_i he
      cases he
      obtain ⟨p, c₂, h₂, h⟩ := run_bind_ok h
      obtain ⟨rfl, rfl⟩ := peek_ok h₂
      split at h
      · split at h
        · exact absurd h (Refused.run_ne_ok (failAhead_refused _))
        · obtain ⟨-, rfl⟩ := run_pure_ok h
          exact ⟨[48], .inl rfl, Consumed.bump hc⟩
      · obtain ⟨-, rfl⟩ := run_pure_ok h
        exact ⟨[48], .inl rfl, Consumed.bump hc⟩
    · -- another digit, and the digits after it
      rename_i b' hne he
      cases he
      by_cases hb : isDigitByte b = true
      · rw [if_pos hb] at h
        obtain ⟨n, c₂, h₂, h⟩ := run_bind_ok h
        obtain ⟨ds, hds, hcons, -⟩ := skipDigits_ok h₂
        obtain ⟨-, rfl⟩ := run_pure_ok h
        exact ⟨b :: ds, .inr ⟨b, ds, rfl, hb, fun e => hne (by rw [e]), hds⟩,
          (Consumed.bump hc).trans hcons⟩
      · rw [if_neg hb] at h
        exact absurd h (Refused.run_ne_ok (fail_refused _))
    · rename_i he
      cases he

/-- **A number's success** took a number's text. -/
theorem skipNumber_ok {u : Unit} (h : skipNumber.run c = .ok u c') :
    ∃ bs, NumberText bs ∧ Consumed c c' bs := by
  rw [skipNumber_eq] at h
  obtain ⟨_, c₁, h₁, h⟩ := run_bind_ok h
  obtain ⟨i, hi, hci⟩ := integerPart_ok h₁
  obtain ⟨f, x, hf, hx, hcx⟩ := numberTail_ok h
  exact ⟨i ++ f ++ x, ⟨i, f, x, rfl, hi, hf, hx⟩, by simpa using hci.trans hcx⟩

/-- An exponent, if any, then something that cannot continue a number. -/
theorem exponent_ends {x : Bytes} (hx : ExponentText x) (hr : Ends rest) :
    ∀ b ∈ (x ++ rest).head?, isDigitByte b = false := by
  rcases hx with rfl | ⟨e, s, ds, rfl, he, -⟩
  · exact hr.noDigit
  · intro b hb
    cases hb
    rcases he with rfl | rfl <;> rfl

/-- What may follow an integer part is skipped, before anything that cannot continue it. -/
theorem numberTail_reads {f x : Bytes} (hf : FractionText f) (hx : ExponentText x)
    (hr : Ends rest) : Reads numberTail d (f ++ x) rest () := by
  unfold numberTail
  rcases hf with rfl | ⟨ds, rfl, hne, hds⟩
  · rcases hx with rfl | ⟨e, s, ds, rfl, he, hs, hdne, hds⟩
    · -- nothing follows: the byte after is no point and no exponent letter
      refine peek_reads.bind ?_ rfl
      simp only [List.nil_append]
      split
      · rename_i hp; exact absurd rfl (hr 46 hp).2.1
      · rename_i hp; exact absurd rfl (hr 101 hp).2.2.1
      · rename_i hp; exact absurd rfl (hr 69 hp).2.2.2
      · exact Reads.pure ()
    · refine (peek_at e).bind ?_ rfl
      rcases he with rfl | rfl
      · exact skipExponent_reads hs hdne hds hr.noDigit
      · exact skipExponent_reads hs hdne hds hr.noDigit
  · -- a fraction, then the exponent if any
    refine (peek_at 46).bind ?_ rfl
    refine (skipFraction_reads hne hds (exponent_ends hx hr)).bind ?_ rfl
    rcases hx with rfl | ⟨e, s, ds', rfl, he, hs, hdne, hds'⟩
    · refine peek_reads.bind ?_ rfl
      simp only [List.nil_append]
      split
      · rename_i hp; exact absurd rfl (hr 101 hp).2.2.1
      · rename_i hp; exact absurd rfl (hr 69 hp).2.2.2
      · exact Reads.pure ()
    · refine (peek_at e).bind ?_ rfl
      rcases he with rfl | rfl
      · exact skipExponent_reads hs hdne hds' hr.noDigit
      · exact skipExponent_reads hs hdne hds' hr.noDigit

/-- An integer part is skipped, before a byte that is no digit. -/
theorem integerPart_reads {i : Bytes} (hi : IntegerText i)
    (hr : ∀ b ∈ rest.head?, isDigitByte b = false) : Reads integerPart d i rest () := by
  unfold integerPart
  rcases hi with rfl | ⟨b, ds, rfl, hb, h48, hds⟩
  · refine (next_reads 48).bind ?_ rfl
    refine peek_reads.bind ?_ rfl
    cases rest with
    | nil => exact Reads.pure ()
    | cons b t =>
      simp only [List.nil_append, List.head?_cons, hr b rfl, Bool.false_eq_true, if_false]
      exact Reads.pure ()
  · refine (next_reads b).bind ?_ rfl
    split
    · rename_i he; cases he; exact absurd rfl h48
    · rename_i _ _ he
      cases he
      simp only [hb, if_true]
      exact ((skipDigits_reads hds hr).bind (Reads.pure ()) rfl).congr (List.append_nil _)
    · rename_i he; cases he

/-- **A number's text is skipped**, before anything that cannot continue it. -/
theorem skipNumber_reads {bs : Bytes} (h : NumberText bs) (hr : Ends rest) :
    Reads skipNumber d bs rest () := by
  obtain ⟨i, f, x, rfl, hi, hf, hx⟩ := h
  -- after the integer part stands a point, an exponent letter, or the end of the number
  have hnext : ∀ b ∈ (f ++ x ++ rest).head?, isDigitByte b = false := by
    rcases hf with rfl | ⟨ds, rfl, -⟩
    · simpa using exponent_ends hx hr
    · intro b hb
      cases hb
      rfl
  rw [skipNumber_eq, List.append_assoc]
  exact (integerPart_reads hi (by simpa using hnext)).bind (numberTail_reads hf hx hr) rfl

end SmartHelmet.Json
