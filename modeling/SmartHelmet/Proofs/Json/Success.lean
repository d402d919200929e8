import SmartHelmet.Proofs.Json.Steps
/-!
# What a success has read

`Reads` and `Fails` say what a reader does on a text known in advance. The converse asks what a
reader has read when it succeeds, from any cursor at all; it is answered by taking the success
apart, step by step:

* `Consumed c c' bs` — from `c` to `c'` the bytes `bs` were consumed, and the depth is as it was;
* `run_bind_ok`, `run_map_ok`, `run_pure_ok`, `Refused.run_ne_ok`, `positioned_run_ok` — a success
  of a sequence is a success of each step, and a refused step never succeeds;
* `Reads.ok_eq`, `Outcome.run_ok`, `run'_ok` — a success where the outcome is known is the one it
  names; a success on a whole text is one from its start;
* `skipBlanks_ok`, `keyword_ok`, `within_ok` — what the primitive steps consumed: blanks up to a
  byte that is no blank, a keyword's bytes, a container's opening byte with its contents and
  closing part read a level down.
-/

namespace SmartHelmet.Json

variable {α β : Type} {c c' c'' : Cursor} {bs bs₁ bs₂ : Bytes}

/-! ## 1. Consumed text -/

/-- A run of JSON's blanks. -/
def Blanks (ws : Bytes) : Prop := ∀ b ∈ ws, isBlankByte b = true

@[simp] theorem blanks_nil : Blanks [] := by simp [Blanks]

@[simp] theorem blanks_cons {b : UInt8} {ws : Bytes} :
    Blanks (b :: ws) ↔ isBlankByte b = true ∧ Blanks ws := by
  simp [Blanks]

@[simp] theorem blanks_append {ws ws' : Bytes} : Blanks (ws ++ ws') ↔ Blanks ws ∧ Blanks ws' := by
  simp [Blanks, or_imp, forall_and]

/-- **`bs` consumed from `c` to `c'`**: what is left at `c'` is what follows `bs`, and the depth
    is as it was. -/
def Consumed (c c' : Cursor) (bs : Bytes) : Prop := c.rest = bs ++ c'.rest ∧ c'.depth = c.depth

theorem Consumed.nil : Consumed c c [] := ⟨rfl, rfl⟩

theorem Consumed.trans (h₁ : Consumed c c' bs₁) (h₂ : Consumed c' c'' bs₂) :
    Consumed c c'' (bs₁ ++ bs₂) :=
  ⟨by rw [h₁.1, h₂.1, List.append_assoc], h₂.2.trans h₁.2⟩

/-- One byte, taken. -/
theorem Consumed.bump {b : UInt8} {t : Bytes} (h : c.rest = b :: t) : Consumed c c.bump [b] :=
  ⟨by simp [h], Cursor.bump_depth c⟩

/-! ## 2. Taking a success apart -/

theorem run_bind_ok {x : Reader α} {f : α → Reader β} {b : β}
    (h : (x >>= f).run c = .ok b c'') : ∃ a c', x.run c = .ok a c' ∧ (f a).run c' = .ok b c'' := by
  rw [EStateM.run_bind] at h
  cases hx : x.run c with
  | ok a c' => rw [hx] at h; exact ⟨a, c', rfl, h⟩
  | error e c' => rw [hx] at h; cases h

theorem run_pure_ok {a b : α} (h : (pure a : Reader α).run c = .ok b c') : b = a ∧ c' = c := by
  cases h
  exact ⟨rfl, rfl⟩

theorem run_map_ok {x : Reader α} {f : α → β} {b : β} (h : (f <$> x).run c = .ok b c') :
    ∃ a, x.run c = .ok a c' ∧ b = f a := by
  change EStateM.map f x c = _ at h
  simp only [EStateM.map] at h
  rw [show x c = x.run c from rfl] at h
  cases hx : x.run c with
  | ok a c₁ => rw [hx] at h; cases h; exact ⟨a, rfl, rfl⟩
  | error e c₁ => rw [hx] at h; cases h

theorem fail_refused (f : Fault) : Refused (fail f : Reader α) := by
  unfold fail
  exact Refused.of_bind fun _ => throw_refused _

/-- **A refused step never succeeds.** -/
theorem Refused.run_ne_ok {x : Reader α} (h : Refused x) {a : α} : x.run c ≠ .ok a c' := by
  obtain ⟨e, c₁, he⟩ := h c
  rw [he]
  exact fun h' => by cases h'

theorem positioned_run_ok {x : Reader α} {a : α} (h : (positioned x).run c = .ok a c') :
    x.run c = .ok a c' := by
  change EStateM.tryCatch x _ c = _ at h
  simp only [EStateM.tryCatch] at h
  rw [show x c = x.run c from rfl] at h
  cases hx : x.run c with
  | ok a₁ c₁ => rw [hx] at h; exact h
  | error e c₁ =>
    -- an error keeps its position or takes the cursor's: an error either way
    rw [hx] at h
    obtain ⟨f, _ | pos⟩ := e <;> cases h

/-- **A reader is deterministic**: from a cursor on a text it reads, its success is the one
    `Reads` names. -/
theorem Reads.ok_eq {x : Reader α} {d : Nat} {rest : Bytes} {a a' : α} (h : Reads x d bs rest a)
    (hc : c.rest = bs ++ rest) (hd : c.depth = d) (h' : x.run c = .ok a' c') :
    a' = a ∧ Consumed c c' bs := by
  obtain ⟨c₁, h₁, hr, hd₁⟩ := h c hc hd
  rw [h₁] at h'
  cases h'
  exact ⟨rfl, by rw [hc, hr], hd₁.trans hd.symm⟩

/-- A success of a reader whose outcome is known is the success the outcome names. -/
theorem Outcome.run_ok {x : Reader α} {d : Nat} {rest : Bytes} {o : Option α} {a : α}
    (h : Outcome x d bs rest o) (hc : c.rest = bs ++ rest) (hd : c.depth = d)
    (h' : x.run c = .ok a c') : o = some a ∧ Consumed c c' bs := by
  cases o with
  | none =>
    obtain ⟨e, c₁, h₁⟩ := h c hc hd
    rw [h₁] at h'
    cases h'
  | some b =>
    obtain ⟨rfl, hcon⟩ := Reads.ok_eq h hc hd h'
    exact ⟨rfl, hcon⟩

/-- A success on a whole text is a success from its start. -/
theorem run'_ok {x : Reader α} {a : α} (h : x.run' bs = .ok a) :
    ∃ c', x.run (Cursor.start bs) = .ok a c' := by
  unfold Reader.run' at h
  split at h
  · next a' c' hrun =>
    cases h
    exact ⟨c', hrun⟩
  · cases h

theorem get_bind_run_ok {f : Cursor → Reader α} {a : α} (h : (get >>= f).run c = .ok a c') :
    (f c).run c = .ok a c' := by
  rwa [EStateM.run_bind, EStateM.run_get] at h

/-! ## 3. Primitive steps -/

theorem peek_ok {o : Option UInt8} (h : peek.run c = .ok o c') : o = c.rest.head? ∧ c = c' := by
  rw [peek_run] at h
  cases h
  exact ⟨rfl, rfl⟩

/-- Looking at a byte known to be next. -/
theorem peek_at {d : Nat} {rest : Bytes} (b : UInt8) : Reads peek d [] (b :: rest) (some b) :=
  peek_reads

theorem bump_ok {u : Unit} (h : bump.run c = .ok u c') : c' = c.bump := by
  rw [bump_run] at h
  cases h
  rfl

theorem next_ok {o : Option UInt8} (h : next.run c = .ok o c') :
    o = c.rest.head? ∧ c' = c.bump := by
  rw [next_run] at h
  cases h
  exact ⟨rfl, rfl⟩

/-- The blank-skipping loop, from any cursor, passes blanks only, and all of them when its fuel
    covers the text. -/
theorem skipBlanks_go_consumed (fuel : Nat) (c : Cursor) :
    ∃ ws, Consumed c (skipBlanks.go fuel c) ws ∧ Blanks ws ∧
      (c.rest.length ≤ fuel → Unblank (skipBlanks.go fuel c).rest) := by
  induction fuel generalizing c with
  | zero =>
    refine ⟨[], Consumed.nil, blanks_nil, fun hlen => ?_⟩
    show Unblank c.rest
    rw [List.length_eq_zero_iff.1 (Nat.le_zero.1 hlen)]
    exact unblank_nil
  | succ fuel ih =>
    cases hc : c.rest with
    | nil =>
      have hgo : skipBlanks.go (fuel + 1) c = c := by simp only [skipBlanks.go, hc]
      rw [hgo, hc]
      exact ⟨[], Consumed.nil, by simp, fun _ => unblank_nil⟩
    | cons b t =>
      by_cases hb : isBlankByte b = true
      · -- a blank is passed, and the loop goes on from the next byte
        have hgo : skipBlanks.go (fuel + 1) c = skipBlanks.go fuel c.bump := by
          simp only [skipBlanks.go, hc, hb, if_true]
        obtain ⟨ws, hcons, hws, hun⟩ := ih c.bump
        rw [hgo]
        refine ⟨b :: ws, (Consumed.bump hc).trans hcons, ?_, fun hlen => hun ?_⟩
        · simpa [hb] using hws
        · simp only [Cursor.bump_rest, hc, List.tail_cons]
          simp only [List.length_cons] at hlen
          omega
      · have hgo : skipBlanks.go (fuel + 1) c = c := by
          simp only [skipBlanks.go, hc, Bool.not_eq_true] at hb ⊢
          simp [hb]
        rw [hgo, hc]
        exact ⟨[], Consumed.nil, by simp, fun _ => unblank_cons (by simpa using hb)⟩

/-- **Skipping blanks** consumes blanks only, stops at a byte that is no blank, and answers it. -/
theorem skipBlanks_ok {o : Option UInt8} (h : skipBlanks.run c = .ok o c') :
    ∃ ws, Consumed c c' ws ∧ Blanks ws ∧ Unblank c'.rest ∧ o = c'.rest.head? := by
  rw [skipBlanks_run] at h
  cases h
  obtain ⟨ws, hcons, hws, hun⟩ := skipBlanks_go_consumed c.rest.length c
  exact ⟨ws, hcons, hws, hun le_rfl, rfl⟩

/-- **A keyword's remaining bytes** are what it consumed. -/
theorem keyword_ok {tail : Bytes} {u : Unit} (h : (keyword tail).run c = .ok u c') :
    Consumed c c' tail := by
  unfold keyword at h
  obtain ⟨_, c₁, h₁, h₂⟩ := run_bind_ok h
  obtain ⟨-, rfl⟩ := run_pure_ok h₂
  clear h h₂
  induction tail generalizing c with
  | nil =>
    rw [List.forIn_nil] at h₁
    obtain ⟨-, rfl⟩ := run_pure_ok h₁
    exact Consumed.nil
  | cons b tail ih =>
    rw [List.forIn_cons] at h₁
    obtain ⟨step, c₂, hstep, hrest⟩ := run_bind_ok h₁
    obtain ⟨o, c₃, hnext, hcheck⟩ := run_bind_ok hstep
    obtain ⟨rfl, rfl⟩ := next_ok hnext
    -- the next byte must be the keyword's; anything else, or the end, is refused
    cases hc : c.rest with
    | nil =>
      rw [hc] at hcheck
      obtain ⟨_, _, hf, _⟩ := run_bind_ok hcheck
      exact absurd hf (Refused.run_ne_ok (fail_refused _))
    | cons x t =>
      rw [hc] at hcheck
      by_cases hx : x = b
      · subst hx
        simp only [List.head?_cons, bne_self_eq_false, Bool.false_eq_true, if_false] at hcheck
        obtain ⟨rfl, rfl⟩ := run_pure_ok hcheck
        exact (Consumed.bump hc).trans (ih hrest)
      · simp only [List.head?_cons, bne_iff_ne, ne_eq, hx, not_false_eq_true, if_true] at hcheck
        obtain ⟨_, _, hf, _⟩ := run_bind_ok hcheck
        exact absurd hf (Refused.run_ne_ok (fail_refused _))

/-- **A container's success**: a level was left, its contents were read a level down after the
    opening byte, and its closing part after them. -/
theorem within_ok {close : Reader Unit} {body : Reader α} {a : α}
    (h : (within close body).run c = .ok a c') :
    1 < c.depth ∧ ∃ c₁, body.run { c with depth := c.depth - 1 }.bump = .ok a c₁ ∧
      close.run { c₁ with depth := c₁.depth + 1 } = .ok () c' := by
  simp only [within, EStateM.run_bind, EStateM.run_get] at h
  split at h
  · -- no level left: refused before anything is read
    exact absurd h (Refused.run_ne_ok (failAhead_refused _))
  · rename_i hd
    simp only [EStateM.run_bind, EStateM.run_set, EStateM.run_modify, bump_run] at h
    refine ⟨by omega, ?_⟩
    cases hb : body.run { c with depth := c.depth - 1 }.bump with
    | error e c₁ =>
      rw [attempt_run_error hb] at h
      simp only at h
      split at h <;> cases h
    | ok a₁ c₁ =>
      rw [attempt_run_ok hb] at h
      simp only at h
      cases hc : close.run { c₁ with depth := c₁.depth + 1 } with
      | error e c₂ =>
        rw [attempt_run_error hc] at h
        cases h
      | ok u c₂ =>
        rw [attempt_run_ok hc] at h
        cases h
        exact ⟨c₁, rfl, hc⟩

end SmartHelmet.Json
