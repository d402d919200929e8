import Mathlib
/-!
# Following a success through `Except`

The readings of this library — of a configuration, of a URL, of a broker's reply — are written in
the `Except` monad, and their proofs follow a success back through each step: a sequence succeeds
when each step does, and a thrown error is no success. The lemmas for that are stated once, here.
-/

namespace SmartHelmet

section Except

variable {ε α β : Type}

/-- A sequence succeeds when each step does, in turn. -/
theorem except_bind_eq_ok {x : Except ε α} {f : α → Except ε β} {b : β} :
    x >>= f = .ok b ↔ ∃ a, x = .ok a ∧ f a = .ok b := by
  cases x <;> simp [bind, Except.bind]

theorem except_map_eq_ok {f : α → β} {x : Except ε α} {b : β} (h : x.map f = .ok b) :
    ∃ a, x = .ok a ∧ b = f a := by
  cases x with
  | error _ => cases h
  | ok a => exact ⟨a, rfl, (Except.ok.inj h).symm⟩

/-- A thrown error is no success. -/
theorem except_throw_eq_ok {e : ε} {a : α} : (throw e : Except ε α) = .ok a ↔ False := by
  simp [throw, throwThe, MonadExceptOf.throw]

theorem except_pure_eq_ok {a b : α} : (pure a : Except ε α) = .ok b ↔ a = b := by
  simp [pure, Except.pure]

theorem except_ok_bind (a : α) (f : α → Except ε β) : (Except.ok a >>= f) = f a := rfl

theorem except_throw_bind (e : ε) (f : α → Except ε β) : (throw e >>= f) = throw e := rfl

theorem except_map_throw (e : ε) (f : α → β) : (f <$> (throw e : Except ε α)) = throw e := rfl

theorem except_map_ite (c : Prop) [Decidable c] (a b : Except ε α) (f : α → β) :
    (f <$> if c then a else b) = if c then f <$> a else f <$> b := by
  split <;> rfl

end Except

end SmartHelmet
