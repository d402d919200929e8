import SmartHelmet.Session.Run
/-!
# A program logic for session steps

A session step runs on a session and ends in one of three ways: with a value, with a run error
(the session keeping what happened before it), or with an abort, which stops the program and
leaves nothing behind. `Step.Spec` says what a step guarantees from one session:

* `Step.Spec m s stop Q` — run from `s`, `m` ends with an outcome `r` and a session `s'` such
  that `Q r s'`, or it aborts, and then `stop` holds. With `stop := False` the step is known not
  to abort; with `stop := True` the statement is about the runs that end;
* `spec_bind`, `spec_pure`, … — the weakest-precondition equations: the guarantee of a compound
  step is the guarantee of its first part, with the rest's guarantee as its goal. `simp` with
  them reduces the guarantee of straight-line code to a formula on the session; a loop is cited
  by its own lemma;
* the equations of the session's primitive steps (`say`, `count`, `draw`, the link calls,
  `advance`, …), each stated on the fields the step touches;
* `Step.Exact` — a guarantee that also says when the step aborts: exactly when `stop` holds;
* `Session.Steady` — two sessions with the same settings, phase, history and baseline: what a
  streaming step keeps.
-/

namespace SmartHelmet.Session

open SmartHelmet.Link

variable {τ α β : Type}

/-- **What a step guarantees from a session**: it ends with an outcome and a session satisfying
    `Q`, or it aborts with an abort that `stop` admits. -/
def Step.Spec (m : Step τ α) (s : Session τ) (stop : Abort → Prop)
    (Q : Except RunError α → Session τ → Prop) : Prop :=
  match m.run' s with
  | .ok (r, s') => Q r s'
  | .error a => stop a

/-- **Exactly**: from `s`, the step aborts just when `stop` holds, and otherwise ends as `Q`
    says. -/
def Step.Exact (m : Step τ α) (s : Session τ) (stop : Prop)
    (Q : Except RunError α → Session τ → Prop) : Prop :=
  m.Spec s (fun _ => stop) fun r s' => ¬stop ∧ Q r s'

/-- Two sessions on the same course: same settings, phase, history and baseline. -/
def Steady (s s' : Session τ) : Prop :=
  s'.settings = s.settings ∧ s'.phase = s.phase ∧ s'.history = s.history ∧ s'.baseline = s.baseline

theorem Steady.refl (s : Session τ) : s.Steady s := ⟨rfl, rfl, rfl, rfl⟩

theorem Steady.trans {s₁ s₂ s₃ : Session τ} (h₁ : s₁.Steady s₂) (h₂ : s₂.Steady s₃) :
    s₁.Steady s₃ :=
  ⟨h₂.1.trans h₁.1, h₂.2.1.trans h₁.2.1, h₂.2.2.1.trans h₁.2.2.1, h₂.2.2.2.trans h₁.2.2.2⟩

/-! ## Weakest preconditions of the monad's operations -/

section Monad

variable {s : Session τ} {stop : Abort → Prop} {Q : Except RunError α → Session τ → Prop}

@[simp] theorem spec_pure (a : α) : (pure a : Step τ α).Spec s stop Q ↔ Q (.ok a) s := Iff.rfl

theorem run'_bind (m : Step τ α) (f : α → Step τ β) (s : Session τ) :
    (m >>= f).run' s = (m.run' s).bind fun p => match p.1 with
      | .ok a => (f a).run' p.2
      | .error e => .ok (.error e, p.2) := by
  simp only [Step.run', ExceptT.run_bind, StateT.run_bind]
  rcases StateT.run (ExceptT.run m) s with _ | ⟨_ | a, s'⟩ <;> rfl

@[simp] theorem spec_bind (m : Step τ α) (f : α → Step τ β)
    {Q : Except RunError β → Session τ → Prop} :
    (m >>= f).Spec s stop Q ↔ m.Spec s stop fun r s₁ => match r with
      | .ok a => (f a).Spec s₁ stop Q
      | .error e => Q (.error e) s₁ := by
  unfold Step.Spec
  rw [run'_bind]
  rcases m.run' s with _ | ⟨_ | a, s₁⟩ <;> rfl

@[simp] theorem spec_get {Q : Except RunError (Session τ) → Session τ → Prop} :
    (get : Step τ (Session τ)).Spec s stop Q ↔ Q (.ok s) s := Iff.rfl

@[simp] theorem spec_set (t : Session τ) {Q : Except RunError PUnit → Session τ → Prop} :
    (set t : Step τ PUnit).Spec s stop Q ↔ Q (.ok ⟨⟩) t := Iff.rfl

@[simp] theorem spec_modify (f : Session τ → Session τ)
    {Q : Except RunError PUnit → Session τ → Prop} :
    (modify f : Step τ PUnit).Spec s stop Q ↔ Q (.ok ⟨⟩) (f s) := Iff.rfl

@[simp] theorem spec_throw (e : RunError) : (throw e : Step τ α).Spec s stop Q ↔ Q (.error e) s :=
  Iff.rfl

@[simp] theorem spec_fail (e : RunError) :
    (Step.fail e : Step τ α).Spec s stop Q ↔ Q (.error e) s :=
  Iff.rfl

@[simp] theorem spec_abort (e : Except Abort α) :
    (Step.abort e : Step τ α).Spec s stop Q ↔ match e with
      | .ok a => Q (.ok a) s
      | .error a => stop a := by
  cases e <;> rfl

@[simp] theorem spec_tryCatch (m : Step τ α) (h : RunError → Step τ α) :
    (tryCatch m h).Spec s stop Q ↔ m.Spec s stop fun r s₁ => match r with
      | .ok a => Q (.ok a) s₁
      | .error e => (h e).Spec s₁ stop Q := by
  unfold Step.Spec Step.run'
  simp only [tryCatch, tryCatchThe, MonadExceptOf.tryCatch, ExceptT.tryCatch, ExceptT.run_mk,
    StateT.run_bind]
  simp only [ExceptT.run]
  rcases StateT.run m s with _ | ⟨_ | a, s₁⟩ <;> rfl

@[simp] theorem spec_ite (c : Prop) [Decidable c] (a b : Step τ α) :
    (if c then a else b).Spec s stop Q ↔ if c then a.Spec s stop Q else b.Spec s stop Q := by
  split <;> rfl

end Monad

/-! ## The session's primitive steps -/

section Primitives

variable {s : Session τ} {stop : Abort → Prop}

@[simp] theorem spec_say (level : Log.Level) (message : String)
    {Q : Except RunError Unit → Session τ → Prop} :
    (say level message : Step τ Unit).Spec s stop Q ↔ Q (.ok ())
      { s with logs :=
        if s.verbose then s.logs.push ⟨level, Log.sessionTarget, message⟩ else s.logs } := by
  simp only [say, spec_modify]
  split <;> rfl

@[simp] theorem spec_keep (lines : List Log.Entry) {Q : Except RunError Unit → Session τ → Prop} :
    (keep lines : Step τ Unit).Spec s stop Q ↔ Q (.ok ())
      { s with logs := if s.verbose then s.logs ++ lines.toArray else s.logs } := by
  simp only [keep, spec_modify]
  split <;> rfl

@[simp] theorem spec_sleep (ms : Clock.Millis) {Q : Except RunError Unit → Session τ → Prop} :
    (sleep ms : Step τ Unit).Spec s stop Q ↔ Q (.ok ()) { s with elapsed := s.elapsed + ms } :=
  Iff.rfl

/-- Raising a counter aborts exactly when the counter would leave 32 bits. -/
@[simp] theorem spec_count (c : Counter) {Q : Except RunError Unit → Session τ → Prop} :
    (count c : Step τ Unit).Spec s stop Q ↔
      if s.stats.get c + 1 < word32 then
        Q (.ok ()) { s with stats := s.stats.set (s.stats.get c + 1) c }
      else stop .addOverflow := by
  simp only [count, spec_bind, spec_get, Stats.bump, succ32]
  split <;> rfl

@[simp] theorem spec_draw (f : Random.Source → α × Random.Source)
    {Q : Except RunError α → Session τ → Prop} :
    (draw f : Step τ α).Spec s stop Q ↔
      Q (.ok (f s.source).1) { s with source := (f s.source).2 } :=
  Iff.rfl

@[simp] theorem spec_drawOrAbort (f : Random.Source → Except Abort (α × Random.Source))
    {Q : Except RunError α → Session τ → Prop} :
    (drawOrAbort f : Step τ α).Spec s stop Q ↔ match f s.source with
      | .ok p => Q (.ok p.1) { s with source := p.2 }
      | .error a => stop a := by
  simp only [drawOrAbort, spec_bind, spec_get, spec_abort]
  rcases f s.source with _ | ⟨a, src⟩ <;> rfl

/-- A link call keeps the link's new state and fails the step with the call's failure. -/
@[simp] theorem spec_onLink (f : τ → Except Failure α × τ)
    {Q : Except RunError α → Session τ → Prop} :
    (onLink f : Step τ α).Spec s stop Q ↔
      Q ((f s.link).1.mapError .link) { s with link := (f s.link).2 } := by
  simp only [onLink, spec_bind, spec_get, spec_set]
  rcases (f s.link).1 with e | a <;> rfl

/-- A phase step taken is recorded in the history; one refused fails and changes nothing. -/
@[simp] theorem spec_advance (next : Phase) {Q : Except RunError Unit → Session τ → Prop} :
    (advance next : Step τ Unit).Spec s stop Q ↔ match Phase.advance? s.phase next with
      | none => Q (.error (.illegalStep s.phase next)) s
      | some p => Q (.ok ()) { s with
          phase := p
          history := s.history ++ [next]
          logs := if s.verbose then
              s.logs.push ⟨.debug, Log.sessionTarget, "Session state -> " ++ next.name⟩
            else s.logs } := by
  simp only [advance, spec_bind, spec_get]
  rcases Phase.advance? s.phase next with _ | p
  · rfl
  · simp only [spec_bind, spec_set, spec_say]

/-- An attempt ends as its step does, and returns the step's failure if it failed. -/
@[simp] theorem spec_attempt (m : Step τ Unit)
    {Q : Except RunError (Option RunError) → Session τ → Prop} :
    (attempt m).Spec s stop Q ↔ m.Spec s stop fun r s₁ => Q (.ok (match r with
      | .ok _ => none
      | .error e => some e)) s₁ := by
  simp only [attempt, spec_tryCatch, spec_bind, spec_pure]
  unfold Step.Spec
  rcases m.run' s with _ | ⟨_ | _, s₁⟩ <;> rfl

instance : LawfulBEq Phase where
  eq_of_beq {a b} := by cases a <;> cases b <;> decide
  rfl {a} := by cases a <;> decide

/-- Every phase but the last may step to terminated. -/
theorem Phase.advance?_terminated {p : Phase} (h : p ≠ .terminated) :
    Phase.advance? p .terminated = some .terminated := by
  cases p <;> simp_all [Phase.advance?, Phase.legal]

end Primitives

/-! ## Reading a guarantee back -/

namespace Step.Spec

variable {m : Step τ α} {s : Session τ} {stop : Abort → Prop}
  {Q Q' : Except RunError α → Session τ → Prop}

theorem mono (h : m.Spec s stop Q) (hq : ∀ r s', Q r s' → Q' r s') : m.Spec s stop Q' := by
  unfold Step.Spec at h ⊢
  split at h <;> simp_all

theorem weaken {stop' : Abort → Prop} (h : m.Spec s stop Q) (hs : ∀ a, stop a → stop' a) :
    m.Spec s stop' Q := by
  unfold Step.Spec at h ⊢
  split at h <;> simp_all

/-- A guarantee read under a weaker stop condition and a weaker goal. -/
theorem imp {stop' : Abort → Prop} (h : m.Spec s stop Q) (hs : ∀ a, stop a → stop' a)
    (hq : ∀ r s', Q r s' → Q' r s') : m.Spec s stop' Q' :=
  (h.weaken hs).mono hq

/-- Two guarantees of one step hold together; an abort is read off the first. -/
theorem and {stop₂ : Abort → Prop} {Q₂ : Except RunError α → Session τ → Prop}
    (h : m.Spec s stop Q) (h₂ : m.Spec s stop₂ Q₂) :
    m.Spec s stop fun r s' => Q r s' ∧ Q₂ r s' := by
  unfold Step.Spec at h h₂ ⊢
  split at h <;> simp_all

/-- A step guaranteed not to abort ends, in a session satisfying its guarantee. -/
theorem ends (h : m.Spec s (fun _ => False) Q) : ∃ r s', m.run' s = .ok (r, s') ∧ Q r s' := by
  unfold Step.Spec at h
  split at h
  · exact ⟨_, _, ‹_›, h⟩
  · exact h.elim

/-- A step whose run ended satisfies its guarantee there. -/
theorem of_run' (h : m.Spec s stop Q) {r : Except RunError α} {s' : Session τ}
    (hr : m.run' s = .ok (r, s')) : Q r s' := by
  unfold Step.Spec at h
  rw [hr] at h
  exact h

/-- A step that aborted had its stop condition. -/
theorem stop_of_abort (h : m.Spec s stop Q) {a : Abort} (hr : m.run' s = .error a) : stop a := by
  unfold Step.Spec at h
  rw [hr] at h
  exact h

end Step.Spec

namespace Step.Exact

variable {m : Step τ α} {s : Session τ} {stop : Prop} {Q : Except RunError α → Session τ → Prop}

/-- An exact guarantee read under a weaker stop condition. -/
theorem weaken {stop' : Prop} (h : m.Exact s stop Q) (hs : stop → stop') :
    m.Spec s (fun _ => stop') fun r s' => ¬stop ∧ Q r s' :=
  Step.Spec.weaken h fun _ => hs

/-- An exact guarantee read under a weaker stop condition and a weaker goal. -/
theorem imp {stop' : Prop} {Q' : Except RunError α → Session τ → Prop} (h : m.Exact s stop Q)
    (hs : stop → stop') (hq : ∀ r s', ¬stop ∧ Q r s' → Q' r s') : m.Spec s (fun _ => stop') Q' :=
  (h.weaken hs).mono hq

/-- An exact guarantee, with a guarantee of the same step about the runs that end. -/
theorem and {Q₂ : Except RunError α → Session τ → Prop} (h : m.Exact s stop Q)
    (h₂ : m.Spec s (fun _ => True) Q₂) : m.Exact s stop fun r s' => Q r s' ∧ Q₂ r s' :=
  (Step.Spec.and h h₂).mono fun _ _ ⟨⟨hs, hq⟩, hq₂⟩ => ⟨hs, hq, hq₂⟩

/-- An exact step aborts just when its stop condition holds. -/
theorem aborts_iff (h : m.Exact s stop Q) : (∃ a, m.run' s = .error a) ↔ stop := by
  unfold Step.Exact Step.Spec at h
  constructor
  · rintro ⟨a, ha⟩
    rw [ha] at h
    exact h
  · intro hs
    split at h
    · exact absurd hs h.1
    · exact ⟨_, ‹_›⟩

/-- An exact step whose stop condition fails ends as its guarantee says. -/
theorem ends (h : m.Exact s stop Q) (hs : ¬stop) : ∃ r s', m.run' s = .ok (r, s') ∧ Q r s' := by
  obtain ⟨r, s', hr, -, hq⟩ := Step.Spec.ends (h.weaken fun h' => hs h')
  exact ⟨r, s', hr, hq⟩

end Step.Exact

end SmartHelmet.Session
