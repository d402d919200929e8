import SmartHelmet.Proofs.Session.Emission
import SmartHelmet.Proofs.Session.Outcomes
/-!
# Commands steer only the alert

A command reaches a session through three things only: the alert it sets, the counter that
counts it, and the log lines about it. Nothing the session publishes, draws, counts or decides
reads any of them. Two runs that differ only in the commands queued on their links therefore go
in lockstep, as long as neither queue overflows the command counter:

* `shadow` — a session without its link, alert, command count and log: what commands cannot
  reach;
* `Twin` — two sessions of runs from the links `t₁` and `t₂` with the same shadow and the same
  publishes since, each link's queue within what its command counter can still count;
* `Step.Lockstep` — two steps run from two sessions abort with the same abort, or both end,
  related; `Alike` relates equal outcomes in twin sessions;
* `Step.Lockstep.seq`, `Step.Lockstep.of_specs`, … — the rules: a sequence goes in lockstep when
  its parts do, and two steps that cannot abort go in lockstep with what each guarantees;
* `drain_shadow` — a drain touches only the link, the alert, the command counter and the log;
* one lockstep lemma for each step of a session, from the primitive steps to `run`.
-/

namespace SmartHelmet.Session

open SmartHelmet.Link
open SmartHelmet.Clock
open SmartHelmet.Random

variable {τ α β : Type}

/-- What a session holds besides its link, its alert, its command count and its log: everything
    a command cannot reach. -/
def shadow (s : Session τ) : Session Unit :=
  { s with link := (), alert := .normal, stats := { s.stats with commandsReceived := 0 },
           logs := #[] }

theorem Stats.set_commandsReceived {c : Counter} (hc : c ≠ .commandsReceived) (st : Stats)
    (n : Nat) : (st.set n c).commandsReceived = st.commandsReceived := by
  cases c <;> first | exact absurd rfl hc | rfl

/-- Counting anything but commands shows in the shadow. -/
theorem shadow_set {c : Counter} (hc : c ≠ .commandsReceived) (s : Session τ) (n : Nat) :
    ({ s with stats := s.stats.set n c } : Session τ).shadow =
      { s.shadow with stats := s.shadow.stats.set n c } := by
  cases c <;> first | exact absurd rfl hc | rfl

/-- **A drain reaches only what commands reach**: the link, the alert, the command counter and
    the log. -/
theorem drain_shadow [Transport τ] (fuel : Nat) (wait : Millis) (s : Session τ) :
    (drain fuel wait : Step τ Unit).Spec s (fun _ => True) fun _ s' => s'.shadow = s.shadow := by
  induction fuel generalizing wait s with
  | zero => rfl
  | succ fuel ih =>
    simp only [drain, receive, spec_bind, spec_onLink]
    rcases (Transport.receive wait s.link).1 with e | _ | raw
    · rfl
    · rfl
    · simp only [Except.mapError, spec_bind, spec_say, spec_count, spec_keep, spec_modify]
      split
      · exact (ih 0 _).mono fun _ _ hs => hs
      · trivial

/-- **Two steps in lockstep**: run from `s₁`, `m₁` aborts just when `m₂` run from `s₂` does, with
    the same abort, and otherwise both end, with outcomes and sessions related by `R`. -/
def Step.Lockstep (m₁ m₂ : Step τ α) (s₁ s₂ : Session τ)
    (R : Except RunError α → Session τ → Except RunError α → Session τ → Prop) : Prop :=
  m₁.Spec s₁ (fun a => m₂.Spec s₂ (· = a) fun _ _ => False)
    fun r₁ s₁' => m₂.Spec s₂ (fun _ => False) (R r₁ s₁')

/-! ## Steps in lockstep -/

/-- A sequence whose first part ended with a value goes on from where it ended. -/
theorem spec_bind_of_ok {m : Step τ α} {f : α → Step τ β} {s s' : Session τ} {a : α}
    (hr : m.run' s = .ok (.ok a, s')) {stop : Abort → Prop}
    {Q : Except RunError β → Session τ → Prop} :
    (m >>= f).Spec s stop Q ↔ (f a).Spec s' stop Q := by
  rw [spec_bind, Step.Spec, hr]

/-- A sequence whose first part failed fails with it. -/
theorem spec_bind_of_error {m : Step τ α} {f : α → Step τ β} {s s' : Session τ} {e : RunError}
    (hr : m.run' s = .ok (.error e, s')) {stop : Abort → Prop}
    {Q : Except RunError β → Session τ → Prop} :
    (m >>= f).Spec s stop Q ↔ Q (.error e) s' := by
  rw [spec_bind, Step.Spec, hr]

namespace Step.Lockstep

variable {m₁ m₂ : Step τ α} {s₁ s₂ : Session τ}
  {R R' : Except RunError α → Session τ → Except RunError α → Session τ → Prop}

theorem mono (h : m₁.Lockstep m₂ s₁ s₂ R)
    (hR : ∀ r₁ s₁' r₂ s₂', R r₁ s₁' r₂ s₂' → R' r₁ s₁' r₂ s₂') : m₁.Lockstep m₂ s₁ s₂ R' :=
  Step.Spec.mono h fun r₁ s₁' h₂ => Step.Spec.mono h₂ (hR r₁ s₁')

/-- Two steps that cannot abort go in lockstep, each ending as it is guaranteed to. -/
theorem of_specs {Q₁ Q₂ : Except RunError α → Session τ → Prop}
    (h₁ : m₁.Spec s₁ (fun _ => False) Q₁) (h₂ : m₂.Spec s₂ (fun _ => False) Q₂) :
    m₁.Lockstep m₂ s₁ s₂ fun r₁ s₁' r₂ s₂' => Q₁ r₁ s₁' ∧ Q₂ r₂ s₂' :=
  Step.Spec.imp h₁ (fun _ h => h.elim) fun _ _ hq₁ => h₂.mono fun _ _ hq₂ => ⟨hq₁, hq₂⟩

/-- Reading the sessions: the rests go on from what each side read. -/
theorem get {f₁ f₂ : Session τ → Step τ α} (h : (f₁ s₁).Lockstep (f₂ s₂) s₁ s₂ R) :
    (get >>= f₁).Lockstep (get >>= f₂) s₁ s₂ R := by
  simpa only [Step.Lockstep, spec_bind, spec_get] using h

/-- Steps in lockstep abort together. -/
theorem aborts_iff (h : m₁.Lockstep m₂ s₁ s₂ R) :
    (∃ a, m₁.run' s₁ = .error a) ↔ ∃ a, m₂.run' s₂ = .error a := by
  constructor
  · rintro ⟨a, ha⟩
    have h₂ := Step.Spec.stop_of_abort h ha
    rcases hr : m₂.run' s₂ with b | ⟨r, s'⟩
    · exact ⟨b, rfl⟩
    · exact (Step.Spec.of_run' h₂ hr).elim
  · rintro ⟨b, hb⟩
    rcases hr : m₁.run' s₁ with a | ⟨r, s'⟩
    · exact ⟨a, rfl⟩
    · exact (Step.Spec.stop_of_abort (Step.Spec.of_run' h hr) hb).elim

/-- Steps in lockstep, with what each is guaranteed on its own. -/
theorem and_specs {Q₁ Q₂ : Except RunError α → Session τ → Prop} (h : m₁.Lockstep m₂ s₁ s₂ R)
    (h₁ : m₁.Spec s₁ (fun _ => True) Q₁) (h₂ : m₂.Spec s₂ (fun _ => True) Q₂) :
    m₁.Lockstep m₂ s₁ s₂ fun r₁ s₁' r₂ s₂' => R r₁ s₁' r₂ s₂' ∧ Q₁ r₁ s₁' ∧ Q₂ r₂ s₂' :=
  (Step.Spec.and h h₁).mono fun _ _ ⟨h', hq₁⟩ =>
    (Step.Spec.and h' h₂).mono fun _ _ ⟨hR, hq₂⟩ => ⟨hR, hq₁, hq₂⟩

/-- **A sequence in lockstep**, the general rule: when the first parts end with the same outcome
    in sessions related by `I`, the rests go on from there, and a failure ends both. -/
theorem seq_with {I : Session τ → Session τ → Prop} {f₁ f₂ : α → Step τ β}
    {Q : Except RunError β → Session τ → Except RunError β → Session τ → Prop}
    (h : m₁.Lockstep m₂ s₁ s₂ fun r₁ s₁' r₂ s₂' => r₁ = r₂ ∧ I s₁' s₂')
    (hf : ∀ a s₁' s₂', I s₁' s₂' → (f₁ a).Lockstep (f₂ a) s₁' s₂' Q)
    (he : ∀ e s₁' s₂', I s₁' s₂' → Q (.error e) s₁' (.error e) s₂') :
    (m₁ >>= f₁).Lockstep (m₂ >>= f₂) s₁ s₂ Q := by
  unfold Step.Lockstep at h ⊢
  rw [spec_bind]
  refine Step.Spec.imp h (fun a h₂ => ?_) fun r₁ s₁' h₂ => ?_
  · rw [spec_bind]
    exact h₂.mono fun _ _ h => h.elim
  · -- the second side ended too, with the same outcome: both go on with it
    obtain ⟨r₂, s₂', hr₂, rfl, hI⟩ := Step.Spec.ends h₂
    cases r₁ with
    | error e =>
      dsimp only
      rw [spec_bind_of_error hr₂]
      exact he e s₁' s₂' hI
    | ok a =>
      simp only [spec_bind_of_ok hr₂]
      exact hf a s₁' s₂' hI

/-- A branch on one condition, taken alike on both sides. -/
theorem ite {c : Prop} [Decidable c] {a₁ a₂ b₁ b₂ : Step τ α}
    (ha : c → a₁.Lockstep a₂ s₁ s₂ R) (hb : ¬c → b₁.Lockstep b₂ s₁ s₂ R) :
    (if c then a₁ else b₁).Lockstep (if c then a₂ else b₂) s₁ s₂ R := by
  by_cases hc : c
  · rw [if_pos hc, if_pos hc]
    exact ha hc
  · rw [if_neg hc, if_neg hc]
    exact hb hc

/-- Attempts of steps that end alike end alike, with the same failure or none. -/
theorem attempt {I : Session τ → Session τ → Prop} {m₁ m₂ : Step τ Unit}
    (h : m₁.Lockstep m₂ s₁ s₂ fun r₁ s₁' r₂ s₂' => r₁ = r₂ ∧ I s₁' s₂') :
    (attempt m₁).Lockstep (attempt m₂) s₁ s₂ fun r₁ s₁' r₂ s₂' => r₁ = r₂ ∧ I s₁' s₂' := by
  simp only [Step.Lockstep, spec_attempt]
  exact Step.Spec.imp h (fun _ h₂ => h₂.mono fun _ _ h => h.elim)
    fun _ _ h₂ => h₂.mono fun _ _ h => ⟨by rw [h.1], h.2⟩

end Step.Lockstep

section Twins

variable [Transport τ] {inbound : τ → List Bytes} {t₁ t₂ : τ}

/-- Two sessions of runs from `t₁` and `t₂` that went alike so far: the same shadow and the same
    publishes since the start. Twins are akin, and stay so when their links are released. -/
def Akin (t₁ t₂ : τ) (s₁ s₂ : Session τ) : Prop :=
  s₁.shadow = s₂.shadow ∧
    ∃ E₁ E₂, Recorded t₁ s₁.link E₁ ∧ Recorded t₂ s₂.link E₂ ∧ publishes E₁ = publishes E₂

/-- **Twin sessions** of two runs that started on the links `t₁` and `t₂`: the same shadow, the
    same publishes since the start, and on each link a queue that the command counter can still
    take in. -/
structure Twin (inbound : τ → List Bytes) (t₁ t₂ : τ) (s₁ s₂ : Session τ) : Prop where
  shadow : s₁.shadow = s₂.shadow
  published : ∃ E₁ E₂, Recorded t₁ s₁.link E₁ ∧ Recorded t₂ s₂.link E₂ ∧
    publishes E₁ = publishes E₂
  room₁ : s₁.stats.commandsReceived + (inbound s₁.link).length < word32
  room₂ : s₂.stats.commandsReceived + (inbound s₂.link).length < word32

/-- Two ends in step: the same outcome, in twin sessions. -/
def Alike (inbound : τ → List Bytes) (t₁ t₂ : τ) (r₁ : Except RunError α) (s₁ : Session τ)
    (r₂ : Except RunError α) (s₂ : Session τ) : Prop :=
  r₁ = r₂ ∧ Twin inbound t₁ t₂ s₁ s₂

namespace Twin

variable {s₁ s₂ : Session τ}

theorem akin (h : Twin inbound t₁ t₂ s₁ s₂) : Akin t₁ t₂ s₁ s₂ := ⟨h.shadow, h.published⟩

theorem settings (h : Twin inbound t₁ t₂ s₁ s₂) : s₁.settings = s₂.settings :=
  (congrArg Session.settings h.shadow :)

theorem source (h : Twin inbound t₁ t₂ s₁ s₂) : s₁.source = s₂.source :=
  (congrArg Session.source h.shadow :)

theorem phase (h : Twin inbound t₁ t₂ s₁ s₂) : s₁.phase = s₂.phase :=
  (congrArg Session.phase h.shadow :)

theorem baseline (h : Twin inbound t₁ t₂ s₁ s₂) : s₁.baseline = s₂.baseline :=
  (congrArg Session.baseline h.shadow :)

/-- Twins count alike, the commands apart. -/
theorem counts (h : Twin inbound t₁ t₂ s₁ s₂) {c : Counter} (hc : c ≠ .commandsReceived) :
    s₁.stats.get c = s₂.stats.get c := by
  have hst : ({ s₁.stats with commandsReceived := 0 } : Stats) =
      { s₂.stats with commandsReceived := 0 } := (congrArg Session.stats h.shadow :)
  have hget := congrArg (fun st : Stats => st.get c) hst
  cases c <;> first | exact absurd rfl hc | exact hget

/-- **Twins stay twins** through changes that keep their shadows alike and leave their links and
    command counters alone. -/
theorem still (h : Twin inbound t₁ t₂ s₁ s₂) {s₁' s₂' : Session τ}
    (hsh : s₁'.shadow = s₂'.shadow) (hl₁ : s₁'.link = s₁.link) (hl₂ : s₂'.link = s₂.link)
    (hc₁ : s₁'.stats.commandsReceived = s₁.stats.commandsReceived)
    (hc₂ : s₂'.stats.commandsReceived = s₂.stats.commandsReceived) :
    Twin inbound t₁ t₂ s₁' s₂' where
  shadow := hsh
  published := by rw [hl₁, hl₂]; exact h.published
  room₁ := by rw [hl₁, hc₁]; exact h.room₁
  room₂ := by rw [hl₂, hc₂]; exact h.room₂

end Twin

namespace Step.Lockstep

variable {m₁ m₂ : Step τ α} {s₁ s₂ : Session τ}

/-- **A sequence in lockstep**: when the first parts end alike, the rests go on from twins, and
    a failure ends both alike. -/
theorem seq {f₁ f₂ : α → Step τ β} (h : m₁.Lockstep m₂ s₁ s₂ (Alike inbound t₁ t₂))
    (hf : ∀ a s₁' s₂', Twin inbound t₁ t₂ s₁' s₂' →
      (f₁ a).Lockstep (f₂ a) s₁' s₂' (Alike inbound t₁ t₂)) :
    (m₁ >>= f₁).Lockstep (m₂ >>= f₂) s₁ s₂ (Alike inbound t₁ t₂) :=
  seq_with h hf fun _ _ _ h => ⟨rfl, h⟩

end Step.Lockstep

/-! ## The primitive steps of twins -/

section Primitives

variable {s₁ s₂ : Session τ}

/-- **A publish on quiet links**: both succeed and record the same publish, and neither queue
    moves. -/
theorem Twin.publish (hq : Quiet inbound) (h : Twin inbound t₁ t₂ s₁ s₂) (c : Channel)
    (d : Delivery) (p : Bytes) :
    Twin inbound t₁ t₂ { s₁ with link := (Transport.publish c d p s₁.link).2 }
      { s₂ with link := (Transport.publish c d p s₂.link).2 } where
  shadow := h.shadow
  published := by
    obtain ⟨E₁, E₂, h₁, h₂, hp⟩ := h.published
    have r₁ := recorded_publish c d p s₁.link
    have r₂ := recorded_publish c d p s₂.link
    rw [hq.publish_ok] at r₁ r₂
    exact ⟨_, _, h₁.trans r₁, h₂.trans r₂, by simp [hp]⟩
  room₁ := by simpa only [hq.publish_inbound] using h.room₁
  room₂ := by simpa only [hq.publish_inbound] using h.room₂

theorem lockstep_pure (h : Twin inbound t₁ t₂ s₁ s₂) (a : α) :
    (pure a : Step τ α).Lockstep (pure a) s₁ s₂ (Alike inbound t₁ t₂) :=
  ⟨rfl, h⟩

theorem lockstep_fail (h : Twin inbound t₁ t₂ s₁ s₂) (e : RunError) :
    (Step.fail e : Step τ α).Lockstep (Step.fail e) s₁ s₂ (Alike inbound t₁ t₂) :=
  ⟨rfl, h⟩

theorem lockstep_abort (h : Twin inbound t₁ t₂ s₁ s₂) (e : Except Abort α) :
    (Step.abort e : Step τ α).Lockstep (Step.abort e) s₁ s₂ (Alike inbound t₁ t₂) := by
  cases e with
  | error a => exact rfl
  | ok a => exact ⟨rfl, h⟩

/-- The log lines of twins may differ: the log is no part of the shadow. -/
theorem lockstep_say (h : Twin inbound t₁ t₂ s₁ s₂) (l₁ l₂ : Log.Level) (m₁ m₂ : String) :
    (say l₁ m₁ : Step τ Unit).Lockstep (say l₂ m₂) s₁ s₂ (Alike inbound t₁ t₂) := by
  simp only [Step.Lockstep, spec_say]
  exact ⟨rfl, h.still h.shadow rfl rfl rfl rfl⟩

theorem lockstep_sleep (h : Twin inbound t₁ t₂ s₁ s₂) (ms : Millis) :
    (sleep ms : Step τ Unit).Lockstep (sleep ms) s₁ s₂ (Alike inbound t₁ t₂) := by
  simp only [Step.Lockstep, spec_sleep]
  exact ⟨rfl, h.still (congrArg (fun sh : Session Unit => { sh with elapsed := sh.elapsed + ms })
    h.shadow) rfl rfl rfl rfl⟩

/-- Twins overflow a counter together, unless it counts commands. -/
theorem lockstep_count (h : Twin inbound t₁ t₂ s₁ s₂) {c : Counter}
    (hc : c ≠ .commandsReceived) :
    (count c : Step τ Unit).Lockstep (count c) s₁ s₂ (Alike inbound t₁ t₂) := by
  simp only [Step.Lockstep, spec_count, h.counts hc]
  by_cases hlt : s₂.stats.get c + 1 < word32
  · simp only [hlt, if_true]
    refine ⟨rfl, h.still ?_ rfl rfl (Stats.set_commandsReceived hc _ _)
      (Stats.set_commandsReceived hc _ _)⟩
    rw [shadow_set hc, shadow_set hc, h.shadow]
  · simp only [hlt, if_false]

theorem lockstep_draw (h : Twin inbound t₁ t₂ s₁ s₂) (f : Source → α × Source) :
    (draw f : Step τ α).Lockstep (draw f) s₁ s₂ (Alike inbound t₁ t₂) := by
  simp only [Step.Lockstep, spec_draw, h.source]
  exact ⟨rfl, h.still (congrArg (fun sh : Session Unit => { sh with source := (f s₂.source).2 })
    h.shadow) rfl rfl rfl rfl⟩

theorem lockstep_drawOrAbort (h : Twin inbound t₁ t₂ s₁ s₂)
    (f : Source → Except Abort (α × Source)) :
    (drawOrAbort f : Step τ α).Lockstep (drawOrAbort f) s₁ s₂ (Alike inbound t₁ t₂) := by
  simp only [Step.Lockstep, spec_drawOrAbort, h.source]
  rcases f s₂.source with a | ⟨x, src⟩
  · exact rfl
  · exact ⟨rfl, h.still (congrArg (fun sh : Session Unit => { sh with source := src }) h.shadow)
      rfl rfl rfl rfl⟩

theorem lockstep_publish (hq : Quiet inbound) (h : Twin inbound t₁ t₂ s₁ s₂) (c : Channel)
    (d : Delivery) (p : Bytes) :
    (publish c d p : Step τ Unit).Lockstep (publish c d p) s₁ s₂ (Alike inbound t₁ t₂) := by
  simp only [Step.Lockstep, publish, spec_onLink, hq.publish_ok, Except.mapError]
  exact ⟨rfl, h.publish hq c d p⟩

theorem lockstep_advance (h : Twin inbound t₁ t₂ s₁ s₂) (next : Phase) :
    (advance next : Step τ Unit).Lockstep (advance next) s₁ s₂ (Alike inbound t₁ t₂) := by
  simp only [Step.Lockstep, spec_advance, h.phase]
  cases Phase.advance? s₂.phase next with
  | none => exact ⟨rfl, h⟩
  | some p =>
    exact ⟨rfl, h.still (congrArg (fun sh : Session Unit =>
      { sh with phase := p, history := sh.history ++ [next] }) h.shadow) rfl rfl rfl rfl⟩

theorem lockstep_setBaseline (h : Twin inbound t₁ t₂ s₁ s₂) (b : Baseline) :
    (modify fun s => { s with baseline := b } : Step τ PUnit).Lockstep
      (modify fun s => { s with baseline := b }) s₁ s₂ (Alike inbound t₁ t₂) :=
  ⟨rfl, h.still (congrArg (fun sh : Session Unit => { sh with baseline := b }) h.shadow)
    rfl rfl rfl rfl⟩

end Primitives

/-! ## The steps of a session in lockstep -/

section Steps

variable {s₁ s₂ : Session τ}

/-- **Twins poll alike**: each takes in its whole queue, which its counter can count, and both
    end with the shadows they had and no publish. -/
theorem pollCommands_lockstep (hq : Quiet inbound) (h : Twin inbound t₁ t₂ s₁ s₂) :
    (pollCommands : Step τ Unit).Lockstep pollCommands s₁ s₂ (Alike inbound t₁ t₂) := by
  have side : ∀ s : Session τ, s.stats.commandsReceived + (inbound s.link).length < word32 →
      (pollCommands : Step τ Unit).Spec s (fun _ => False) fun r s' => r = .ok () ∧
        Emitted inbound s s' [] (inbound s.link) s.source 0 0 ∧ s'.shadow = s.shadow := by
    intro s hs
    have hshadow : (pollCommands : Step τ Unit).Spec s (fun _ => True)
        fun _ s' => s'.shadow = s.shadow := by
      simp only [pollCommands, spec_bind, spec_get]
      exact drain_shadow _ _ s
    refine Step.Spec.mono (Step.Spec.and ((pollCommands_exact hq s).weaken fun hs' => by omega)
      (Step.Spec.and (pollCommands_emitted hq s) hshadow)) ?_
    rintro r s' ⟨-, ⟨rfl, he⟩, hsh⟩
    exact ⟨rfl, he, hsh⟩
  refine (Step.Lockstep.of_specs (side s₁ h.room₁) (side s₂ h.room₂)).mono ?_
  rintro r₁ s₁' r₂ s₂' ⟨⟨rfl, he₁, hsh₁⟩, ⟨rfl, he₂, hsh₂⟩⟩
  obtain ⟨E₁, E₂, hr₁, hr₂, hp⟩ := h.published
  obtain ⟨E₁', hr₁', hp₁, -⟩ := he₁.recorded
  obtain ⟨E₂', hr₂', hp₂, -⟩ := he₂.recorded
  refine ⟨rfl, hsh₁.trans (h.shadow.trans hsh₂.symm),
    ⟨_, _, hr₁.trans hr₁', hr₂.trans hr₂', by simp [hp, hp₁, hp₂]⟩, ?_, ?_⟩
  · rw [he₁.drained, he₁.commands]
    simpa using h.room₁
  · rw [he₂.drained, he₂.commands]
    simpa using h.room₂

theorem publishFrame_lockstep (hq : Quiet inbound) (heartRate : Float) (loc : GeoPoint)
    (h : Twin inbound t₁ t₂ s₁ s₂) :
    (publishFrame heartRate loc : Step τ Unit).Lockstep (publishFrame heartRate loc) s₁ s₂
      (Alike inbound t₁ t₂) := by
  refine Step.Lockstep.get ?_
  rw [h.settings]
  refine (lockstep_abort h _).seq fun n s₁ s₂ h => ?_
  refine (lockstep_draw h _).seq fun ppg s₁ s₂ h => ?_
  refine (lockstep_publish hq h _ _ _).seq fun _ s₁ s₂ h => ?_
  exact lockstep_count h (by decide)

theorem publishAccel_lockstep (hq : Quiet inbound) (crash : Bool) (loc : GeoPoint)
    (h : Twin inbound t₁ t₂ s₁ s₂) :
    (publishAccel crash loc : Step τ Signal.Accel).Lockstep (publishAccel crash loc) s₁ s₂
      (Alike inbound t₁ t₂) := by
  refine Step.Lockstep.get ?_
  rw [h.settings]
  refine (lockstep_draw h _).seq fun a s₁ s₂ h => ?_
  refine (lockstep_publish hq h _ _ _).seq fun _ s₁ s₂ h => ?_
  refine (lockstep_count h (by decide)).seq fun _ s₁ s₂ h => ?_
  refine (lockstep_say h _ _ _ _).seq fun _ s₁ s₂ h => ?_
  exact lockstep_pure h a

theorem publishBaseline_lockstep (hq : Quiet inbound) (h : Twin inbound t₁ t₂ s₁ s₂) :
    (publishBaseline : Step τ Unit).Lockstep publishBaseline s₁ s₂ (Alike inbound t₁ t₂) := by
  refine Step.Lockstep.get ?_
  rw [h.baseline]
  refine (lockstep_publish hq h _ _ _).seq fun _ s₁ s₂ h => ?_
  refine (lockstep_count h (by decide)).seq fun _ s₁ s₂ h => ?_
  exact lockstep_say h _ _ _ _

theorem calmTicks_lockstep (hq : Quiet inbound) (loc : GeoPoint) (n : Nat)
    (h : Twin inbound t₁ t₂ s₁ s₂) :
    (calmTicks loc n : Step τ Unit).Lockstep (calmTicks loc n) s₁ s₂ (Alike inbound t₁ t₂) := by
  induction n generalizing s₁ s₂ with
  | zero => exact lockstep_pure h ()
  | succ n ih =>
    simp only [calmTicks]
    refine (publishAccel_lockstep hq false loc h).seq fun _ s₁ s₂ h => ?_
    refine Step.Lockstep.get ?_
    rw [h.settings]
    refine (lockstep_sleep h _).seq fun _ s₁ s₂ h => ?_
    exact ih h

theorem onboardCycles_lockstep (hq : Quiet inbound) (left cycle : Nat)
    (h : Twin inbound t₁ t₂ s₁ s₂) :
    (onboardCycles left cycle : Step τ Unit).Lockstep (onboardCycles left cycle) s₁ s₂
      (Alike inbound t₁ t₂) := by
  induction left generalizing cycle s₁ s₂ with
  | zero => exact lockstep_pure h ()
  | succ left ih =>
    simp only [onboardCycles]
    refine Step.Lockstep.get ?_
    rw [h.settings]
    refine (lockstep_draw h _).seq fun rate s₁ s₂ h => ?_
    refine (lockstep_draw h _).seq fun loc s₁ s₂ h => ?_
    refine (publishFrame_lockstep hq _ _ h).seq fun _ s₁ s₂ h => ?_
    refine (calmTicks_lockstep hq _ _ h).seq fun _ s₁ s₂ h => ?_
    refine (lockstep_count h (by decide)).seq fun _ s₁ s₂ h => ?_
    refine (lockstep_abort h _).seq fun n s₁ s₂ h => ?_
    refine (lockstep_say h _ _ _ _).seq fun _ s₁ s₂ h => ?_
    exact ih _ h

theorem onboard_lockstep (hq : Quiet inbound) (h : Twin inbound t₁ t₂ s₁ s₂) :
    (onboard : Step τ Unit).Lockstep onboard s₁ s₂ (Alike inbound t₁ t₂) := by
  unfold onboard
  refine (lockstep_say h _ _ _ _).seq fun _ s₁ s₂ h => ?_
  refine Step.Lockstep.get ?_
  rw [h.settings]
  refine (onboardCycles_lockstep hq _ _ h).seq fun _ s₁ s₂ h => ?_
  refine (lockstep_say h _ _ _ _).seq fun _ s₁ s₂ h => ?_
  exact lockstep_sleep h _

theorem operatingTicks_lockstep (hq : Quiet inbound) (plan : Plan) (left tick : Nat)
    (h : Twin inbound t₁ t₂ s₁ s₂) :
    (operatingTicks plan left tick : Step τ Unit).Lockstep (operatingTicks plan left tick) s₁ s₂
      (Alike inbound t₁ t₂) := by
  induction left generalizing tick s₁ s₂ with
  | zero => exact lockstep_pure h ()
  | succ left ih =>
    simp only [operatingTicks]
    refine (publishAccel_lockstep hq _ _ h).seq fun a s₁ s₂ h => ?_
    -- the crash warning only adds a log line, so both sides go on alike after it
    refine Step.Lockstep.ite (fun _ => (lockstep_say h _ _ _ _).seq fun _ s₁ s₂ h => ?_)
      fun _ => ?_
    all_goals
      refine (pollCommands_lockstep hq h).seq fun _ s₁ s₂ h => ?_
      refine Step.Lockstep.get ?_
      rw [h.settings]
      refine (lockstep_sleep h _).seq fun _ s₁ s₂ h => ?_
      exact ih _ h

theorem operatingCycle_lockstep (hq : Quiet inbound) (cycle : Nat) (plan : Plan)
    (h : Twin inbound t₁ t₂ s₁ s₂) :
    (operatingCycle cycle plan : Step τ Unit).Lockstep (operatingCycle cycle plan) s₁ s₂
      (Alike inbound t₁ t₂) := by
  unfold operatingCycle
  refine Step.Lockstep.get ?_
  rw [h.settings]
  refine (publishFrame_lockstep hq _ _ h).seq fun _ s₁ s₂ h => ?_
  refine (lockstep_say h _ _ _ _).seq fun _ s₁ s₂ h => ?_
  refine (operatingTicks_lockstep hq _ _ _ h).seq fun _ s₁ s₂ h => ?_
  refine (lockstep_count h (by decide)).seq fun _ s₁ s₂ h => ?_
  dsimp only
  -- the drowsy and crash counts are taken alike, each as the plan says
  refine Step.Lockstep.ite
    (fun _ => (lockstep_count h (by decide)).seq fun _ s₁ s₂ h => ?_) fun _ => ?_
  all_goals
    refine Step.Lockstep.ite
      (fun _ => (lockstep_count h (by decide)).seq fun _ s₁ s₂ h => ?_) fun _ => ?_
  -- the closing line reads the alert, which may differ, but only into the log
  all_goals
    refine Step.Lockstep.get ?_
    split <;> split <;> exact lockstep_say h _ _ _ _

theorem operateCycles_lockstep (hq : Quiet inbound) (left cycle : Nat)
    (h : Twin inbound t₁ t₂ s₁ s₂) :
    (operateCycles left cycle : Step τ Unit).Lockstep (operateCycles left cycle) s₁ s₂
      (Alike inbound t₁ t₂) := by
  induction left generalizing cycle s₁ s₂ with
  | zero => exact lockstep_pure h ()
  | succ left ih =>
    simp only [operateCycles]
    refine Step.Lockstep.get ?_
    rw [h.settings]
    refine (lockstep_drawOrAbort h _).seq fun plan s₁ s₂ h => ?_
    refine (operatingCycle_lockstep hq _ _ h).seq fun _ s₁ s₂ h => ?_
    exact ih _ h

theorem operate_lockstep (hq : Quiet inbound) (h : Twin inbound t₁ t₂ s₁ s₂) :
    (operate : Step τ Unit).Lockstep operate s₁ s₂ (Alike inbound t₁ t₂) := by
  unfold operate
  refine (lockstep_say h _ _ _ _).seq fun _ s₁ s₂ h => ?_
  refine Step.Lockstep.get ?_
  rw [h.settings]
  refine (operateCycles_lockstep hq _ _ h).seq fun _ s₁ s₂ h => ?_
  exact lockstep_say h _ _ _ _

theorem bootstrap_lockstep (hq : Quiet inbound) (status : DeviceStatus)
    (h : Twin inbound t₁ t₂ s₁ s₂) :
    (bootstrap status : Step τ Unit).Lockstep (bootstrap status) s₁ s₂ (Alike inbound t₁ t₂) := by
  unfold bootstrap
  refine Step.Lockstep.get ?_
  rw [h.settings]
  refine Step.Lockstep.ite (fun _ => ?_) fun _ => ?_
  · refine (lockstep_abort h _).seq fun _ s₁ s₂ h => ?_
    refine (lockstep_say h _ _ _ _).seq fun _ s₁ s₂ h => ?_
    exact lockstep_advance h _
  · refine (lockstep_say h _ _ _ _).seq fun _ s₁ s₂ h => ?_
    cases status.baseline with
    | none => exact (lockstep_say h _ _ _ _).seq fun _ s₁ s₂ h => lockstep_advance h _
    | some b =>
      refine (lockstep_setBaseline h b).seq fun _ s₁ s₂ h => ?_
      refine (lockstep_say h _ _ _ _).seq fun _ s₁ s₂ h => ?_
      exact (publishBaseline_lockstep hq h).seq fun _ s₁ s₂ h => lockstep_advance h _

theorem drive_lockstep (hq : Quiet inbound) (status : DeviceStatus)
    (h : Twin inbound t₁ t₂ s₁ s₂) :
    (drive status : Step τ Unit).Lockstep (drive status) s₁ s₂ (Alike inbound t₁ t₂) := by
  unfold drive
  refine (bootstrap_lockstep hq status h).seq fun _ s₁ s₂ h => ?_
  refine Step.Lockstep.get ?_
  rw [h.phase]
  dsimp only
  refine Step.Lockstep.ite (fun _ => ?_) fun _ => operate_lockstep hq h
  refine (onboard_lockstep hq h).seq fun _ s₁ s₂ h => ?_
  exact (lockstep_advance h _).seq fun _ s₁ s₂ h => operate_lockstep hq h

/-- **Twins release alike**: both release their links or neither does, and they stay akin; what
    their links still hold is not known after a release. -/
theorem terminate_lockstep (hq : Quiet inbound) (h : Twin inbound t₁ t₂ s₁ s₂) :
    (terminate : Step τ Unit).Lockstep terminate s₁ s₂
      fun r₁ s₁' r₂ s₂' => r₁ = r₂ ∧ Akin t₁ t₂ s₁' s₂' := by
  unfold terminate
  refine Step.Lockstep.get ?_
  rw [h.phase]
  refine Step.Lockstep.ite (fun _ => ⟨rfl, h.akin⟩) fun _ => ?_
  refine (lockstep_advance h _).seq_with (fun _ s₁ s₂ h => ?_) fun _ _ _ h => ⟨rfl, h.akin⟩
  obtain ⟨E₁, E₂, h₁, h₂, hp⟩ := h.published
  have r₁ := recorded_disconnect s₁.link
  have r₂ := recorded_disconnect s₂.link
  rw [hq.disconnect_ok] at r₁ r₂
  simp only [Step.Lockstep, disconnect, spec_bind, spec_onLink, hq.disconnect_ok, Except.mapError,
    spec_say]
  exact ⟨trivial, h.shadow, _, _, h₁.trans r₁, h₂.trans r₂, by simp [hp]⟩

/-- **Twins run alike**: they abort alike or end akin. -/
theorem run_lockstep (hq : Quiet inbound) (status : DeviceStatus) (h : Twin inbound t₁ t₂ s₁ s₂) :
    (run status : Step τ Stats).Lockstep (run status) s₁ s₂
      fun _ s₁' _ s₂' => Akin t₁ t₂ s₁' s₂' := by
  unfold run
  refine Step.Lockstep.get ?_
  refine (lockstep_say h _ _ _ _).seq_with (fun _ s₁ s₂ h => ?_) fun _ _ _ h => h.akin
  refine (Step.Lockstep.attempt (drive_lockstep hq status h)).seq_with
    (fun outcome s₁ s₂ h => ?_) fun _ _ _ h => h.akin
  refine (Step.Lockstep.attempt (terminate_lockstep hq h)).seq_with
    (fun released s₁ s₂ h => ?_) fun _ _ _ h => h
  -- what is left fails with the failure found, or reads the counters into the log
  cases outcome <;> cases released <;>
    simp only [Step.Lockstep, spec_bind, spec_fail, spec_pure, spec_get, spec_say] <;> exact h

end Steps

end Twins

/-! ## Commands steer only the alert -/

section Alert

variable [Transport τ] {inbound : τ → List Bytes}

/-- **The alert follows the commands** of a run from the link `t₀`: it is what the last command
    received since asks for, or normal when none was. -/
def Tracks (t₀ : τ) (s : Session τ) : Prop :=
  ∃ E, Recorded t₀ s.link E ∧ s.alert = applied .normal (received E)

/-- Whatever a step emits on a quiet link, the alert goes on following the commands. -/
theorem Tracks.emitted {t₀ : τ} {s s' : Session τ} {P : List Exchange} {R : List Bytes}
    {src : Source} {d c : Nat} (h : Tracks t₀ s) (he : Emitted inbound s s' P R src d c) :
    Tracks t₀ s' := by
  obtain ⟨E, hr, ha⟩ := h
  obtain ⟨E', hr', -, hR⟩ := he.recorded
  exact ⟨E ++ E', hr.trans hr', by rw [he.alert, ha, received_append, hR, applied_append]⟩

/-- **One operating tick takes in every queued command**, in order: the queue empties, the last
    command decides the alert, and the alert goes on following the commands. -/
theorem operatingTick_applies_queue (hq : Quiet inbound) (plan : Plan) (tick : Nat)
    (s : Session τ) :
    (operatingTicks plan 1 tick : Step τ Unit).Spec s (fun _ => True) fun _ s' =>
      inbound s'.link = [] ∧ s'.alert = applied s.alert (inbound s.link) ∧
        ∀ t₀, Tracks t₀ s → Tracks t₀ s' := by
  refine (operatingTicks_emitted hq plan 1 tick s).mono ?_
  rintro r s' ⟨-, he⟩
  simp only [Nat.one_ne_zero, if_false] at he
  exact ⟨he.drained, he.alert, fun t₀ ht => ht.emitted he⟩

/-- **Commands steer only the alert.** Two runs with the same settings, device status, source and
    verbosity, on quiet links whose queues the command counter can take in, go in lockstep: both
    abort, alike, or both return their counters, having made the same publishes, left the source
    alike and counted alike but for commands. Each ends with the alert that the last of its
    queued commands asks for, once an operating tick has run; and every operating tick takes in
    every queued command, in order, so that the alert follows the last command received. -/
theorem runs_agree_but_for_commands (hq : Quiet inbound) (cfg : Settings)
    (status : DeviceStatus) (src : Source) (verbose : Bool) (t₁ t₂ : τ)
    (h₁ : (inbound t₁).length < word32) (h₂ : (inbound t₂).length < word32) :
    (run status : Step τ Stats).Lockstep (run status) (start cfg t₁ src verbose)
        (start cfg t₂ src verbose) (fun r₁ s₁ r₂ s₂ =>
          r₁ = .ok s₁.stats ∧ r₂ = .ok s₂.stats ∧
          (∃ E₁ E₂, Recorded t₁ s₁.link E₁ ∧ Recorded t₂ s₂.link E₂ ∧
            publishes E₁ = publishes E₂) ∧
          s₁.source = s₂.source ∧
          { s₁.stats with commandsReceived := 0 } = { s₂.stats with commandsReceived := 0 } ∧
          s₁.alert = applied .normal
            (if cfg.operatingCycles = 0 ∨ cfg.ticksPerFrame = 0 then [] else inbound t₁) ∧
          s₂.alert = applied .normal
            (if cfg.operatingCycles = 0 ∨ cfg.ticksPerFrame = 0 then [] else inbound t₂)) ∧
      ∀ (plan : Plan) (tick : Nat) (s : Session τ),
        (operatingTicks plan 1 tick : Step τ Unit).Spec s (fun _ => True) fun _ s' =>
          inbound s'.link = [] ∧ s'.alert = applied s.alert (inbound s.link) ∧
            ∀ t₀, Tracks t₀ s → Tracks t₀ s' := by
  -- the two fresh sessions differ only in their links, which have published nothing yet
  have htwin : Twin inbound t₁ t₂ (start cfg t₁ src verbose) (start cfg t₂ src verbose) :=
    { shadow := rfl
      published := ⟨[], [], Recorded.refl _, Recorded.refl _, rfl⟩
      room₁ := by simpa [start] using h₁
      room₂ := by simpa [start] using h₂ }
  refine ⟨?_, operatingTick_applies_queue hq⟩
  obtain ⟨hp₁, hh₁, hw₁⟩ := start_fresh cfg t₁ src verbose
  obtain ⟨hp₂, hh₂, hw₂⟩ := start_fresh cfg t₂ src verbose
  refine ((run_lockstep hq status htwin).and_specs (run_emitted hq status _ hp₁ hh₁ hw₁)
    (run_emitted hq status _ hp₂ hh₂ hw₂)).mono ?_
  rintro r₁ s₁ r₂ s₂ ⟨⟨hsh, hpub⟩, ⟨hr₁, plans₁, P₁, src₁, u₁, -, he₁, -, -, ha₁, -⟩,
    ⟨hr₂, plans₂, P₂, src₂, u₂, -, he₂, -, -, ha₂, -⟩⟩
  refine ⟨hr₁, hr₂, hpub, (congrArg Session.source hsh :), (congrArg Session.stats hsh :), ?_, ?_⟩
  · rw [ha₁, he₁.alert]
    rfl
  · rw [ha₂, he₂.alert]
    rfl

/-- An onboarded device with the default settings and a seeded source, run once with one command
    queued and once with none. -/
theorem runs_agree_but_for_commands_inbox :
    (Inbox.inbound { inbound := [[1]] }).length < word32 ∧
      (Inbox.inbound { inbound := [] }).length < word32 ∧
      ((run ⟨true, none⟩ : Step Inbox Stats).Lockstep (run ⟨true, none⟩)
          (start {} { inbound := [[1]] } (Source.ofSeed 0) false)
          (start {} { inbound := [] } (Source.ofSeed 0) false) (fun r₁ s₁ r₂ s₂ =>
            r₁ = .ok s₁.stats ∧ r₂ = .ok s₂.stats ∧
            (∃ E₁ E₂, Recorded ({ inbound := [[1]] } : Inbox) s₁.link E₁ ∧
              Recorded ({ inbound := [] } : Inbox) s₂.link E₂ ∧ publishes E₁ = publishes E₂) ∧
            s₁.source = s₂.source ∧
            { s₁.stats with commandsReceived := 0 } = { s₂.stats with commandsReceived := 0 } ∧
            s₁.alert = applied .normal
              (if Settings.operatingCycles {} = 0 ∨ Settings.ticksPerFrame {} = 0 then []
                else Inbox.inbound { inbound := [[1]] }) ∧
            s₂.alert = applied .normal
              (if Settings.operatingCycles {} = 0 ∨ Settings.ticksPerFrame {} = 0 then []
                else Inbox.inbound { inbound := [] })) ∧
        ∀ (plan : Plan) (tick : Nat) (s : Session Inbox),
          (operatingTicks plan 1 tick : Step Inbox Unit).Spec s (fun _ => True) fun _ s' =>
            Inbox.inbound s'.link = [] ∧ s'.alert = applied s.alert (Inbox.inbound s.link) ∧
              ∀ t₀, Tracks t₀ s → Tracks t₀ s') :=
  have h₁ : (Inbox.inbound { inbound := [[1]] }).length < word32 := by decide
  have h₂ : (Inbox.inbound { inbound := [] }).length < word32 := by decide
  ⟨h₁, h₂,
    -- at reducible transparency, so that elaborating the guarantee of these concrete sessions
    -- does not set about evaluating their runs
    by with_reducible
      exact runs_agree_but_for_commands Inbox.quiet {} ⟨true, none⟩ (Source.ofSeed 0) false
        { inbound := [[1]] } { inbound := [] } h₁ h₂⟩

/-- **Past the command counter, runs part**: with drawable settings, a run whose queue overflows
    the counter aborts where one whose queue does not returns, so the two are not in lockstep. -/
theorem run_not_lockstep_of_overflows (hq : Quiet inbound) {cfg : Settings}
    (hdraw : cfg.Drawable) (status : DeviceStatus) (src : Source) (verbose : Bool) (t₁ t₂ : τ)
    (h₁ : Overflows cfg status (inbound t₁).length) (h₂ : ¬Overflows cfg status (inbound t₂).length)
    (R : Except RunError Stats → Session τ → Except RunError Stats → Session τ → Prop) :
    ¬(run status : Step τ Stats).Lockstep (run status) (start cfg t₁ src verbose)
      (start cfg t₂ src verbose) R := by
  intro h
  have e₁ := run_exact hq status (start cfg t₁ src verbose) rfl rfl hdraw
  have e₂ := run_exact hq status (start cfg t₂ src verbose) rfl rfl hdraw
  obtain ⟨r, s', hr, -⟩ := e₂.ends h₂
  obtain ⟨a, ha⟩ := h.aborts_iff.1 (e₁.aborts_iff.2 h₁)
  rw [hr] at ha
  cases ha

/-- A queue of `2 ^ 32` commands makes the run of an onboarded device with the default settings
    abort, where an empty one lets it return. -/
theorem full_queue_breaks_lockstep :
    ¬(run ⟨true, none⟩ : Step Inbox Stats).Lockstep (run ⟨true, none⟩)
      (start {} { inbound := List.replicate word32 [] } (Source.ofSeed 0) false)
      (start {} { inbound := [] } (Source.ofSeed 0) false) fun _ _ _ _ => True := by
  have h₁ : Overflows {} ⟨true, none⟩ (List.replicate word32 ([] : Bytes)).length := by
    rw [List.length_replicate]
    exact .inr (.inr (.inr ⟨by decide, Nat.le_refl _⟩))
  have h₂ : ¬Overflows {} ⟨true, none⟩ ([] : List Bytes).length := by decide
  exact run_not_lockstep_of_overflows Inbox.quiet Settings.runnable_default.drawable ⟨true, none⟩
    (Source.ofSeed 0) false { inbound := List.replicate word32 [] } { inbound := [] } h₁ h₂ _

end Alert

end SmartHelmet.Session
