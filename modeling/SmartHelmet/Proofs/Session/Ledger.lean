import SmartHelmet.Proofs.Session.Logic
import SmartHelmet.Proofs.Link.Exchange
import SmartHelmet.Proofs.Session.Plan
/-!
# What a run on any link leaves behind

On a link that may fail any call, a session streams until its first failed call and stops there.
This file names what such a run leaves behind, so that each step of a session can be stated
once over every link behaviour:

* `Stopped` — exchanges that end as a step does: all passed when it succeeds; when it fails, all
  passed but the last, which failed with the step's failure;
* `Accounts` — counters that account for exchanges: a frame, a sample or a baseline for each such
  publish that passed and a command for each receive that brought one;
* `Went` — a streaming step: every record of the link grew by such exchanges, and the settings,
  phase, history and baseline stayed; `Moved` — a step that may also move the phase on, short of
  terminated, as a bootstrap moves it to `startPhase`;
* `Stats.Grew` — counters where no cycle was counted; `Stats.Whole`, `Stats.Balanced` — the
  counters at the end of a cycle and anywhere in a run: a frame and a frame's worth of samples
  for each completed cycle, and of a cycle under way its frame and part of its samples;
* `Settings.Runnable`, `Settings.Risks` — settings whose plans are drawn and whose frame length
  and onboarding time fit 32 bits, and the aborts a run can still meet: a counter leaving 32 bits;
  `spec_count_risks`, `spec_frameLen_risks` — a count or a frame length either is computed or
  aborts as the risks allow;
* `spec_publish`, `spec_receive`, `spec_disconnect` — a link call on any link is recorded with
  whatever the link answered.
-/

namespace SmartHelmet.Session

open SmartHelmet.Link

variable {τ α β : Type}

/-! ## Exchanges that end as a step does -/

/-- **The exchanges `E` end as the outcome `r` does**: when `r` is a value all of them passed;
    when it is a failure, all passed but the last, which failed with the failure `r` reports. -/
def Stopped (E : List Exchange) : Except RunError α → Prop
  | .ok _ => ∀ x ∈ E, x.Passed
  | .error e => ∃ E' x f, E = E' ++ [x] ∧ (∀ y ∈ E', y.Passed) ∧ x.FailedWith f ∧ e = .link f

namespace Stopped

variable {E E₁ E₂ : List Exchange}

@[simp] theorem nil (a : α) : Stopped [] (.ok a : Except RunError α) := by
  simp [Stopped]

/-- Whether exchanges end as a step does depends only on how the step ended. -/
theorem retype {e : RunError} (h : Stopped E (.error e : Except RunError α)) :
    Stopped E (.error e : Except RunError β) := h

theorem retype_ok {a : α} {b : β} (h : Stopped E (.ok a : Except RunError α)) :
    Stopped E (.ok b : Except RunError β) := h

/-- **Exchanges that all passed go before those of the next step.** -/
theorem append {a : α} {r : Except RunError β} (h₁ : Stopped E₁ (.ok a : Except RunError α))
    (h₂ : Stopped E₂ r) : Stopped (E₁ ++ E₂) r := by
  cases r with
  | ok b =>
    intro x hx
    rcases List.mem_append.mp hx with hx | hx
    · exact h₁ x hx
    · exact h₂ x hx
  | error e =>
    obtain ⟨E', x, f, rfl, hE', hx, rfl⟩ := h₂
    refine ⟨E₁ ++ E', x, f, (List.append_assoc _ _ _).symm, ?_, hx, rfl⟩
    intro y hy
    rcases List.mem_append.mp hy with hy | hy
    · exact h₁ y hy
    · exact hE' y hy

/-- A publish ends as its answer does. -/
theorem publish (c : Channel) (d : Delivery) (p : Bytes) (res : Except Failure Unit) :
    Stopped [.publish c d p res] (res.mapError .link) := by
  cases res with
  | ok => simp [Stopped, Except.mapError, Exchange.Passed, Except.isOk, Except.toBool]
  | error f => exact ⟨[], _, f, rfl, by simp, rfl, rfl⟩

/-- A receive ends as its answer does. -/
theorem receive (w : Clock.Millis) (res : Except Failure (Option Bytes)) :
    Stopped [.receive w res] (res.mapError .link) := by
  cases res with
  | ok => simp [Stopped, Except.mapError, Exchange.Passed, Except.isOk, Except.toBool]
  | error f => exact ⟨[], _, f, rfl, by simp, rfl, rfl⟩

/-- A step stopped by its exchanges fails only with a link failure. -/
theorem link_failure {e : RunError} (h : Stopped E (.error e : Except RunError α)) :
    ∃ f, e = .link f := by
  obtain ⟨-, -, f, -, -, -, he⟩ := h
  exact ⟨f, he⟩

/-- **Exchanges that end as a step does hold no release**: a release neither passes nor fails
    as a publish or receive does. -/
theorem no_disconnect {r : Except RunError α} (h : Stopped E r) (d : Except Failure Unit) :
    Exchange.disconnect d ∉ E := by
  intro hd
  cases r with
  | ok a => exact h _ hd
  | error e =>
    obtain ⟨E', x, f, rfl, hE', hx, -⟩ := h
    rcases List.mem_append.mp hd with hd | hd
    · exact hE' _ hd
    · rw [List.mem_singleton] at hd
      subst hd
      exact hx

end Stopped

/-! ## Counters that account for exchanges -/

/-- **The counters `st'` are `st` with the exchanges `E` accounted**: the frame, sample and
    baseline counters rose by the publishes on their channels that passed, and the command
    counter by the receives that brought a message. -/
structure Accounts (st st' : Stats) (E : List Exchange) : Prop where
  frames : st'.ppgFrames = st.ppgFrames + E.countP (Exchange.publishedOn .telemetry)
  samples : st'.accelSamples = st.accelSamples + E.countP (Exchange.publishedOn .accel)
  baselines :
    st'.baselinePublishes = st.baselinePublishes + E.countP (Exchange.publishedOn .baseline)
  commands : st'.commandsReceived = st.commandsReceived + E.countP Exchange.arrived

namespace Accounts

variable {st st₁ st₂ st₃ : Stats} {E E₁ E₂ : List Exchange}

theorem refl (st : Stats) : Accounts st st [] := ⟨rfl, rfl, rfl, rfl⟩

theorem trans (h₁ : Accounts st₁ st₂ E₁) (h₂ : Accounts st₂ st₃ E₂) :
    Accounts st₁ st₃ (E₁ ++ E₂) where
  frames := by rw [h₂.frames, h₁.frames, List.countP_append, Nat.add_assoc]
  samples := by rw [h₂.samples, h₁.samples, List.countP_append, Nat.add_assoc]
  baselines := by rw [h₂.baselines, h₁.baselines, List.countP_append, Nat.add_assoc]
  commands := by rw [h₂.commands, h₁.commands, List.countP_append, Nat.add_assoc]

/-- Exchanges that count nothing leave the counters as they are. -/
theorem of_uncounted (h : ∀ x ∈ E, (∀ c, x.publishedOn c = false) ∧ x.arrived = false) :
    Accounts st st E where
  frames := by rw [List.countP_eq_zero.mpr fun x hx => by simp [(h x hx).1]]; rfl
  samples := by rw [List.countP_eq_zero.mpr fun x hx => by simp [(h x hx).1]]; rfl
  baselines := by rw [List.countP_eq_zero.mpr fun x hx => by simp [(h x hx).1]]; rfl
  commands := by rw [List.countP_eq_zero.mpr fun x hx => by simp [(h x hx).2]]; rfl

/-- A failed publish counts nothing. -/
theorem publish_error (c : Channel) (d : Delivery) (p : Bytes) (f : Failure) :
    Accounts st st [.publish c d p (.error f)] :=
  of_uncounted (by simp [Exchange.publishedOn, Exchange.arrived])

/-- A failed receive, or one that brought nothing, counts nothing. -/
theorem receive_quiet (w : Clock.Millis) {res : Except Failure (Option Bytes)}
    (h : Exchange.brought res = false) : Accounts st st [.receive w res] :=
  of_uncounted (by simp [Exchange.publishedOn, Exchange.arrived, h])

/-- A release counts nothing. -/
theorem disconnect (d : Except Failure Unit) : Accounts st st [.disconnect d] :=
  of_uncounted (by simp [Exchange.publishedOn, Exchange.arrived])

/-- A frame that went through counts one frame. -/
theorem frame (d : Delivery) (p : Bytes) :
    Accounts st { st with ppgFrames := st.ppgFrames + 1 } [.publish .telemetry d p (.ok ())] := by
  constructor <;> rfl

/-- A sample that went through counts one sample. -/
theorem sample (d : Delivery) (p : Bytes) :
    Accounts st { st with accelSamples := st.accelSamples + 1 } [.publish .accel d p (.ok ())] := by
  constructor <;> rfl

/-- A baseline that went through counts one baseline. -/
theorem baseline (d : Delivery) (p : Bytes) :
    Accounts st { st with baselinePublishes := st.baselinePublishes + 1 }
      [.publish .baseline d p (.ok ())] := by
  constructor <;> rfl

/-- A receive that brought a message counts one command. -/
theorem command (w : Clock.Millis) (m : Bytes) :
    Accounts st { st with commandsReceived := st.commandsReceived + 1 }
      [.receive w (.ok (some m))] := by
  constructor <;> rfl

end Accounts

/-- The phase a bootstrap steps to: onboarding for a device that is not onboarded. -/
def startPhase (status : DeviceStatus) : Phase :=
  if status.onboarded then .operating else .onboarding

/-! ## Streaming steps -/

section Streaming

variable [Transport τ]

/-- **A streaming step on any link**: from `s` to `s'` every record of the link grew by the
    exchanges `E`, which end as the outcome `r` does; the counters account for them; and the
    settings, phase, history and baseline stayed. -/
structure Went (s s' : Session τ) (r : Except RunError α) (E : List Exchange) : Prop where
  recorded : Recorded s.link s'.link E
  stopped : Stopped E r
  accounts : Accounts s.stats s'.stats E
  steady : s.Steady s'

namespace Went

variable {s s₁ s₂ s₃ : Session τ} {E E₁ E₂ : List Exchange} {r : Except RunError α}

theorem refl (s : Session τ) (a : α) : Went s s (.ok a) [] :=
  ⟨Recorded.refl _, Stopped.nil a, Accounts.refl _, Steady.refl s⟩

/-- **Streaming steps compose** when the first one succeeds. -/
theorem trans {a : β} (h₁ : Went s₁ s₂ (.ok a) E₁) (h₂ : Went s₂ s₃ r E₂) :
    Went s₁ s₃ r (E₁ ++ E₂) :=
  ⟨h₁.recorded.trans h₂.recorded, h₁.stopped.append h₂.stopped, h₁.accounts.trans h₂.accounts,
    h₁.steady.trans h₂.steady⟩

theorem retype {e : RunError} (h : Went s₁ s₂ (.error e : Except RunError α) E) :
    Went s₁ s₂ (.error e : Except RunError β) E :=
  ⟨h.recorded, h.stopped.retype, h.accounts, h.steady⟩

/-- **A step may start where a quiet one left off**: a streaming step from a session that the
    step before left on the same link with no call counted (a log line, a sleep, a draw, a cycle
    counted) went from that step's start as well. -/
theorem from_quiet (h : Went s₂ s₃ r E) (hl : s₂.link = s₁.link)
    (ha : Accounts s₁.stats s₂.stats []) (hst : s₁.Steady s₂) : Went s₁ s₃ r E :=
  ⟨hl ▸ h.recorded, h.stopped, ha.trans h.accounts, hst.trans h.steady⟩

/-- A streaming step followed by a quiet one went to where the quiet one left off. -/
theorem to_quiet (h : Went s₁ s₂ r E) (hl : s₃.link = s₂.link) (ha : Accounts s₂.stats s₃.stats [])
    (hst : s₂.Steady s₃) : Went s₁ s₃ r E :=
  ⟨hl ▸ h.recorded, h.stopped, List.append_nil E ▸ h.accounts.trans ha, h.steady.trans hst⟩

end Went

/-- **A step that moves the session on, short of its end**: every record of the link grew by the
    exchanges `E`, which end as the outcome `r` does; the counters account for them; the settings
    stayed; and the session is not terminated, nor has it ever been. -/
structure Moved (s s' : Session τ) (r : Except RunError α) (E : List Exchange) : Prop where
  recorded : Recorded s.link s'.link E
  stopped : Stopped E r
  accounts : Accounts s.stats s'.stats E
  settings : s'.settings = s.settings
  phase : s'.phase ≠ .terminated
  history : .terminated ∉ s'.history

namespace Moved

variable {s₁ s₂ s₃ : Session τ} {E E₁ E₂ : List Exchange} {r : Except RunError α}

/-- **A move followed by a streaming step** is a move. -/
theorem went {a : β} (h₁ : Moved s₁ s₂ (.ok a) E₁) (h₂ : Went s₂ s₃ r E₂) :
    Moved s₁ s₃ r (E₁ ++ E₂) :=
  ⟨h₁.recorded.trans h₂.recorded, h₁.stopped.append h₂.stopped, h₁.accounts.trans h₂.accounts,
    h₂.steady.1.trans h₁.settings, h₂.steady.2.1 ▸ h₁.phase, h₂.steady.2.2.1 ▸ h₁.history⟩

/-- **A phase step short of terminated** keeps a move: it is taken on the session alone. -/
theorem advance (h : Moved s₁ s₂ r E) {p : Phase} (hp : p ≠ .terminated) (logs : Array Log.Entry) :
    Moved s₁ { s₂ with phase := p, history := s₂.history ++ [p], logs := logs } r E :=
  ⟨h.recorded, h.stopped, h.accounts, h.settings, hp, by simp [h.history, Ne.symm hp]⟩

end Moved

end Streaming

/-! ## Counters over cycles -/

/-- **No cycle was counted** from `st` to `st'`, and `f` frames and `a` samples were. -/
structure Stats.Grew (st st' : Stats) (f a : Nat) : Prop where
  frames : st'.ppgFrames = st.ppgFrames + f
  samples : st'.accelSamples = st.accelSamples + a
  onboarding : st'.onboardingCycles = st.onboardingCycles
  operating : st'.operatingCycles = st.operatingCycles
  drowsy : st'.drowsyCycles = st.drowsyCycles
  crash : st'.crashCycles = st.crashCycles

theorem Stats.Grew.refl (st : Stats) : st.Grew st 0 0 := ⟨rfl, rfl, rfl, rfl, rfl, rfl⟩

theorem Stats.Grew.trans {st₁ st₂ st₃ : Stats} {f₁ a₁ f₂ a₂ : Nat} (h₁ : st₁.Grew st₂ f₁ a₁)
    (h₂ : st₂.Grew st₃ f₂ a₂) : st₁.Grew st₃ (f₁ + f₂) (a₁ + a₂) :=
  ⟨by rw [h₂.frames, h₁.frames, Nat.add_assoc], by rw [h₂.samples, h₁.samples, Nat.add_assoc],
    h₂.onboarding.trans h₁.onboarding, h₂.operating.trans h₁.operating, h₂.drowsy.trans h₁.drowsy,
    h₂.crash.trans h₁.crash⟩

/-- **The counters at the end of a cycle** of `k` ticks: a frame and `k` samples for each
    completed cycle, onboarding or operating, and no more drowsy or crashing cycles than
    operating ones. -/
structure Stats.Whole (k : Nat) (st : Stats) : Prop where
  frames : st.ppgFrames = st.onboardingCycles + st.operatingCycles
  samples : st.accelSamples = k * (st.onboardingCycles + st.operatingCycles)
  drowsy : st.drowsyCycles ≤ st.operatingCycles
  crash : st.crashCycles ≤ st.operatingCycles

/-- **The counters anywhere in a run** of cycles of `k` ticks: every completed cycle's frame and
    samples, and of a cycle under way at most its frame and, once that is counted, at most its
    samples; no more drowsy or crashing cycles than operating ones. -/
structure Stats.Balanced (k : Nat) (st : Stats) : Prop where
  frames_ge : st.onboardingCycles + st.operatingCycles ≤ st.ppgFrames
  frames_le : st.ppgFrames ≤ st.onboardingCycles + st.operatingCycles + 1
  samples_ge : k * (st.onboardingCycles + st.operatingCycles) ≤ st.accelSamples
  samples_le : st.accelSamples ≤ k * st.ppgFrames
  drowsy : st.drowsyCycles ≤ st.operatingCycles
  crash : st.crashCycles ≤ st.operatingCycles

@[simp] theorem Stats.whole_zero (k : Nat) : Stats.Whole k {} :=
  ⟨rfl, rfl, Nat.le_refl _, Nat.le_refl _⟩

/-- **A cycle under way**: from the end of a cycle, at most one frame and at most its samples
    keep the counters balanced. -/
theorem Stats.Whole.balanced {k f a : Nat} {st st' : Stats} (h : st.Whole k) (hg : st.Grew st' f a)
    (hf : f ≤ 1) (ha : a ≤ k * f) : st'.Balanced k := by
  have hk : k * f ≤ k := by simpa using Nat.mul_le_mul_left k hf
  obtain ⟨hfr, hsa, hon, hop, hdr, hcr⟩ := hg
  obtain ⟨wf, ws, wd, wc⟩ := h
  -- no cycle was counted, so the facts of the cycle's end speak of the counters of `st'`
  rw [← hon, ← hop] at wf ws
  rw [← hdr, ← hop] at wd
  rw [← hcr, ← hop] at wc
  have hp : k * st'.ppgFrames = k * (st'.onboardingCycles + st'.operatingCycles) + k * f := by
    rw [hfr, wf, Nat.mul_add]
  exact ⟨by omega, by omega, by omega, by omega, wd, wc⟩

/-- Counting only baselines and commands keeps the end of a cycle. -/
theorem Stats.Whole.of_grew {k : Nat} {st st' : Stats} (h : st.Whole k) (hg : st.Grew st' 0 0) :
    st'.Whole k where
  frames := by rw [hg.frames, hg.onboarding, hg.operating]; exact h.frames
  samples := by rw [hg.samples, hg.onboarding, hg.operating]; exact h.samples
  drowsy := by rw [hg.drowsy, hg.operating]; exact h.drowsy
  crash := by rw [hg.crash, hg.operating]; exact h.crash

theorem Stats.Whole.balanced_self {k : Nat} {st : Stats} (h : st.Whole k) : st.Balanced k :=
  h.balanced (Stats.Grew.refl st) (Nat.zero_le 1) (Nat.zero_le _)

/-- **An onboarding cycle completes**: from the end of a cycle, its frame, its `k` samples and the
    cycle counted give the end of a cycle again. -/
theorem Stats.Whole.onboarded {k : Nat} {st st' : Stats} (h : st.Whole k) (hg : st.Grew st' 1 k) :
    Stats.Whole k { st' with onboardingCycles := st'.onboardingCycles + 1 } := by
  obtain ⟨hfr, hsa, hon, hop, hdr, hcr⟩ := hg
  obtain ⟨wf, ws, wd, wc⟩ := h
  have hk : k * (st'.onboardingCycles + 1 + st'.operatingCycles) =
      k * (st.onboardingCycles + st.operatingCycles) + k := by
    rw [hon, hop, Nat.add_right_comm, Nat.mul_succ]
  exact ⟨by dsimp only; omega, by dsimp only; omega, by dsimp only; omega, by dsimp only; omega⟩

/-- **An operating cycle completes**: from the end of a cycle, its frame, its `k` samples and the
    cycle counted, as drowsy and as crashing at most once each, give the end of a cycle again. -/
theorem Stats.Whole.operated {k : Nat} {st st' st'' : Stats} (h : st.Whole k) (hg : st.Grew st' 1 k)
    (hfr : st''.ppgFrames = st'.ppgFrames) (hsa : st''.accelSamples = st'.accelSamples)
    (hon : st''.onboardingCycles = st'.onboardingCycles)
    (hop : st''.operatingCycles = st'.operatingCycles + 1)
    (hd : st''.drowsyCycles ≤ st'.drowsyCycles + 1) (hc : st''.crashCycles ≤ st'.crashCycles + 1) :
    st''.Whole k := by
  obtain ⟨gfr, gsa, gon, gop, gdr, gcr⟩ := hg
  obtain ⟨wf, ws, wd, wc⟩ := h
  have hk : k * (st''.onboardingCycles + st''.operatingCycles) =
      k * (st.onboardingCycles + st.operatingCycles) + k := by
    rw [hon, hop, gon, gop, ← Nat.add_assoc, Nat.mul_succ]
  exact ⟨by omega, by omega, by omega, by omega⟩

/-! ## Settings a run can rely on -/

/-- **Settings a run can rely on**: its plans are always drawn, and a frame's samples and the
    onboarding time fit 32 bits. -/
structure Settings.Runnable (cfg : Settings) : Prop where
  drawable : cfg.Drawable
  frame_fits : cfg.sampleRate * cfg.windowSecs < word32
  onboarding_fits : cfg.onboardingCycles * cfg.windowSecs < word32

/-- **The aborts a run of `cfg` may meet**: a counter leaving 32 bits, and any abort at all when
    the settings are not runnable. -/
def Settings.Risks (cfg : Settings) (a : Abort) : Prop := a = .addOverflow ∨ ¬cfg.Runnable

theorem Settings.risks_overflow (cfg : Settings) : cfg.Risks .addOverflow := .inl rfl

/-- Under settings whose frame length aborts, every abort is a risk taken. -/
theorem Settings.risks_of_frame {cfg : Settings} (h : ¬cfg.sampleRate * cfg.windowSecs < word32)
    (a : Abort) : cfg.Risks a :=
  .inr fun hr => h hr.frame_fits

/-- Under settings whose plan draw aborts, every abort is a risk taken. -/
theorem Settings.risks_of_plan {cfg : Settings} {src : Random.Source} {a : Abort}
    (h : cfg.plan src = .error a) (b : Abort) : cfg.Risks b := by
  refine .inr fun hr => ?_
  obtain ⟨p, s', hp⟩ := Settings.plan_ok hr.drawable src
  rw [hp] at h
  cases h

/-- The risks of a step's settings are those of the settings it kept. -/
theorem Went.risks [Transport τ] {s₁ s₂ : Session τ} {r : Except RunError α} {E : List Exchange}
    (h : Went s₁ s₂ r E) (a : Abort) (ha : s₂.settings.Risks a) : s₁.settings.Risks a := by
  rwa [h.steady.1] at ha

theorem Moved.risks [Transport τ] {s₁ s₂ : Session τ} {r : Except RunError α} {E : List Exchange}
    (h : Moved s₁ s₂ r E) (a : Abort) (ha : s₂.settings.Risks a) : s₁.settings.Risks a := by
  rwa [h.settings] at ha

/-! ## Counting under risks -/

section Risks

variable {cfg : Settings} {s : Session τ}

/-- Under the risks of any settings a count goes up, or overflows, which is a risk. -/
theorem spec_count_risks (c : Counter) {Q : Except RunError Unit → Session τ → Prop}
    (h : s.stats.get c + 1 < word32 →
      Q (.ok ()) { s with stats := s.stats.set (s.stats.get c + 1) c }) :
    (count c : Step τ Unit).Spec s cfg.Risks Q := by
  rw [spec_count]
  by_cases hc : s.stats.get c + 1 < word32
  · rw [if_pos hc]
    exact h hc
  · rw [if_neg hc]
    exact cfg.risks_overflow

/-- Under the risks of its settings the frame length is computed, or overflows, which is a risk. -/
theorem spec_frameLen_risks {Q : Except RunError Nat → Session τ → Prop}
    (h : cfg.sampleRate * cfg.windowSecs < word32 → Q (.ok (cfg.sampleRate * cfg.windowSecs)) s) :
    (Step.abort cfg.frameLen : Step τ Nat).Spec s cfg.Risks Q := by
  rw [spec_abort, Settings.frameLen, mul32]
  by_cases hw : cfg.sampleRate * cfg.windowSecs < word32
  · rw [if_pos hw]
    exact h hw
  · rw [if_neg hw]
    exact cfg.risks_of_frame hw _

end Risks

/-! ## Link calls on any link -/

section Calls

variable [Transport τ] {s : Session τ} {stop : Abort → Prop}

/-- **A publish on any link** is recorded with the link's answer, and fails the step with the
    link's failure. -/
theorem spec_publish {c : Channel} {d : Delivery} {p : Bytes}
    {Q : Except RunError Unit → Session τ → Prop}
    (h : ∀ res t', Recorded s.link t' [.publish c d p res] →
      Q (res.mapError .link) { s with link := t' }) :
    (publish c d p : Step τ Unit).Spec s stop Q := by
  simp only [publish, spec_onLink]
  exact h _ _ (recorded_publish c d p s.link)

/-- **A receive on any link** is recorded with the link's answer. -/
theorem spec_receive {w : Clock.Millis} {Q : Except RunError (Option Bytes) → Session τ → Prop}
    (h : ∀ res t', Recorded s.link t' [.receive w res] →
      Q (res.mapError .link) { s with link := t' }) :
    (receive w : Step τ (Option Bytes)).Spec s stop Q := by
  simp only [receive, spec_onLink]
  exact h _ _ (recorded_receive w s.link)

/-- **A release of any link** is recorded with the link's answer. -/
theorem spec_disconnect {Q : Except RunError Unit → Session τ → Prop}
    (h : ∀ res t', Recorded s.link t' [.disconnect res] →
      Q (res.mapError .link) { s with link := t' }) :
    (disconnect : Step τ Unit).Spec s stop Q := by
  simp only [disconnect, spec_onLink]
  exact h _ _ (recorded_disconnect s.link)

end Calls

end SmartHelmet.Session
