import SmartHelmet.Proofs.Session.Quiet
/-!
# The run of a fresh session on a quiet link

On a link that never fails, the run of a fresh session is fixed by its settings, the device's
status and the number of commands queued on the link: only payloads depend on the random source.

* `Settings.frames` — the PPG frames a run streams: one per onboarding cycle unless the device
  is onboarded, and one per operating cycle;
* `Overflows` — when such a run aborts: the onboarding time of a device that is not onboarded,
  the frame length of a run that streams a frame, the accelerometer counter, or the command
  counter of a run that has an operating cycle to receive commands in, leaves 32 bits;
* `streamCalls` — the calls a run makes after publishing the stored baseline: the onboarding
  frames, which receive nothing, then the operating cycles, whose first tick takes every queued
  command;
* `drive_exact`, `run_exact` — exact guarantees of driving a fresh session and of the whole run:
  it aborts just when `Overflows` holds, and otherwise returns its counters after the stored
  baseline, the streaming calls and one release.
-/

namespace SmartHelmet.Session

open SmartHelmet.Link
open SmartHelmet.Clock

/-- The PPG frames a run streams: one per onboarding cycle unless the device is onboarded, and
    one per operating cycle. -/
def Settings.frames (cfg : Settings) (status : DeviceStatus) : Nat :=
  (if status.onboarded then 0 else cfg.onboardingCycles) + cfg.operatingCycles

/-- **When a fresh run aborts**, with `queued` commands waiting on a quiet link: the onboarding
    time of a device that is not onboarded leaves 32 bits, or the frame length of a run that
    streams a frame, or the accelerometer counter (with a tick a frame, the largest counter but
    one), or the command counter of a run with an operating cycle to receive commands in. -/
def Overflows (cfg : Settings) (status : DeviceStatus) (queued : Nat) : Prop :=
  (status.onboarded = false ∧ word32 ≤ cfg.onboardingCycles * cfg.windowSecs) ∨
    (0 < cfg.frames status ∧ word32 ≤ cfg.sampleRate * cfg.windowSecs) ∨
    word32 ≤ cfg.ticksPerFrame * cfg.frames status ∨
    (0 < cfg.operatingCycles ∧ word32 ≤ queued)

instance (cfg : Settings) (status : DeviceStatus) (queued : Nat) :
    Decidable (Overflows cfg status queued) :=
  inferInstanceAs (Decidable (_ ∨ _ ∨ _ ∨ _))

/-- The calls of a run between its stored baseline and its release, with `queued` commands
    waiting: the onboarding frames unless the device is onboarded, then the operating cycles. -/
def streamCalls (cfg : Settings) (status : DeviceStatus) (queued : Nat) : List Call :=
  (if status.onboarded then [] else onboardingCalls cfg.ticksPerFrame cfg.onboardingCycles) ++
    operatingCalls cfg.commandPoll cfg.ticksPerFrame cfg.operatingCycles queued

/-- The counters of a fresh run after streaming, with `queued` commands waiting and `d` drowsy and
    `c` crashing cycles: every frame, sample and cycle, the stored baseline if it was published,
    and the queued commands if an operating cycle took them. -/
def streamStats (cfg : Settings) (status : DeviceStatus) (queued d c : Nat) : Stats where
  ppgFrames := cfg.frames status
  accelSamples := cfg.ticksPerFrame * cfg.frames status
  baselinePublishes := (baselineExchanges status).length
  onboardingCycles := if status.onboarded then 0 else cfg.onboardingCycles
  operatingCycles := cfg.operatingCycles
  drowsyCycles := d
  crashCycles := c
  commandsReceived := if cfg.operatingCycles = 0 then 0 else queued

/-- The phases a drive steps through after bootstrapping. -/
def drivePhases (status : DeviceStatus) : List Phase :=
  if status.onboarded then [.operating] else [.onboarding, .operating]

/-- **Phase by phase**, with a tick a frame: a fresh run overflows when its bootstrap does (the
    onboarding time), its onboarding does (the frame length, or the accelerometer counter over
    the onboarding frames), or its operating phase does (the frame length, the accelerometer
    counter over all frames, or the command counter). -/
theorem overflows_iff_phases {cfg : Settings} {status : DeviceStatus} {queued : Nat}
    (hk : 0 < cfg.ticksPerFrame) :
    Overflows cfg status queued ↔
      (status.onboarded = false ∧ word32 ≤ cfg.onboardingCycles * cfg.windowSecs) ∨
      (status.onboarded = false ∧ 0 < cfg.onboardingCycles ∧
        (word32 ≤ cfg.sampleRate * cfg.windowSecs ∨
          word32 ≤ cfg.ticksPerFrame * cfg.onboardingCycles)) ∨
      (0 < cfg.operatingCycles ∧ (word32 ≤ cfg.sampleRate * cfg.windowSecs ∨
        word32 ≤ cfg.ticksPerFrame * cfg.frames status ∨ word32 ≤ queued)) := by
  -- a product with a positive factor is at least the other factor, and zero with a zero one
  have hw : 0 < word32 := Nat.two_pow_pos 32
  have hN := Nat.le_mul_of_pos_left cfg.onboardingCycles hk
  have hM := Nat.le_mul_of_pos_left cfg.operatingCycles hk
  have hN0 : cfg.ticksPerFrame * cfg.onboardingCycles = 0 ∨ 0 < cfg.onboardingCycles := by
    rcases Nat.eq_zero_or_pos cfg.onboardingCycles with h | h <;> simp [h]
  have hM0 : cfg.ticksPerFrame * cfg.operatingCycles = 0 ∨ 0 < cfg.operatingCycles := by
    rcases Nat.eq_zero_or_pos cfg.operatingCycles with h | h <;> simp [h]
  unfold Overflows Settings.frames
  cases hon : status.onboarded
  · simp only [Bool.false_eq_true, if_false, Nat.mul_add, true_and]
    omega
  · simp only [if_true, Nat.zero_add, Bool.true_eq_false, false_and, false_or]
    omega

variable {τ : Type} [Transport τ] {inbound : τ → List Bytes}

/-- **Driving a fresh session** with drawable settings on a quiet link: it aborts just when the
    run overflows, and otherwise publishes the stored baseline, streams, and ends operating with
    every frame, sample and cycle counted. -/
theorem drive_exact (hq : Quiet inbound) (status : DeviceStatus) (s : Session τ)
    (hphase : s.phase = .bootstrapping) (hfresh : s.stats = {}) (hdraw : s.settings.Drawable) :
    (drive status : Step τ Unit).Exact s (Overflows s.settings status (inbound s.link).length)
      fun r s' => r = .ok () ∧ s'.settings = s.settings ∧ s'.phase = .operating ∧
        s'.history = s.history ++ drivePhases status ∧
        (∃ t₁, Recorded s.link t₁ (baselineExchanges status) ∧
          Called t₁ s'.link (streamCalls s.settings status (inbound s.link).length)) ∧
        ∃ d c, d ≤ s.settings.operatingCycles ∧ c ≤ s.settings.operatingCycles ∧
          s'.stats = streamStats s.settings status (inbound s.link).length d c := by
  have hk := hdraw.ticks_pos
  have hN := Nat.le_mul_of_pos_left s.settings.onboardingCycles hk
  have hM := Nat.le_mul_of_pos_left s.settings.operatingCycles hk
  rw [overflows_iff_phases hk]
  simp only [Step.Exact, drive, spec_bind]
  refine (bootstrap_exact hq status s hphase).imp ?_ ?_
  · rintro (⟨hon, hw⟩ | ⟨-, hw⟩)
    · exact .inl ⟨hon, hw⟩
    · simp [hfresh, word32] at hw
  rintro r s₁ ⟨hs₁, rfl, hset₁, hph₁, hhist₁, -, hrec₁, hin₁, -, hstats₁⟩
  simp only [spec_get]
  cases hon : status.onboarded
  · -- not onboarded: the onboarding phase, then operating
    have hb : (s₁.phase == .onboarding) = true := by simp [hph₁, startPhase, hon]
    simp only [hb, if_true, spec_bind]
    refine (onboard_exact hq s₁).imp ?_ ?_
    · intro h
      simp only [hset₁, hstats₁, hfresh] at h
      exact .inr (.inl ⟨trivial, h.1, by omega⟩)
    rintro r s₂ ⟨hs₂, rfl, hadd₂, hin₂, ⟨hset₂, hph₂, hhist₂, -⟩, -, hstats₂⟩
    simp only [spec_advance, hph₂, hph₁, startPhase, hon, Phase.advance?, Phase.legal]
    refine (operate_exact hq _ ?_ ?_ ?_).imp ?_ ?_
    · simpa [hset₂, hset₁] using hdraw
    · simp [hstats₂, hstats₁, hfresh]
    · simp [hstats₂, hstats₁, hfresh]
    · intro h
      simp only [hset₂, hset₁, hstats₂, hstats₁, hfresh, hin₂, hin₁] at h
      refine .inr (.inr ⟨h.1, ?_⟩)
      simp only [Settings.frames, hon, Bool.false_eq_true, if_false, Nat.mul_add]
      omega
    rintro r s₃ ⟨hs₃, rfl, hadd₃, ⟨hset₃, hph₃, hhist₃, -⟩, d, c, hd, hc, hstats₃⟩
    dsimp only at hs₃ hadd₃ hset₃ hph₃ hhist₃ hstats₃
    simp only [hset₂, hset₁, hstats₂, hstats₁, hfresh, hin₂, hin₁]
      at hs₂ hs₃ hadd₃ hset₃ hstats₃ hd hc ⊢
    refine ⟨?_, trivial, hset₃, hph₃, ?_, ⟨s₁.link, hrec₁, ?_⟩, d, c, hd, hc, ?_⟩
    · simp only [hon, Settings.frames, Bool.false_eq_true, if_false, Nat.mul_add, true_and] at hs₁ ⊢
      omega
    · simp [hhist₃, hhist₂, hhist₁, drivePhases, startPhase, hon]
    · simpa [streamCalls, hon, hset₁] using hadd₂.trans hadd₃
    · simp [hstats₃, streamStats, Settings.frames, hon, Nat.mul_add]
  · -- onboarded: straight to operating
    have hb : (s₁.phase == .onboarding) = false := by simp [hph₁, startPhase, hon]
    simp only [hb, Bool.false_eq_true, if_false]
    refine (operate_exact hq s₁ ?_ ?_ ?_).imp ?_ ?_
    · simpa [hset₁] using hdraw
    · simp [hstats₁, hfresh]
    · simp [hstats₁, hfresh]
    · intro h
      simp only [hset₁, hstats₁, hfresh, hin₁] at h
      refine .inr (.inr ⟨h.1, ?_⟩)
      simp only [Settings.frames, hon, if_true, Nat.zero_add]
      omega
    rintro r s₃ ⟨hs₃, rfl, hadd₃, ⟨hset₃, hph₃, hhist₃, -⟩, d, c, hd, hc, hstats₃⟩
    simp only [hset₁, hstats₁, hfresh, hin₁] at hs₃ hadd₃ hset₃ hstats₃ hd hc ⊢
    refine ⟨?_, trivial, hset₃, by rw [hph₃, hph₁, startPhase, hon]; rfl, ?_,
      ⟨s₁.link, hrec₁, ?_⟩, d, c, hd, hc, ?_⟩
    · simp only [hon, Settings.frames, if_true, Nat.zero_add, Bool.true_eq_false, false_and,
        false_or] at hs₁ ⊢
      omega
    · simp [hhist₃, hhist₁, drivePhases, startPhase, hon]
    · simpa [streamCalls, hon] using hadd₃
    · simp [hstats₃, streamStats, Settings.frames, hon]


/-- **The run of a fresh session** with drawable settings on a quiet link: it aborts just when
    it overflows, and otherwise returns its counters after publishing the stored baseline,
    streaming, and releasing the link once, ending terminated. -/
theorem run_exact (hq : Quiet inbound) (status : DeviceStatus) (s : Session τ)
    (hphase : s.phase = .bootstrapping) (hfresh : s.stats = {}) (hdraw : s.settings.Drawable) :
    (run status : Step τ Stats).Exact s (Overflows s.settings status (inbound s.link).length)
      fun r s' => r = .ok s'.stats ∧ s'.settings = s.settings ∧ s'.phase = .terminated ∧
        s'.history = s.history ++ drivePhases status ++ [.terminated] ∧
        (∃ t₁, Recorded s.link t₁ (baselineExchanges status) ∧
          Called t₁ s'.link
            (streamCalls s.settings status (inbound s.link).length ++ [.disconnect])) ∧
        ∃ d c, d ≤ s.settings.operatingCycles ∧ c ≤ s.settings.operatingCycles ∧
          s'.stats = streamStats s.settings status (inbound s.link).length d c := by
  simp only [Step.Exact, run, spec_bind, spec_get, spec_say, spec_attempt]
  refine (drive_exact hq status _ ?_ ?_ ?_).imp id ?_
  · exact hphase
  · exact hfresh
  · exact hdraw
  rintro r s₁ ⟨hs₁, rfl, hset₁, hph₁, hhist₁, ⟨t₁, hbase, hcalls⟩, d, c, hd, hc, hstats₁⟩
  refine (terminate_exact hq s₁ (by simp [hph₁])).imp False.elim ?_
  rintro r s₂ ⟨-, rfl, hph₂, hhist₂, hrec₂, hset₂, -, -, hstats₂⟩
  dsimp only at hset₁ hhist₁ hbase hstats₁
  simp only [spec_bind, spec_get, spec_say, spec_pure]
  exact ⟨hs₁, trivial, hset₂.trans hset₁, hph₂, by rw [hhist₂, hhist₁],
    ⟨t₁, hbase, hcalls.trans hrec₂.called⟩, d, c, hd, hc, hstats₂.trans hstats₁⟩


/-- **A run within 32 bits on a quiet link returns, with exactly its calls.** A fresh session with
    a tick a frame and probabilities in `[0, 1]`, whose frame length and onboarding time fit
    32 bits and whose counters stay within 32 bits (the accelerometer counter, the largest of the
    streaming ones, and the command counter, which counts the queue), returns its counters. Its
    link records the stored baseline of an onboarded device that has one, then the onboarding
    frames of a device that is not onboarded, which receive nothing, then the operating cycles,
    each a PPG frame and per tick a sample, a receive waiting the poll interval and receives
    without waiting while they bring a command, and last one release. -/
theorem run_transcript (rec : Recorder τ) (hq : Quiet inbound) (cfg : Settings)
    (status : DeviceStatus) (t : τ) (src : Random.Source) (verbose : Bool) (hdraw : cfg.Drawable)
    (hframe : cfg.sampleRate * cfg.windowSecs < word32)
    (hboot : cfg.onboardingCycles * cfg.windowSecs < word32)
    (hcount : cfg.ticksPerFrame * cfg.frames status < word32)
    (hcmds : 0 < cfg.operatingCycles → (inbound t).length < word32) :
    ∃ s', (run status : Step τ Stats).run' (start cfg t src verbose) = .ok (.ok s'.stats, s') ∧
      (∃ E, rec.record s'.link = rec.record t ++ baselineExchanges status ++ E ∧
        E.map Exchange.call = streamCalls cfg status (inbound t).length ++ [.disconnect]) ∧
      ∃ d c, d ≤ cfg.operatingCycles ∧ c ≤ cfg.operatingCycles ∧
        s'.stats = streamStats cfg status (inbound t).length d c := by
  have hfit : ¬Overflows cfg status (inbound t).length := by
    rintro (⟨-, h⟩ | ⟨-, h⟩ | h | ⟨hm, h⟩)
    · omega
    · omega
    · omega
    · exact absurd h (Nat.not_le.mpr (hcmds hm))
  obtain ⟨r, s', hrun, rfl, -, -, -, ⟨t₁, hbase, hcalls⟩, hstats⟩ :=
    (run_exact hq status (start cfg t src verbose) rfl rfl hdraw).ends hfit
  obtain ⟨E, hE, hE'⟩ := hcalls rec
  exact ⟨s', hrun, ⟨E, by rw [hE, hbase rec]; rfl, hE'⟩, hstats⟩

/-- A device that is not onboarded, with the default settings and two commands queued on an
    inbox. -/
theorem run_transcript_inbox :
    Settings.Drawable {} ∧ (50 * 5 : Nat) < word32 ∧ (12 * 5 : Nat) < word32 ∧
      (Settings.ticksPerFrame {} * Settings.frames {} ⟨false, none⟩ < word32) ∧
      (0 < Settings.operatingCycles {} → ([[1], [2]] : List Bytes).length < word32) ∧
      ∃ s', (run ⟨false, none⟩ : Step Inbox Stats).run'
          (start {} { inbound := [[1], [2]] } (Random.Source.ofWords []) false) =
            .ok (.ok s'.stats, s') ∧
        (∃ E, s'.link.record = [] ++ baselineExchanges ⟨false, none⟩ ++ E ∧
          E.map Exchange.call = streamCalls {} ⟨false, none⟩ 2 ++ [.disconnect]) ∧
        ∃ d c, d ≤ 100 ∧ c ≤ 100 ∧ s'.stats = streamStats {} ⟨false, none⟩ 2 d c :=
  have hdraw : Settings.Drawable {} := ⟨by decide, by decide, by decide, by decide, by decide⟩
  ⟨hdraw, by decide, by decide, by decide, by decide,
    run_transcript Inbox.recorder Inbox.quiet {} ⟨false, none⟩ { inbound := [[1], [2]] }
      (Random.Source.ofWords []) false hdraw (by decide) (by decide) (by decide) (by decide)⟩

end SmartHelmet.Session
