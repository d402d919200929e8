import SmartHelmet.Proofs.Session.Ledger
/-!
# Sessions on a quiet link

On a link that never fails (`Link.Quiet`) a session's run is fixed by its settings, the
device's status and the number of queued commands; only payloads depend on the random source.
This file states, step by step, what such a run sends and when it aborts:

* `drainCalls`, `tickCalls`, `operatingCalls`, `onboardingCalls` — the calls that the phases make:
  a drain receives until a receive comes back empty, the first receive waiting for the poll
  interval and the others not at all; an operating tick publishes a sample and drains; every
  frame is a PPG publish followed by its ticks;
* one exact guarantee (`Step.Exact`) for each step of a session, from `publishFrame` up to the
  phases, `bootstrap` and `terminate`: the calls it makes, the counters it raises and its stop
  condition, which names the 32-bit counter or product that leaves its range.
-/

namespace SmartHelmet.Session

open SmartHelmet.Link
open SmartHelmet.Clock

/-! ## The calls of the phases -/

/-- The receives of a drain that finds `n` messages queued: all bring one but the last, the
    first waits `wait` and the rest do not wait. -/
def drainCalls (wait : Millis) : Nat → List Call
  | 0 => [.receive wait false]
  | n + 1 => .receive wait true :: drainCalls 0 n

/-- The calls of `k` operating ticks with `n` messages queued: each tick publishes a sample and
    drains, so the first drain empties the queue. -/
def tickCalls (poll : Millis) : Nat → Nat → List Call
  | 0, _ => []
  | k + 1, n => .publish .accel .fireAndForget :: drainCalls poll n ++ tickCalls poll k 0

/-- The calls of `m` operating cycles of `k` ticks with `n` messages queued. -/
def operatingCalls (poll : Millis) (k : Nat) : Nat → Nat → List Call
  | 0, _ => []
  | m + 1, n => .publish .telemetry .atLeastOnce :: tickCalls poll k n ++
      operatingCalls poll k m (if k = 0 then n else 0)

/-- The calls of one onboarding frame of `k` ticks: the PPG frame and its calm samples. -/
def calmFrameCalls (k : Nat) : List Call :=
  .publish .telemetry .atLeastOnce :: List.replicate k (.publish .accel .fireAndForget)

/-- The calls of `m` onboarding frames of `k` ticks. -/
def onboardingCalls (k m : Nat) : List Call := (List.replicate m (calmFrameCalls k)).flatten

end SmartHelmet.Session

namespace SmartHelmet.Session

open SmartHelmet.Link
open SmartHelmet.Clock

variable {τ : Type} [Transport τ] {inbound : τ → List Bytes}

/-! ## Publishing -/

/-- A PPG frame is one acknowledged publish; it aborts when the frame length or the frame
    counter leaves 32 bits. -/
theorem publishFrame_exact (hq : Quiet inbound) (s : Session τ) (heartRate : Float)
    (loc : GeoPoint) :
    (publishFrame heartRate loc : Step τ Unit).Exact s
      (word32 ≤ s.settings.sampleRate * s.settings.windowSecs ∨ word32 ≤ s.stats.ppgFrames + 1)
      fun r s' => r = .ok () ∧ Called s.link s'.link [.publish .telemetry .atLeastOnce] ∧
        inbound s'.link = inbound s.link ∧ s.Steady s' ∧ s'.alert = s.alert ∧
        s'.stats = { s.stats with ppgFrames := s.stats.ppgFrames + 1 } := by
  simp only [Step.Exact, publishFrame, publish, spec_bind, spec_get, spec_abort, Settings.frameLen,
    mul32]
  by_cases hw : s.settings.sampleRate * s.settings.windowSecs < word32
  · simp only [hw, if_true, spec_draw, spec_onLink, hq.publish_ok, Except.mapError, spec_count]
    split
    · refine ⟨by simp only [Stats.get] at *; omega, trivial, (recorded_publish _ _ _ _).called,
        hq.publish_inbound .., ?_⟩
      simp_all [Steady, Stats.get, Stats.set]
    · simp_all [Stats.get]
  · simp only [hw, if_false]
    omega

/-- An accelerometer sample is one unacknowledged publish of the drawn sample; it aborts when the
    sample counter leaves 32 bits. -/
theorem publishAccel_exact (hq : Quiet inbound) (s : Session τ) (crash : Bool) (loc : GeoPoint) :
    (publishAccel crash loc : Step τ Signal.Accel).Exact s (word32 ≤ s.stats.accelSamples + 1)
      fun r s' => r = .ok (Signal.generate crash s.source).1 ∧
        Recorded s.link s'.link [.publish .accel .fireAndForget
          (Payload.bytes (Payload.accel s.settings.deviceId (Signal.generate crash s.source).1 loc))
          (.ok ())] ∧
        inbound s'.link = inbound s.link ∧ s.Steady s' ∧ s'.alert = s.alert ∧
        s'.stats = { s.stats with accelSamples := s.stats.accelSamples + 1 } := by
  simp only [Step.Exact, publishAccel, publish, spec_bind, spec_get, spec_draw, spec_onLink,
    hq.publish_ok, Except.mapError, spec_count, spec_say, spec_pure]
  split
  · simp_all [Recorded, Recorder.publish_record, hq.publish_ok, hq.publish_inbound, Steady,
      Stats.get, Stats.set]
  · simp_all [Stats.get]

/-- The baseline is one acknowledged publish of the session's baseline; it aborts when the
    baseline counter leaves 32 bits. -/
theorem publishBaseline_exact (hq : Quiet inbound) (s : Session τ) :
    (publishBaseline : Step τ Unit).Exact s (word32 ≤ s.stats.baselinePublishes + 1)
      fun r s' => r = .ok () ∧
        Recorded s.link s'.link
          [.publish .baseline .atLeastOnce (Payload.bytes (Payload.baseline s.baseline)) (.ok ())] ∧
        inbound s'.link = inbound s.link ∧ s.Steady s' ∧ s'.alert = s.alert ∧
        s'.stats = { s.stats with baselinePublishes := s.stats.baselinePublishes + 1 } := by
  simp only [Step.Exact, publishBaseline, publish, spec_bind, spec_get, spec_onLink,
    hq.publish_ok, Except.mapError, spec_count, spec_say]
  split
  · simp_all [Recorded, Recorder.publish_record, hq.publish_ok, hq.publish_inbound, Steady,
      Stats.get, Stats.set]
  · simp_all [Stats.get]

/-! ## Draining commands -/

/-- The alert after applying queued commands in order: the last one decides. -/
def applied (a : Alert) (ms : List Bytes) : Alert := ms.foldl (fun _ raw => (interpret raw).1) a

@[simp] theorem applied_nil (a : Alert) : applied a [] = a := rfl

/-- **A drain empties the queue**: given fuel for every queued message and the empty receive
    after them, it receives each message in order, counts it and applies it; it aborts when the
    command counter leaves 32 bits. -/
theorem drain_exact (hq : Quiet inbound) (fuel : Nat) (wait : Millis) (s : Session τ)
    (hfuel : (inbound s.link).length < fuel) :
    (drain fuel wait : Step τ Unit).Exact s
      (0 < (inbound s.link).length ∧ word32 ≤ s.stats.commandsReceived + (inbound s.link).length)
      fun r s' => r = .ok () ∧ Called s.link s'.link (drainCalls wait (inbound s.link).length) ∧
        inbound s'.link = [] ∧ s.Steady s' ∧ s'.alert = applied s.alert (inbound s.link) ∧
        s'.stats = { s.stats with
          commandsReceived := s.stats.commandsReceived + (inbound s.link).length } := by
  induction fuel generalizing wait s with
  | zero => omega
  | succ fuel ih =>
    have hrec := recorded_receive wait s.link
    have hin := hq.receive_inbound wait s.link
    rw [hq.receive_head] at hrec
    simp only [Step.Exact, drain, receive, spec_bind, spec_onLink, hq.receive_head, Except.mapError]
    cases h : inbound s.link with
    | nil =>
      simp only [h, List.head?_nil, spec_pure] at hrec hin ⊢
      refine ⟨by simp, trivial, hrec.called, by simpa using hin, ⟨rfl, rfl, rfl, rfl⟩, rfl, ?_⟩
      simp
    | cons m rest =>
      simp only [h, List.head?_cons, List.tail_cons, List.length_cons, spec_bind, spec_say,
        spec_count, spec_keep, spec_modify] at hrec hin hfuel ⊢
      split
      · rename_i hc
        refine ((ih 0 _ (by simpa [hin] using hfuel)).weaken ?_).mono ?_
        · simp only [hin, Stats.get, Stats.set] at hc ⊢
          omega
        · rintro r s' ⟨hs, rfl, hadd, hnil, ⟨h1, h2, h3, h4⟩, hal, hst⟩
          simp only [hin, Stats.get, Stats.set] at hc hs hadd hal hst ⊢
          refine ⟨by omega, trivial, hrec.called.trans hadd, hnil, ⟨h1, h2, h3, h4⟩,
            by rw [hal]; rfl, ?_⟩
          rw [hst]
          simp only [Stats.mk.injEq, true_and]
          omega
      · rename_i hc
        simp only [Stats.get] at hc
        omega

/-- **Polling drains the whole queue**: the backlog covers it. -/
theorem pollCommands_exact (hq : Quiet inbound) (s : Session τ) :
    (pollCommands : Step τ Unit).Exact s
      (0 < (inbound s.link).length ∧ word32 ≤ s.stats.commandsReceived + (inbound s.link).length)
      fun r s' => r = .ok () ∧
        Called s.link s'.link (drainCalls s.settings.commandPoll (inbound s.link).length) ∧
        inbound s'.link = [] ∧ s.Steady s' ∧ s'.alert = applied s.alert (inbound s.link) ∧
        s'.stats = { s.stats with
          commandsReceived := s.stats.commandsReceived + (inbound s.link).length } := by
  simp only [pollCommands, Step.Exact, spec_bind, spec_get]
  exact drain_exact hq _ _ s (Nat.lt_succ_of_le (hq.backlog_bound s.link))

/-! ## Ticks -/

/-- **The calm ticks of an onboarding frame** publish `n` samples and receive nothing; they
    abort when the sample counter leaves 32 bits. -/
theorem calmTicks_exact (hq : Quiet inbound) (loc : GeoPoint) (n : Nat) (s : Session τ) :
    (calmTicks loc n : Step τ Unit).Exact s (0 < n ∧ word32 ≤ s.stats.accelSamples + n)
      fun r s' => r = .ok () ∧
        Called s.link s'.link (List.replicate n (.publish .accel .fireAndForget)) ∧
        inbound s'.link = inbound s.link ∧ s.Steady s' ∧ s'.alert = s.alert ∧
        s'.stats = { s.stats with accelSamples := s.stats.accelSamples + n } := by
  induction n generalizing s with
  | zero => simp [Step.Exact, calmTicks, Steady, Called.refl]
  | succ n ih =>
    simp only [Step.Exact, calmTicks, spec_bind]
    refine (publishAccel_exact hq s false loc).imp (by omega) ?_
    rintro r s₁ ⟨hs₁, rfl, hrec, hin, hst, hal, hstats⟩
    simp only [spec_get, spec_sleep]
    refine (ih _).imp (by simp [hstats]; omega) ?_
    rintro r s' ⟨hs', rfl, hadd, hin', hst', hal', hstats'⟩
    simp only [hstats] at hs' hstats'
    refine ⟨by omega, rfl, ?_, by rw [hin', hin], hst.trans hst', by rw [hal', hal], ?_⟩
    · have h₁ : Called s.link s₁.link [.publish .accel .fireAndForget] := hrec.called
      simpa [List.replicate_succ] using h₁.trans hadd
    · rw [hstats']
      simp only [Stats.mk.injEq, true_and, and_true]
      omega

/-- **The ticks of an operating cycle**: each publishes a sample and drains the queue, so the
    first drain takes every queued command; they abort when the sample or the command counter
    leaves 32 bits. -/
theorem operatingTicks_exact (hq : Quiet inbound) (plan : Plan) (left tick : Nat) (s : Session τ) :
    (operatingTicks plan left tick : Step τ Unit).Exact s
      (0 < left ∧ (word32 ≤ s.stats.accelSamples + left ∨
        (0 < (inbound s.link).length ∧
          word32 ≤ s.stats.commandsReceived + (inbound s.link).length)))
      fun r s' => r = .ok () ∧
        Called s.link s'.link (tickCalls s.settings.commandPoll left (inbound s.link).length) ∧
        inbound s'.link = (if left = 0 then inbound s.link else []) ∧ s.Steady s' ∧
        s'.alert = (if left = 0 then s.alert else applied s.alert (inbound s.link)) ∧
        s'.stats = { s.stats with
          accelSamples := s.stats.accelSamples + left
          commandsReceived := s.stats.commandsReceived +
            (if left = 0 then 0 else (inbound s.link).length) } := by
  induction left generalizing tick s with
  | zero => simp [Step.Exact, operatingTicks, tickCalls, Steady, Called.refl]
  | succ left ih =>
    simp only [Step.Exact, operatingTicks, spec_bind]
    refine (publishAccel_exact hq s _ plan.location).imp (by omega) ?_
    rintro r s₁ ⟨hs₁, rfl, hrec, hin, hst, hal, hstats⟩
    -- the crash warning only adds a log line, so both branches go on alike
    dsimp only
    split
    all_goals
      simp only [spec_bind, spec_say]
      refine (pollCommands_exact hq _).imp (by simp [hin, hstats]; omega) ?_
      rintro r s₂ ⟨hs₂, rfl, hadd₂, hin₂, hst₂, hal₂, hstats₂⟩
      simp only [spec_get, spec_sleep]
      refine (ih _ _).imp (by simp [hin₂, hstats₂, hstats]; omega) ?_
      rintro r s' ⟨hs', rfl, hadd', hin', hst', hal', hstats'⟩
      simp only [hin, hin₂, hstats₂, hstats, hst.1, hst₂.1]
        at hs₂ hs' hadd₂ hadd' hin' hal₂ hal' hstats'
      refine ⟨by simp at hs' ⊢; omega, rfl, ?_, by simpa using hin', ?_, ?_, ?_⟩
      · have h₁ : Called s.link s₁.link [.publish .accel .fireAndForget] := hrec.called
        have h₂ : Called s₁.link s₂.link _ := hadd₂
        simpa [tickCalls] using h₁.trans (h₂.trans hadd')
      · exact (hst.trans (by simpa [Steady] using hst₂)).trans hst'
      · simp [hal', hal₂, hal, applied]
      · rw [hstats']
        simp only [Stats.mk.injEq, true_and]
        simp
        omega

/-! ## Cycles -/

/-- **An operating cycle** publishes its frame, runs its ticks and counts itself, as drowsy and
    as crashing when its plan says so; it aborts when the frame length or a counter leaves
    32 bits (the drowsy and crash counters stay within the operating one). -/
theorem operatingCycle_exact (hq : Quiet inbound) (cycle : Nat) (plan : Plan) (s : Session τ)
    (hd : s.stats.drowsyCycles ≤ s.stats.operatingCycles)
    (hc : s.stats.crashCycles ≤ s.stats.operatingCycles) :
    (operatingCycle cycle plan : Step τ Unit).Exact s
      (word32 ≤ s.settings.sampleRate * s.settings.windowSecs ∨ word32 ≤ s.stats.ppgFrames + 1 ∨
        (0 < s.settings.ticksPerFrame ∧ (word32 ≤ s.stats.accelSamples + s.settings.ticksPerFrame ∨
          (0 < (inbound s.link).length ∧
            word32 ≤ s.stats.commandsReceived + (inbound s.link).length))) ∨
        word32 ≤ s.stats.operatingCycles + 1)
      fun r s' => r = .ok () ∧
        Called s.link s'.link (.publish .telemetry .atLeastOnce ::
          tickCalls s.settings.commandPoll s.settings.ticksPerFrame (inbound s.link).length) ∧
        inbound s'.link = (if s.settings.ticksPerFrame = 0 then inbound s.link else []) ∧
        s.Steady s' ∧
        s'.alert =
          (if s.settings.ticksPerFrame = 0 then s.alert else applied s.alert (inbound s.link)) ∧
        s'.stats = { s.stats with
          ppgFrames := s.stats.ppgFrames + 1
          accelSamples := s.stats.accelSamples + s.settings.ticksPerFrame
          operatingCycles := s.stats.operatingCycles + 1
          drowsyCycles := s.stats.drowsyCycles + (if plan.drowsy then 1 else 0)
          crashCycles := s.stats.crashCycles + (if plan.crashTick.isSome then 1 else 0)
          commandsReceived := s.stats.commandsReceived +
            (if s.settings.ticksPerFrame = 0 then 0 else (inbound s.link).length) } := by
  simp only [Step.Exact, operatingCycle, spec_bind, spec_get]
  refine (publishFrame_exact hq s _ _).imp (by omega) ?_
  rintro r s₁ ⟨hs₁, rfl, hadd₁, hin₁, hst₁, hal₁, hstats₁⟩
  simp only [spec_say]
  refine (operatingTicks_exact hq plan _ 0 _).imp ?_ ?_
  · simp only [hin₁, hstats₁]
    omega
  rintro r s₂ ⟨hs₂, rfl, hadd₂, hin₂, hst₂, hal₂, hstats₂⟩
  dsimp only at hadd₂ hin₂ hst₂ hal₂ hstats₂ ⊢
  simp only [hin₁, hal₁, hstats₁, hst₁.1] at hs₂ hin₂ hal₂ hstats₂ hadd₂
  -- what the frame and the ticks did, stated against the cycle's start
  have hA : Called s.link s₂.link (.publish .telemetry .atLeastOnce ::
      tickCalls s.settings.commandPoll s.settings.ticksPerFrame (inbound s.link).length) :=
    hadd₁.trans hadd₂
  have hS : s.Steady s₂ := hst₁.trans (by simpa [Steady] using hst₂)
  clear hadd₁ hadd₂ hst₁ hst₂ hin₁ hal₁ hstats₁
  by_cases hop : s.stats.operatingCycles + 1 < word32
  · -- the drowsy and crash counters stay within the operating one, so only it can overflow
    have hdw : s.stats.drowsyCycles + 1 < word32 := by omega
    have hcw : s.stats.crashCycles + 1 < word32 := by omega
    simp only [spec_count, spec_bind, spec_ite, spec_get, Stats.get, Stats.set, hstats₂, hop, hdw,
      hcw,
      if_true]
    -- the plan decides which counters rise; the alert only picks the closing log line
    split <;> split <;> split <;>
      · simp only [spec_say]
        exact ⟨by omega, trivial, hA, hin₂, by simpa [Steady] using hS, hal₂, by simp [*]⟩
  · simp only [spec_count, Stats.get, hstats₂, hop, if_false]
    omega

/-- **The operating cycles** of drawable settings: each draws its plan and runs; the first
    cycle's ticks take the queued commands. They abort when the frame length or a counter leaves
    32 bits; the drowsy and crash counters rise by at most one a cycle. -/
theorem operateCycles_exact (hq : Quiet inbound) (left cycle : Nat) (s : Session τ)
    (hdraw : s.settings.Drawable) (hd : s.stats.drowsyCycles ≤ s.stats.operatingCycles)
    (hc : s.stats.crashCycles ≤ s.stats.operatingCycles) :
    (operateCycles left cycle : Step τ Unit).Exact s
      (0 < left ∧ (word32 ≤ s.settings.sampleRate * s.settings.windowSecs ∨
        word32 ≤ s.stats.ppgFrames + left ∨
        word32 ≤ s.stats.accelSamples + s.settings.ticksPerFrame * left ∨
        (0 < (inbound s.link).length ∧
          word32 ≤ s.stats.commandsReceived + (inbound s.link).length) ∨
        word32 ≤ s.stats.operatingCycles + left))
      fun r s' => r = .ok () ∧
        Called s.link s'.link
          (operatingCalls s.settings.commandPoll s.settings.ticksPerFrame left
            (inbound s.link).length) ∧
        inbound s'.link = (if left = 0 then inbound s.link else []) ∧ s.Steady s' ∧
        s'.alert = (if left = 0 then s.alert else applied s.alert (inbound s.link)) ∧
        ∃ d c, d ≤ left ∧ c ≤ left ∧ s'.stats = { s.stats with
          ppgFrames := s.stats.ppgFrames + left
          accelSamples := s.stats.accelSamples + s.settings.ticksPerFrame * left
          operatingCycles := s.stats.operatingCycles + left
          drowsyCycles := s.stats.drowsyCycles + d
          crashCycles := s.stats.crashCycles + c
          commandsReceived := s.stats.commandsReceived +
            (if left = 0 then 0 else (inbound s.link).length) } := by
  induction left generalizing cycle s with
  | zero =>
    simp only [Step.Exact, operateCycles, spec_pure]
    exact ⟨by simp, trivial, Called.refl _, by simp, Steady.refl s, by simp,
      0, 0, Nat.le_refl 0, Nat.le_refl 0, by simp⟩
  | succ left ih =>
    have hk := hdraw.ticks_pos
    obtain ⟨plan, src, hplan⟩ := Settings.plan_ok hdraw s.source
    simp only [Step.Exact, operateCycles, spec_bind, spec_get, spec_drawOrAbort, hplan,
      Nat.mul_succ]
    refine (operatingCycle_exact hq cycle plan { s with source := src } hd hc).imp
      (fun h => by dsimp only at h; omega) ?_
    rintro r s₁ ⟨hs₁, rfl, hadd₁, hin₁, hst₁, hal₁, hstats₁⟩
    dsimp only at hs₁ hadd₁ hin₁ hst₁ hal₁ hstats₁
    simp only [Nat.pos_iff_ne_zero.mp hk, if_false] at hs₁ hadd₁ hin₁ hal₁ hstats₁
    have hd₁ : s₁.stats.drowsyCycles ≤ s₁.stats.operatingCycles := by
      rw [hstats₁]; dsimp only; split <;> omega
    have hc₁ : s₁.stats.crashCycles ≤ s₁.stats.operatingCycles := by
      rw [hstats₁]; dsimp only; split <;> omega
    refine (ih (cycle + 1) s₁ (hst₁.1 ▸ hdraw) hd₁ hc₁).imp ?_ ?_
    · simp only [hin₁, hstats₁, hst₁.1]
      intro h
      simp at h ⊢
      omega
    rintro r s' ⟨hs', rfl, hadd', hin', hst', hal', d, c, hdl, hcl, hstats'⟩
    simp only [hin₁, hstats₁, hst₁.1, List.length_nil] at hs' hadd' hin' hal' hstats'
    refine ⟨?_, rfl, ?_, by simpa using hin', hst₁.trans hst', by simpa [hal₁] using hal', ?_⟩
    · -- with no cycle left the remaining budget is empty
      rcases Nat.eq_zero_or_pos left with rfl | hl
      · simp at hs₁ ⊢
        omega
      · simp at hs' hs₁ ⊢
        omega
    · simpa [operatingCalls, Nat.pos_iff_ne_zero.mp hk] using hadd₁.trans hadd'
    · refine ⟨d + (if plan.drowsy then 1 else 0), c + (if plan.crashTick.isSome then 1 else 0),
        by split <;> omega, by split <;> omega, ?_⟩
      rw [hstats']
      simp only [Stats.mk.injEq]
      refine ⟨by omega, by omega, trivial, trivial, by omega, by omega, by omega, by simp⟩

/-- **The onboarding cycles** stream, each, one resting frame and its calm ticks, and receive
    nothing; they abort when the frame length or a counter leaves 32 bits. -/
theorem onboardCycles_exact (hq : Quiet inbound) (left cycle : Nat) (s : Session τ) :
    (onboardCycles left cycle : Step τ Unit).Exact s
      (0 < left ∧ (word32 ≤ s.settings.sampleRate * s.settings.windowSecs ∨
        word32 ≤ s.stats.ppgFrames + left ∨
        (0 < s.settings.ticksPerFrame ∧
          word32 ≤ s.stats.accelSamples + s.settings.ticksPerFrame * left) ∨
        word32 ≤ s.stats.onboardingCycles + left))
      fun r s' => r = .ok () ∧
        Called s.link s'.link (onboardingCalls s.settings.ticksPerFrame left) ∧
        inbound s'.link = inbound s.link ∧ s.Steady s' ∧ s'.alert = s.alert ∧
        s'.stats = { s.stats with
          ppgFrames := s.stats.ppgFrames + left
          accelSamples := s.stats.accelSamples + s.settings.ticksPerFrame * left
          onboardingCycles := s.stats.onboardingCycles + left } := by
  induction left generalizing cycle s with
  | zero => simp [Step.Exact, onboardCycles, onboardingCalls, Steady, Called.refl]
  | succ left ih =>
    simp only [Step.Exact, onboardCycles, spec_bind, spec_get, spec_draw, Nat.mul_succ]
    refine (publishFrame_exact hq _ _ _).imp ?_ ?_
    · intro h
      dsimp only at h
      omega
    rintro r s₁ ⟨hs₁, rfl, hadd₁, hin₁, hst₁, hal₁, hstats₁⟩
    dsimp only at hs₁ hadd₁ hin₁ hst₁ hal₁ hstats₁
    refine (calmTicks_exact hq _ _ s₁).imp ?_ ?_
    · simp only [hstats₁]
      omega
    rintro r s₂ ⟨hs₂, rfl, hadd₂, hin₂, hst₂, hal₂, hstats₂⟩
    have hrw : s.settings.sampleRate * s.settings.windowSecs < word32 := by omega
    by_cases hon : s.stats.onboardingCycles + 1 < word32
    · simp only [spec_count, Stats.get, Stats.set, hstats₂, hstats₁, hon, if_true,
        spec_abort, Settings.frameLen, mul32, hrw, spec_say]
      refine (ih _ _).imp ?_ ?_
      · simp only [hst₂.1, hst₁.1]
        omega
      rintro r s' ⟨hs', rfl, hadd', hin', hst', hal', hstats'⟩
      simp only [hst₂.1, hst₁.1] at hs' hadd' hstats'
      refine ⟨?_, rfl, ?_, by rw [hin', hin₂, hin₁], ?_, by rw [hal', hal₂, hal₁], ?_⟩
      · simp only [hstats₁] at hs₂
        rcases Nat.eq_zero_or_pos left with rfl | hl
        · simp at hs₁ hs₂ ⊢
          omega
        · simp at hs' hs₁ ⊢
          omega
      · have h₂ : Called s₁.link s₂.link _ := hadd₂
        simpa [onboardingCalls, calmFrameCalls, List.replicate_succ, hst₁.1] using
          hadd₁.trans (h₂.trans hadd')
      · exact hst₁.trans (hst₂.trans (by simpa [Steady] using hst'))
      · rw [hstats']
        simp only [Stats.mk.injEq, true_and, and_true]
        omega
    · simp only [spec_count, Stats.get, hstats₂, hstats₁, hon, if_false]
      omega


/-! ## Phases -/

/-- **The onboarding phase** runs every onboarding cycle, then pauses. -/
theorem onboard_exact (hq : Quiet inbound) (s : Session τ) :
    (onboard : Step τ Unit).Exact s
      (0 < s.settings.onboardingCycles ∧ (word32 ≤ s.settings.sampleRate * s.settings.windowSecs ∨
        word32 ≤ s.stats.ppgFrames + s.settings.onboardingCycles ∨
        (0 < s.settings.ticksPerFrame ∧
          word32 ≤ s.stats.accelSamples + s.settings.ticksPerFrame * s.settings.onboardingCycles) ∨
        word32 ≤ s.stats.onboardingCycles + s.settings.onboardingCycles))
      fun r s' => r = .ok () ∧
        Called s.link s'.link
          (onboardingCalls s.settings.ticksPerFrame s.settings.onboardingCycles) ∧
        inbound s'.link = inbound s.link ∧ s.Steady s' ∧ s'.alert = s.alert ∧
        s'.stats = { s.stats with
          ppgFrames := s.stats.ppgFrames + s.settings.onboardingCycles
          accelSamples :=
            s.stats.accelSamples + s.settings.ticksPerFrame * s.settings.onboardingCycles
          onboardingCycles := s.stats.onboardingCycles + s.settings.onboardingCycles } := by
  simp only [Step.Exact, onboard, spec_bind, spec_say, spec_get]
  refine (onboardCycles_exact hq _ 1 _).imp id ?_
  rintro r s' ⟨hs', rfl, hadd, hin, hst, hal, hstats⟩
  simp only [spec_sleep]
  exact ⟨hs', trivial, hadd, hin, hst, hal, hstats⟩

/-- **The operating phase** of drawable settings runs every operating cycle. -/
theorem operate_exact (hq : Quiet inbound) (s : Session τ) (hdraw : s.settings.Drawable)
    (hd : s.stats.drowsyCycles ≤ s.stats.operatingCycles)
    (hc : s.stats.crashCycles ≤ s.stats.operatingCycles) :
    (operate : Step τ Unit).Exact s
      (0 < s.settings.operatingCycles ∧ (word32 ≤ s.settings.sampleRate * s.settings.windowSecs ∨
        word32 ≤ s.stats.ppgFrames + s.settings.operatingCycles ∨
        word32 ≤ s.stats.accelSamples + s.settings.ticksPerFrame * s.settings.operatingCycles ∨
        (0 < (inbound s.link).length ∧
          word32 ≤ s.stats.commandsReceived + (inbound s.link).length) ∨
        word32 ≤ s.stats.operatingCycles + s.settings.operatingCycles))
      fun r s' => r = .ok () ∧
        Called s.link s'.link (operatingCalls s.settings.commandPoll s.settings.ticksPerFrame
          s.settings.operatingCycles (inbound s.link).length) ∧
        s.Steady s' ∧
        ∃ d c, d ≤ s.settings.operatingCycles ∧ c ≤ s.settings.operatingCycles ∧
          s'.stats = { s.stats with
          ppgFrames := s.stats.ppgFrames + s.settings.operatingCycles
          accelSamples :=
            s.stats.accelSamples + s.settings.ticksPerFrame * s.settings.operatingCycles
          operatingCycles := s.stats.operatingCycles + s.settings.operatingCycles
          drowsyCycles := s.stats.drowsyCycles + d
          crashCycles := s.stats.crashCycles + c
          commandsReceived := s.stats.commandsReceived +
            (if s.settings.operatingCycles = 0 then 0 else (inbound s.link).length) } := by
  simp only [Step.Exact, operate, spec_bind, spec_say, spec_get]
  refine (operateCycles_exact hq _ 1 _ ?_ ?_ ?_).imp id ?_
  · exact hdraw
  · exact hd
  · exact hc
  rintro r s' ⟨hs', rfl, hadd, -, hst, -, hstats⟩
  exact ⟨hs', trivial, hadd, hst, hstats⟩


/-! ## Starting and ending -/

/-- What a bootstrap publishes on a quiet link: the stored baseline of an onboarded device, if it
    has one. -/
def baselineExchanges (status : DeviceStatus) : List Exchange :=
  match status.onboarded, status.baseline with
  | true, some b => [.publish .baseline .atLeastOnce (Payload.bytes (Payload.baseline b)) (.ok ())]
  | _, _ => []

/-- **Bootstrap** steps a device that is not onboarded to onboarding, and an onboarded one to
    operating, after loading and publishing its stored baseline if it has one; it aborts when
    the onboarding time or the baseline counter leaves 32 bits. -/
theorem bootstrap_exact (hq : Quiet inbound) (status : DeviceStatus) (s : Session τ)
    (hphase : s.phase = .bootstrapping) :
    (bootstrap status : Step τ Unit).Exact s
      ((status.onboarded = false ∧ word32 ≤ s.settings.onboardingCycles * s.settings.windowSecs) ∨
        (baselineExchanges status ≠ [] ∧ word32 ≤ s.stats.baselinePublishes + 1))
      fun r s' => r = .ok () ∧ s'.settings = s.settings ∧ s'.phase = startPhase status ∧
        s'.history = s.history ++ [startPhase status] ∧
        s'.baseline = (if status.onboarded then status.baseline.getD s.baseline else s.baseline) ∧
        Recorded s.link s'.link (baselineExchanges status) ∧
        inbound s'.link = inbound s.link ∧ s'.alert = s.alert ∧
        s'.stats = { s.stats with
          baselinePublishes := s.stats.baselinePublishes + (baselineExchanges status).length } := by
  simp only [Step.Exact, bootstrap, spec_bind, spec_get]
  rcases status with ⟨_ | _, _ | b⟩
  case false.none | false.some =>
    -- not onboarded: the onboarding time is computed, then the phase steps
    by_cases hw : s.settings.onboardingCycles * s.settings.windowSecs < word32
    · simp only [Bool.not_false, if_true, spec_bind, spec_abort, mul32, hw, spec_say,
        spec_advance, hphase, Phase.advance?, Phase.legal]
      simp [baselineExchanges, startPhase, hw]
    · simp only [Bool.not_false, if_true, spec_bind, spec_abort, mul32, hw, if_false]
      simp [baselineExchanges]
      omega
  case true.none =>
    simp only [Bool.not_true, Bool.false_eq_true, if_false, spec_bind, spec_say,
      spec_advance, hphase, Phase.advance?, Phase.legal, if_true]
    simp [baselineExchanges, startPhase]
  case true.some =>
    -- the stored baseline is loaded, then published
    simp only [Bool.not_true, Bool.false_eq_true, if_false, spec_bind, spec_say, spec_modify]
    refine (publishBaseline_exact hq _).imp ?_ ?_
    · intro h
      exact .inr ⟨by simp [baselineExchanges], h⟩
    rintro r s₁ ⟨hs₁, rfl, hrec, hin, ⟨hset, hph, hhist, hbase⟩, hal, hstats⟩
    dsimp only at hs₁ hrec hin hset hph hhist hbase hal hstats
    simp only [spec_advance, hph, hphase, Phase.advance?, Phase.legal, if_true]
    simp [baselineExchanges, startPhase, hrec, hin, hset, hhist, hbase, hal, hstats]
    omega


/-- **Ending a session** that is not yet terminated steps to terminated and releases the link;
    on a quiet link this never fails or aborts. -/
theorem terminate_exact (hq : Quiet inbound) (s : Session τ) (hphase : s.phase ≠ .terminated) :
    (terminate : Step τ Unit).Exact s False
      fun r s' => r = .ok () ∧ s'.phase = .terminated ∧ s'.history = s.history ++ [.terminated] ∧
        Recorded s.link s'.link [.disconnect (.ok ())] ∧
        s'.settings = s.settings ∧ s'.baseline = s.baseline ∧ s'.alert = s.alert ∧
        s'.stats = s.stats := by
  have hrec := recorded_disconnect s.link
  rw [hq.disconnect_ok] at hrec
  have hb : (s.phase == .terminated) = false := by simpa using hphase
  simp only [Step.Exact, terminate, spec_bind, spec_get, hb, Bool.false_eq_true, if_false,
    spec_advance, Phase.advance?_terminated hphase, disconnect, spec_onLink, hq.disconnect_ok,
    Except.mapError, spec_say]
  simp [hrec]

end SmartHelmet.Session
