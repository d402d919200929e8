import SmartHelmet.Proofs.Session.Faults
import SmartHelmet.Link.Scripted
/-!
# How launches and runs end on any link

A launch asks the status service first, connects only once it knows the device's status, and
then runs a fresh session on the link. On a link that may fail any publish, receive or release:

* `launch_releases_once` — a failed status ends the launch before any connection, whatever the
  connection would have been; a failed connection ends it with that failure; otherwise the run
  streams until its first failed call, releases the link once and last, reports the first
  failure, else the release's, else its counters, and ends terminated for the first time. With
  runnable settings it aborts only on a counter leaving 32 bits;
* `run_counts_calls` — whenever a fresh run returns, with a value or a failure, each counter is
  the number of its calls that went through, and the counters of frames, samples and cycles keep
  each other in check: every completed cycle's frame and samples, at most one frame more, and
  no more samples than the frames published carry.
-/

namespace SmartHelmet.Session

open SmartHelmet.Link

variable {τ : Type}

/-- A fresh session is at the start of a run: bootstrapping, never terminated, and with counters
    at the end of no cycle at all. -/
theorem start_fresh (cfg : Settings) (t : τ) (src : Random.Source) (verbose : Bool) :
    (start cfg t src verbose).phase = .bootstrapping ∧
      .terminated ∉ (start cfg t src verbose).history ∧
      (start cfg t src verbose).stats.Whole cfg.ticksPerFrame :=
  ⟨rfl, by simp [start], Stats.whole_zero _⟩

variable [Transport τ]

/-! ## Launching -/

/-- **A launch on any link**: the status service first, and no connection when it fails; the
    connection's failure unchanged; and otherwise a run that releases its link once and last,
    after stopping at its first failed call, and reports that failure first. With runnable
    settings the run aborts only when a counter leaves 32 bits. -/
theorem launch_releases_once (cfg : Settings) (hcfg : cfg.Runnable) (src : Random.Source)
    (verbose : Bool) :
    (∀ (e : Service.Failure) (connect : Except Failure τ), ∃ logs,
      launch cfg (.error e) connect src verbose = .ok (.unknownStatus e, logs)) ∧
    (∀ (status : DeviceStatus) (f : Failure), ∃ logs,
      launch cfg (.ok status) (.error f : Except Failure τ) src verbose =
        .ok (.unconnected f, logs)) ∧
    (∀ (status : DeviceStatus) (t : τ),
      launch cfg (.ok status) (.ok t) src verbose = .error .addOverflow ∨
        ∃ r s' logs E o d, launch cfg (.ok status) (.ok t) src verbose = .ok (.ran r s', logs) ∧
          Released t r s' E o d) := by
  refine ⟨fun e connect => ⟨_, rfl⟩, fun status f => ⟨_, rfl⟩, fun status t => ?_⟩
  obtain ⟨hphase, hhist, hw⟩ := start_fresh cfg t src verbose
  -- the launch's session is a fresh one holding the launch's own log lines
  have hrun := run_went status { start cfg t src verbose with
    logs := if verbose then #[⟨.info, Log.sessionTarget, "Checking device status..."⟩] else #[] }
    hphase hhist rfl hw
  simp only [launch]
  cases hr : (run status : Step τ Stats).run' _ with
  | error a =>
    -- runnable settings risk only a counter's overflow
    left
    have ha : cfg.Risks a := hrun.stop_of_abort hr
    rcases ha with rfl | hno
    · rfl
    · exact absurd hcfg hno
  | ok p =>
    right
    obtain ⟨E, o, d, hrel, -, -⟩ := hrun.of_run' hr
    exact ⟨p.1, p.2, p.2.logs, E, o, d, rfl, hrel⟩

/-- The default settings can be relied on. -/
theorem Settings.runnable_default : Settings.Runnable {} :=
  ⟨⟨by decide, by decide, by decide, by decide, by decide⟩, by decide, by decide⟩

/-- The default settings, on any scripted link. -/
theorem launch_releases_once_scripted :
    Settings.Runnable {} ∧
    (∀ (e : Service.Failure) (connect : Except Failure Scripted), ∃ logs,
      launch {} (.error e) connect (Random.Source.ofSeed 0) false = .ok (.unknownStatus e, logs)) ∧
    (∀ (status : DeviceStatus) (f : Failure), ∃ logs,
      launch {} (.ok status) (.error f : Except Failure Scripted) (Random.Source.ofSeed 0) false =
        .ok (.unconnected f, logs)) ∧
    (∀ (status : DeviceStatus) (t : Scripted),
      launch {} (.ok status) (.ok t) (Random.Source.ofSeed 0) false = .error .addOverflow ∨
        ∃ r s' logs E o d,
          launch {} (.ok status) (.ok t) (Random.Source.ofSeed 0) false = .ok (.ran r s', logs) ∧
          Released t r s' E o d) :=
  ⟨Settings.runnable_default, launch_releases_once {} Settings.runnable_default _ _⟩

/-! ## Counting calls -/

/-- **The counters of a returned run count its calls**: whenever a fresh run returns, with its
    counters or with a failure, its link's records grew by exchanges in which the frames, samples
    and baselines counted are the publishes on their channels that went through and the commands
    counted are the receives that brought one; and the frames, samples and cycles are balanced. -/
theorem run_counts_calls (cfg : Settings) (status : DeviceStatus) (t : τ) (src : Random.Source)
    (verbose : Bool) {r : Except RunError Stats} {s' : Session τ}
    (h : (run status : Step τ Stats).run' (start cfg t src verbose) = .ok (r, s')) :
    ∃ E, Recorded t s'.link E ∧
      s'.stats.ppgFrames = E.countP (Exchange.publishedOn .telemetry) ∧
      s'.stats.accelSamples = E.countP (Exchange.publishedOn .accel) ∧
      s'.stats.baselinePublishes = E.countP (Exchange.publishedOn .baseline) ∧
      s'.stats.commandsReceived = E.countP Exchange.arrived ∧
      s'.stats.Balanced cfg.ticksPerFrame := by
  obtain ⟨hphase, hhist, hw⟩ := start_fresh cfg t src verbose
  obtain ⟨E, o, d, hrel, hacc, hb⟩ := (run_went status _ hphase hhist rfl hw).of_run' h
  have hrec : Recorded t s'.link (E ++ [.disconnect d]) := hrel.recorded
  -- the counters started at zero
  exact ⟨_, hrec, hacc.frames.trans (Nat.zero_add _),
    hacc.samples.trans (Nat.zero_add _), hacc.baselines.trans (Nat.zero_add _),
    hacc.commands.trans (Nat.zero_add _), hb⟩

/-- A scripted link that refuses its fifth publish. -/
def midCycleFault : Scripted :=
  { device := "HELMET001", faults := { publishFailAt := some 4 } }

/-- Two onboarding cycles of two ticks each, with frames of two samples. -/
def twoShortCycles : Settings :=
  { onboardingCycles := 2, operatingCycles := 0, ticksPerFrame := 2, sampleRate := 2, windowSecs := 1 }

/-- The run of a device to onboard on `midCycleFault`, followed call by call: the draws stay
    unevaluated, and only the counters, the phases and the script's count of publishes decide
    where it goes. Two frames and two samples go through before the fifth publish is refused. -/
theorem midCycleFault_run : (run ⟨false, none⟩ : Step Scripted Stats).Spec
    (start twoShortCycles midCycleFault (Random.Source.ofWords []) false) (fun _ => False)
    fun r s' => r = .error (.link (.publish (Channel.topic "HELMET001" .accel) "injected")) ∧
      s'.stats.ppgFrames = 2 ∧ s'.stats.accelSamples = 2 := by
  simp +decide only [run, drive, bootstrap, onboard, onboardCycles, publishFrame, calmTicks,
    publishAccel, terminate, publish, disconnect, spec_bind, spec_get, spec_say, spec_attempt,
    spec_abort, spec_advance, spec_ite, spec_draw, spec_onLink, spec_count, spec_sleep, spec_pure,
    spec_fail, start, twoShortCycles, midCycleFault, Transport.publish, Scripted.publish,
    Scripted.publishOutcome, Transport.disconnect, Scripted.disconnect, Settings.frameLen, mul32,
    word32, Phase.advance?, Stats.get, Stats.set, beq_iff_eq, reduceCtorEq, Except.mapError,
    ↓reduceIte, Nat.zero_add, Nat.reduceAdd, Nat.reduceMul]

/-- A device to onboard on `midCycleFault` publishes two frames and two samples, and then its
    second cycle's second sample is refused: the run returns that failure with its counters
    matching the publishes that went through. -/
theorem run_counts_calls_midCycleFault :
    ∃ s', (run ⟨false, none⟩ : Step Scripted Stats).run'
        (start twoShortCycles midCycleFault (Random.Source.ofWords []) false) =
          .ok (.error (.link (.publish (Channel.topic "HELMET001" .accel) "injected")), s') ∧
      s'.stats.ppgFrames = 2 ∧ s'.stats.accelSamples = 2 ∧
      ∃ E, Recorded midCycleFault s'.link E ∧
        s'.stats.ppgFrames = E.countP (Exchange.publishedOn .telemetry) ∧
        s'.stats.accelSamples = E.countP (Exchange.publishedOn .accel) ∧
        s'.stats.baselinePublishes = E.countP (Exchange.publishedOn .baseline) ∧
        s'.stats.commandsReceived = E.countP Exchange.arrived ∧
        s'.stats.Balanced 2 := by
  obtain ⟨r, s', h, rfl, hf, ha⟩ := midCycleFault_run.ends
  exact ⟨s', h, hf, ha, run_counts_calls _ _ _ _ _ h⟩

end SmartHelmet.Session
