import SmartHelmet.Proofs.Session.Lifecycle
/-!
# Running a terminated session again

`run` does not look at the phase before it starts: a terminated session run again goes through
bootstrap like a fresh one, and only the phase step that bootstrap ends with is refused, since
nothing leaves terminated. What bootstrap does before that step still happens. A device that is
not onboarded first computes its onboarding time, which aborts when it leaves 32 bits; an
onboarded device loads its stored baseline, if it has one, and publishes it, counting the
publish when it goes through. The release that follows is skipped, the session being terminated
already.

* `DeviceStatus.published` — the baseline a bootstrap publishes: the stored one of an onboarded
  device;
* `rerunAborts`, `Rerun` — when such a run aborts, and how it ends otherwise: with the refused
  phase step or the failed publish, phase, history, alert, settings, random source and time as
  they were, and the link, baseline and counters as they were unless a baseline was published;
* `bootstrap_on_terminated`, `drive_on_terminated` — the steps of such a run;
* `terminated_run_only_republishes_baseline` — what a run does on any terminated session;
* `rerun_republishes_baseline` — an onboarded device with a stored baseline, run twice on an
  inbox, publishes its baseline twice.
-/

namespace SmartHelmet

/-- The baseline a bootstrap loads and publishes: the stored one of an onboarded device. -/
def DeviceStatus.published (status : DeviceStatus) : Option Baseline :=
  if status.onboarded then status.baseline else none

end SmartHelmet

namespace SmartHelmet.Session

open SmartHelmet.Link

variable {τ : Type} [Transport τ]

/-- The publish of the baseline `b` on the link of `s`: what the link answers, and the link after
    it. -/
def baselineSent (s : Session τ) (b : Baseline) : Except Failure Unit × τ :=
  Transport.publish .baseline .atLeastOnce (Payload.bytes (Payload.baseline b)) s.link

/-- **When a run on a terminated session `s` aborts**: a device that is not onboarded has an
    onboarding time past 32 bits, or a baseline publish goes through with its counter at the top
    of 32 bits. -/
def rerunAborts (s : Session τ) (status : DeviceStatus) : Prop :=
  match status.published with
  | none => status.onboarded = false ∧ word32 ≤ s.settings.onboardingCycles * s.settings.windowSecs
  | some b => (baselineSent s b).1.isOk = true ∧ word32 ≤ s.stats.baselinePublishes + 1

/-- **How a run on a terminated session `s` ends**, failing with `e` in the session `s'`: phase,
    history, alert, settings, random source and time stay as they were. With no baseline to
    publish, so do the link, the baseline and the counters, and the failure is the refused phase
    step. Otherwise the baseline is loaded and published once: a failed publish is the failure,
    and one that goes through is counted, then the phase step to operating is refused. -/
structure Rerun (s : Session τ) (status : DeviceStatus) (e : RunError) (s' : Session τ) : Prop where
  phase : s'.phase = s.phase
  history : s'.history = s.history
  alert : s'.alert = s.alert
  settings : s'.settings = s.settings
  source : s'.source = s.source
  elapsed : s'.elapsed = s.elapsed
  effect : match status.published with
    | none => s'.link = s.link ∧ s'.baseline = s.baseline ∧ s'.stats = s.stats ∧
        e = .illegalStep .terminated (startPhase status)
    | some b => s'.baseline = b ∧ s'.link = (baselineSent s b).2 ∧
        match (baselineSent s b).1 with
        | .error f => s'.stats = s.stats ∧ e = .link f
        | .ok _ => s'.stats = { s.stats with baselinePublishes := s.stats.baselinePublishes + 1 } ∧
            e = .illegalStep .terminated .operating

variable {s : Session τ}

/-- A rerun does not read the log it starts from. -/
theorem Rerun.of_logs {status : DeviceStatus} {e : RunError} {s' : Session τ}
    {logs : Array Log.Entry} (h : Rerun { s with logs } status e s') : Rerun s status e s' :=
  ⟨h.phase, h.history, h.alert, h.settings, h.source, h.elapsed, h.effect⟩

/-- **Bootstrap on a terminated session** takes every side step a fresh bootstrap takes, and then
    its phase step is refused. -/
theorem bootstrap_on_terminated (hs : s.phase = .terminated) (status : DeviceStatus) :
    (bootstrap status : Step τ Unit).Exact s (rerunAborts s status) fun r s' =>
      ∃ e, r = .error e ∧ Rerun s status e s' := by
  unfold Step.Exact
  rcases status with ⟨_ | _, _ | b⟩
  case false.none | false.some =>
    -- not onboarded: the onboarding time is computed, then the step to onboarding is refused
    simp only [bootstrap, spec_bind, spec_get, Bool.not_false, if_true, spec_abort, mul32]
    by_cases hN : s.settings.onboardingCycles * s.settings.windowSecs < word32
    · simp only [hN, if_true, spec_say, spec_advance, hs, Phase.advance?, Phase.legal]
      refine ⟨fun h => absurd hN (Nat.not_lt.2 h.2), _, rfl, ⟨hs.symm, rfl, rfl, rfl, rfl, rfl, ?_⟩⟩
      exact ⟨rfl, rfl, rfl, rfl⟩
    · simp only [hN, if_false]
      exact ⟨rfl, Nat.not_lt.1 hN⟩
  case true.none =>
    simp only [bootstrap, spec_bind, spec_get, Bool.not_true, Bool.false_eq_true, if_false,
      spec_say, spec_advance, hs, Phase.advance?, Phase.legal]
    refine ⟨fun h => ?_, _, rfl, ⟨hs.symm, rfl, rfl, rfl, rfl, rfl, ?_⟩⟩
    · cases h.1
    · exact ⟨rfl, rfl, rfl, rfl⟩
  case true.some =>
    -- the stored baseline is loaded and published; the publish decides what follows
    simp only [bootstrap, spec_bind, spec_get, Bool.not_true, Bool.false_eq_true, if_false,
      spec_say, spec_modify, publishBaseline, publish, spec_onLink]
    have hsent : Transport.publish .baseline .atLeastOnce (Payload.bytes (Payload.baseline b)) s.link =
        baselineSent s b := rfl
    rw [hsent]
    cases hres : (baselineSent s b).1 with
    | error f =>
      simp only [Except.mapError]
      refine ⟨fun h => ?_, _, rfl, ⟨rfl, rfl, rfl, rfl, rfl, rfl, ?_⟩⟩
      · have h := h.1
        simp [hres, Except.isOk, Except.toBool] at h
      · simp only [DeviceStatus.published, if_true, hres, and_self]
    | ok u =>
      simp only [Except.mapError, spec_count, Stats.get, Stats.set]
      split
      · next hlt =>
        simp only [spec_advance, hs, Phase.advance?, Phase.legal]
        refine ⟨fun h => absurd hlt (Nat.not_lt.2 h.2), _, rfl, ⟨hs.symm, rfl, rfl, rfl, rfl, rfl, ?_⟩⟩
        simp only [DeviceStatus.published, if_true, hres, and_self]
      · next hge =>
        exact ⟨by simp [hres, Except.isOk, Except.toBool], Nat.not_lt.1 hge⟩

/-- Drive fails as its bootstrap does. -/
theorem drive_on_terminated (hs : s.phase = .terminated) (status : DeviceStatus) :
    (drive status : Step τ Unit).Exact s (rerunAborts s status) fun r s' =>
      ∃ e, r = .error e ∧ Rerun s status e s' := by
  unfold drive Step.Exact
  rw [spec_bind]
  refine (bootstrap_on_terminated hs status).mono ?_
  rintro r s' ⟨hn, e, rfl, hr⟩
  exact ⟨hn, e, rfl, hr⟩

/-- Ending a session that is terminated already does nothing. -/
theorem terminate_of_terminated (hs : s.phase = .terminated) {stop : Abort → Prop}
    {Q : Except RunError Unit → Session τ → Prop} :
    (terminate : Step τ Unit).Spec s stop Q ↔ Q (.ok ()) s := by
  simp [terminate, hs]

theorem terminated_run_only_republishes_baseline (hs : s.phase = .terminated)
    (status : DeviceStatus) :
    (run status : Step τ Stats).Exact s (rerunAborts s status) fun r s' =>
      ∃ e, r = .error e ∧ Rerun s status e s' := by
  unfold Step.Exact run
  simp only [spec_bind, spec_get, spec_say, spec_attempt]
  refine (drive_on_terminated (by exact hs) status).mono ?_
  rintro r s' ⟨hn, e, rfl, hr⟩
  -- the session is still terminated, so the release is skipped and the failure returned
  simp only [terminate_of_terminated (hr.phase.trans hs), spec_bind, spec_fail]
  exact ⟨hn, e, rfl, hr.of_logs⟩

/-- An onboarded device with a stored baseline, under settings with no cycles, run once on an
    inbox and then once more from where it ended. -/
theorem terminated_run_only_republishes_baseline_inbox :
    ∃ s : Session Inbox,
      (run ⟨true, some {}⟩ : Step Inbox Stats).run'
          (start { onboardingCycles := 0, operatingCycles := 0 } { inbound := [] }
            (Random.Source.ofSeed 0) false) = .ok (.ok { baselinePublishes := 1 }, s) ∧
      s.phase = .terminated ∧
      (run ⟨true, some {}⟩ : Step Inbox Stats).Exact s (rerunAborts s ⟨true, some {}⟩)
        fun r s' => ∃ e, r = .error e ∧ Rerun s ⟨true, some {}⟩ e s' := by
  obtain ⟨s, hrun, hs⟩ : ∃ s, (run ⟨true, some {}⟩ : Step Inbox Stats).run'
      (start { onboardingCycles := 0, operatingCycles := 0 } { inbound := [] }
        (Random.Source.ofSeed 0) false) = .ok (.ok { baselinePublishes := 1 }, s) ∧
      s.phase = .terminated := ⟨_, rfl, rfl⟩
  exact ⟨s, hrun, hs, terminated_run_only_republishes_baseline hs _⟩

/-- **A second run is not inert**: the same device run again publishes its baseline a second
    time and counts it, before the refused step to operating. -/
theorem rerun_republishes_baseline :
    ∃ s₁ s₂ : Session Inbox,
      (run ⟨true, some {}⟩ : Step Inbox Stats).run'
          (start { onboardingCycles := 0, operatingCycles := 0 } { inbound := [] }
            (Random.Source.ofSeed 0) false) = .ok (.ok { baselinePublishes := 1 }, s₁) ∧
      s₁.phase = .terminated ∧
      (run ⟨true, some {}⟩ : Step Inbox Stats).run' s₁ =
        .ok (.error (.illegalStep .terminated .operating), s₂) ∧
      s₂.stats.baselinePublishes = s₁.stats.baselinePublishes + 1 ∧
      s₂.link.record.map Exchange.call =
        s₁.link.record.map Exchange.call ++ [.publish .baseline .atLeastOnce] :=
  ⟨_, _, rfl, rfl, rfl, rfl, rfl⟩

end SmartHelmet.Session
