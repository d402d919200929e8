import SmartHelmet.Proofs.Session.Emission
import SmartHelmet.Proofs.Session.Outcomes
/-!
# Impacts and drowsy frames

A run's crash and drowsy counters are meant to count what it streamed. On a link that never
fails, with a tick a frame and both probabilities in `[0, 1]`:

* `crashing_samples_eq_countP` — when every planned impact falls on a tick of its frame, the
  samples generated crashing over the operating cycles are as many as the crashing plans;
* `run_counts_streamed_impacts` — a fresh run returns just when it does not overflow, and then it
  has published the onboarding stream, all of whose samples are calm, and the operating stream,
  in which each cycle's samples carry its plan's crash flags: one crashing sample in a crashing
  cycle, none in the others. Its crash counter is the number of samples generated crashing, and
  its drowsy counter the number of operating frames synthesized below 65 beats a minute.
-/

namespace SmartHelmet.Session

open SmartHelmet.Link
open SmartHelmet.Random

/-- **Crashing samples are crashing cycles**: with every planned impact on a tick of its frame,
    the operating cycles generate one crashing sample per crashing plan. -/
theorem crashing_samples_eq_countP (k : Nat) (plans : List Plan)
    (h : ∀ p ∈ plans, ∀ t, p.crashTick = some t → t < k) :
    (plans.map fun p => (p.flags k 0).count true).sum = plans.countP (·.crashTick.isSome) := by
  induction plans with
  | nil => rfl
  | cons p plans ih =>
    rw [List.map_cons, List.sum_cons, List.countP_cons,
      Plan.count_flags p k (h p List.mem_cons_self),
      ih fun q hq => h q (List.mem_cons_of_mem p hq)]
    simp only [Nat.add_comm]

variable {τ : Type} [Transport τ] {inbound : τ → List Bytes}

/-- **A run counts the impacts and the drowsy frames it streamed.** On a quiet link, a fresh run
    with a tick a frame and both probabilities in `[0, 1]` aborts just when it overflows.
    Otherwise it returns its counters after publishing the stored baseline, the onboarding
    stream (calm samples only) and the operating stream of the plans it drew, each cycle's
    samples generated with its plan's crash flags. A crashing plan's impact falls on one of its
    frame's ticks, so each cycle has one crashing sample or none as its plan says; the crash
    counter is the number of crashing samples, and the drowsy counter the number of operating
    frames synthesized below 65 beats a minute. -/
theorem run_counts_streamed_impacts (hq : Quiet inbound) (cfg : Settings) (hdraw : cfg.Drawable)
    (status : DeviceStatus) (t : τ) (src : Source) (verbose : Bool) :
    (run status : Step τ Stats).Exact (start cfg t src verbose)
      (Overflows cfg status (inbound t).length) fun r s' => r = .ok s'.stats ∧
      ∃ plans P src', cfg.operatingStream cfg.operatingCycles (cfg.onboarded status src).2 =
          .ok (plans, P, src') ∧
        (∃ E, Recorded t s'.link E ∧
          publishes E = baselineExchanges status ++ (cfg.onboarded status src).1 ++ P) ∧
        (∀ p ∈ plans,
          (p.flags cfg.ticksPerFrame 0).count true = if p.crashTick.isSome then 1 else 0) ∧
        s'.stats.crashCycles = (plans.map fun p => (p.flags cfg.ticksPerFrame 0).count true).sum ∧
        s'.stats.drowsyCycles = plans.countP fun p => p.heartRate < 65.0 := by
  obtain ⟨hphase, hhist, hw⟩ := start_fresh cfg t src verbose
  refine Step.Spec.mono ((run_exact hq status _ hphase rfl hdraw).and
    (run_emitted hq status _ hphase hhist hw)) ?_
  rintro r s' ⟨hns, -, hr, plans, P, src', s₁, hstream, h, hrec, -, -, hstats⟩
  -- every plan was drawn, so its impact falls on a tick and its rate tells its drowsiness
  have hfacts : ∀ p ∈ plans, (p.heartRate < 65.0 ↔ p.drowsy = true) ∧
      ∀ t, p.crashTick = some t → t < cfg.ticksPerFrame := fun p hp => by
    obtain ⟨s₀, s₂, hdrawn⟩ := Settings.operatingStream_plans hstream p hp
    exact Settings.plan_facts hdrawn
  obtain ⟨E, hrecE, hpub, -⟩ := h.recorded
  refine ⟨hns, hr, plans, P, src', hstream, ⟨E ++ [.disconnect (.ok ())], hrecE.trans hrec, ?_⟩,
    fun p hp => Plan.count_flags p _ (hfacts p hp).2, ?_, ?_⟩
  · simpa [start] using hpub
  · rw [hstats, h.crash, crashing_samples_eq_countP _ _ fun p hp => (hfacts p hp).2]
    exact Nat.zero_add _
  · rw [hstats, h.drowsy, start, Nat.zero_add]
    exact List.countP_congr fun p hp => by simp [(hfacts p hp).1]

/-- A device that is not onboarded, with the default settings, a seeded source and two commands
    queued on an inbox. -/
theorem run_counts_streamed_impacts_inbox :
    Settings.Drawable {} ∧
      (run ⟨false, none⟩ : Step Inbox Stats).Exact
        (start {} { inbound := [[1], [2]] } (Source.ofSeed 0) false)
        (Overflows {} ⟨false, none⟩ (Inbox.inbound { inbound := [[1], [2]] }).length)
        fun r s' => r = .ok s'.stats ∧
        ∃ plans P src', Settings.operatingStream {} (Settings.operatingCycles {})
            (Settings.onboarded {} ⟨false, none⟩ (Source.ofSeed 0)).2 = .ok (plans, P, src') ∧
          (∃ E, Recorded ({ inbound := [[1], [2]] } : Inbox) s'.link E ∧
            publishes E = baselineExchanges ⟨false, none⟩ ++
              (Settings.onboarded {} ⟨false, none⟩ (Source.ofSeed 0)).1 ++ P) ∧
          (∀ p ∈ plans, (p.flags (Settings.ticksPerFrame {}) 0).count true =
            if p.crashTick.isSome then 1 else 0) ∧
          s'.stats.crashCycles =
            (plans.map fun p => (p.flags (Settings.ticksPerFrame {}) 0).count true).sum ∧
          s'.stats.drowsyCycles = plans.countP fun p => p.heartRate < 65.0 :=
  ⟨Settings.runnable_default.drawable,
    -- at reducible transparency, so that elaborating the guarantee of this concrete session does
    -- not set about evaluating its run
    by with_reducible
      exact run_counts_streamed_impacts Inbox.quiet {} Settings.runnable_default.drawable
        ⟨false, none⟩ { inbound := [[1], [2]] } (Source.ofSeed 0) false⟩

end SmartHelmet.Session
