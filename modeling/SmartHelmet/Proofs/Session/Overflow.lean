import SmartHelmet.Proofs.Session.Transcript
import SmartHelmet.Config.Lookup
import SmartHelmet.Proofs.Except
/-!
# Which accepted configurations abort a run

A configuration read from named values (`Config.ofLookup`) has a positive number of
accelerometer ticks a frame and both probabilities in `[0, 1]`, so the draws of its sessions
never abort. Its counts are free within 32 bits each, but their products and the counters they
add up to are not:

* `positive_pos`, `probability_mem` — what a successful read establishes;
  `ofLookup_drawable` — the session settings of an accepted configuration are drawable;
* `accepted_run_aborts_iff` — a fresh run of an accepted configuration on a quiet link aborts
  exactly when it overflows (`Overflows`): the onboarding time, the frame length, the
  accelerometer counter or the command counter leaves 32 bits;
* `manyCycles` — a billion onboarding cycles, accepted: with the default window of five
  seconds the onboarding time of a device that is not onboarded overflows at bootstrap.
-/

namespace SmartHelmet.Config

/-! ## Reading values -/

variable {lookup : Lookup} {key : String}

/-- A positive value read is positive. -/
theorem positive_pos {d n : Nat} (h : positive lookup key d = .ok n) : 0 < n := by
  simp only [positive, except_bind_eq_ok] at h
  obtain ⟨m, -, h⟩ := h
  split at h
  · simp [except_throw_eq_ok] at h
  · rename_i hm
    rw [except_pure_eq_ok] at h
    simp only [beq_iff_eq] at hm
    omega

/-- A probability read lies in `[0, 1]`. -/
theorem probability_mem {d p : Float} (h : probability lookup key d = .ok p) :
    0.0 ≤ p ∧ p ≤ 1.0 := by
  simp only [probability, except_bind_eq_ok] at h
  obtain ⟨q, -, h⟩ := h
  split at h
  · rename_i hq
    rw [except_pure_eq_ok] at h
    subst h
    simpa using hq
  · simp [except_throw_eq_ok] at h

/-- **An accepted configuration has drawable session settings**: its ticks per frame were read
    as positive and its probabilities as lying in `[0, 1]`. -/
theorem ofLookup_drawable {cfg : Config} (h : ofLookup lookup = .ok cfg) :
    cfg.session.Drawable := by
  simp only [ofLookup, except_bind_eq_ok, ite_eq_iff, except_throw_eq_ok, false_and, exists_false, and_false,
    false_or] at h
  -- the reads in order; only the ticks and the two probabilities matter here
  obtain ⟨-, -, _, -, -, _, -, _, -, _, -, _, -, _, -, _, -, _, -, K, hK, _, -, _, -, _, -,
    pd, hpd, pc, hpc, _, -, _, -, _, -, h⟩ := h
  cases h
  exact ⟨positive_pos hK, (probability_mem hpd).1, (probability_mem hpd).2,
    (probability_mem hpc).1, (probability_mem hpc).2⟩

end SmartHelmet.Config

namespace SmartHelmet.Session

open SmartHelmet.Link

variable {τ : Type} [Transport τ] {inbound : τ → List Bytes}

/-! ## Aborting runs -/

/-- **Which accepted configurations abort a run.** A fresh session of an accepted configuration
    on a quiet link, for any device status, random source and queue of commands, aborts exactly
    when the onboarding time of a device that is not onboarded, the frame length of a run that
    streams a frame, the accelerometer counter, or the command counter of a run with an
    operating cycle leaves 32 bits. -/
theorem accepted_run_aborts_iff {lookup : Config.Lookup} {cfg : Config}
    (h : Config.ofLookup lookup = .ok cfg) (hq : Quiet inbound) (status : DeviceStatus) (t : τ)
    (src : Random.Source) (verbose : Bool) :
    (∃ a, (run status : Step τ Stats).run' (start cfg.session t src verbose) = .error a) ↔
      Overflows cfg.session status (inbound t).length :=
  (run_exact hq status (start cfg.session t src verbose) rfl rfl
    (Config.ofLookup_drawable h)).aborts_iff

/-- A billion onboarding cycles, everything else unset. -/
def manyCycles : Config.Lookup := fun key =>
  if key = "ONBOARDING_CYCLES" then some "1000000000" else none

theorem ofLookup_manyCycles :
    Config.ofLookup manyCycles = .ok { session := { onboardingCycles := 1000000000 } } := by
  have htrim : Text.trim "1000000000" = "1000000000" := by decide
  have hread : Config.word32Value "1000000000" = some 1000000000 := by decide
  have hdrowsy : (0.0 : Float) ≤ 0.1 ∧ (0.1 : Float) ≤ 1.0 := by decide
  have hcrash : (0.0 : Float) ≤ 2e-2 ∧ (2e-2 : Float) ≤ 1.0 := by decide
  simp [Config.ofLookup, manyCycles, Config.text, Config.parsed, Config.positive,
    Config.probability, Config.seedValue, Config.leavesTopic, String.any, bind, Except.bind, pure,
    Except.pure, htrim, hread, hdrowsy, hcrash]

/-- An onboarded device with a billion onboarding cycles configured, which it skips. -/
theorem accepted_run_aborts_iff_onboarded :
    Config.ofLookup manyCycles = .ok { session := { onboardingCycles := 1000000000 } } ∧
      ((∃ a, (run ⟨true, none⟩ : Step Inbox Stats).run'
          (start { onboardingCycles := 1000000000 } { inbound := [] } (Random.Source.ofSeed 0)
            false) = .error a) ↔
        Overflows { onboardingCycles := 1000000000 } ⟨true, none⟩ 0) :=
  ⟨ofLookup_manyCycles, accepted_run_aborts_iff ofLookup_manyCycles Inbox.quiet ⟨true, none⟩
    { inbound := [] } (Random.Source.ofSeed 0) false⟩

/-- **A billion onboarding cycles abort a run**: they are accepted, and a device that is not
    onboarded aborts at bootstrap, five billion seconds of onboarding being past 32 bits. -/
theorem manyCycles_run_aborts :
    Config.ofLookup manyCycles = .ok { session := { onboardingCycles := 1000000000 } } ∧
      (run ⟨false, none⟩ : Step Inbox Stats).run'
          (start { onboardingCycles := 1000000000 } { inbound := [] } (Random.Source.ofSeed 0)
            false) = .error .mulOverflow :=
  ⟨ofLookup_manyCycles, rfl⟩

end SmartHelmet.Session
