import SmartHelmet.Proofs.Session.Ledger
/-!
# Sessions on any link

On a link that may fail any publish, receive or release, each step of a session is stated once
(`Step.Spec` with the aborts `Settings.Risks` of its settings): it records exchanges that end
as the step does, counts exactly the calls that went through, and keeps the counters of
frames, samples and cycles in step with each other.

* streaming steps, from `publishFrame` up to the phases: a `Went` step that counts no cycle
  (`Stats.Grew`) or, over whole cycles, keeps the counters `Stats.Whole` when it succeeds and
  `Stats.Balanced` when a call fails part way;
* `drain_until_empty` — a poll stops at a receive that brought nothing: the fuel it is given
  exceeds the link's backlog, which every message received uses up;
* `bootstrap`, `drive` — the phase steps taken on the way, each legal, none of them terminal;
* `terminate`, `run` — the release comes last and once, and the run reports the drive's
  failure before the release's.
-/

namespace SmartHelmet.Session

open SmartHelmet.Link
open SmartHelmet.Clock

variable {τ : Type} [Transport τ]

/-! ## Publishing -/

/-- **A PPG frame** is one acknowledged publish; it counts one frame when the publish went
    through and nothing when it failed. -/
theorem publishFrame_went (s : Session τ) (heartRate : Float) (loc : GeoPoint) :
    (publishFrame heartRate loc : Step τ Unit).Spec s s.settings.Risks fun r s' =>
      ∃ E f, Went s s' r E ∧ s.stats.Grew s'.stats f 0 ∧ f ≤ 1 ∧ (r.isOk → f = 1) := by
  simp only [publishFrame, spec_bind, spec_get]
  refine spec_frameLen_risks fun _ => ?_
  simp only [spec_draw]
  refine spec_publish fun res t' hrec => ?_
  cases res with
  | error e =>
    exact ⟨_, 0, ⟨hrec, Stopped.publish _ _ _ _, Accounts.publish_error _ _ _ _,
      ⟨rfl, rfl, rfl, rfl⟩⟩, Stats.Grew.refl _, Nat.zero_le 1, fun h => absurd h Bool.false_ne_true⟩
  | ok =>
    refine spec_count_risks _ fun _ => ?_
    exact ⟨_, 1, ⟨hrec, Stopped.publish _ _ _ _, Accounts.frame _ _, ⟨rfl, rfl, rfl, rfl⟩⟩,
      ⟨rfl, rfl, rfl, rfl, rfl, rfl⟩, Nat.le_refl 1, fun _ => rfl⟩

/-- **An accelerometer sample** is one unacknowledged publish; it counts one sample when the
    publish went through. -/
theorem publishAccel_went (s : Session τ) (crash : Bool) (loc : GeoPoint) :
    (publishAccel crash loc : Step τ Signal.Accel).Spec s s.settings.Risks fun r s' =>
      ∃ E a, Went s s' r E ∧ s.stats.Grew s'.stats 0 a ∧ a ≤ 1 ∧ (r.isOk → a = 1) := by
  simp only [publishAccel, spec_bind, spec_get, spec_draw]
  refine spec_publish fun res t' hrec => ?_
  cases res with
  | error e =>
    exact ⟨_, 0, ⟨hrec, (Stopped.publish _ _ _ _).retype, Accounts.publish_error _ _ _ _,
      ⟨rfl, rfl, rfl, rfl⟩⟩, Stats.Grew.refl _, Nat.zero_le 1, fun h => absurd h Bool.false_ne_true⟩
  | ok =>
    refine spec_count_risks _ fun _ => ?_
    simp only [spec_say, spec_pure]
    exact ⟨_, 1, ⟨hrec, (Stopped.publish _ _ _ _).retype_ok, Accounts.sample _ _,
      ⟨rfl, rfl, rfl, rfl⟩⟩, ⟨rfl, rfl, rfl, rfl, rfl, rfl⟩, Nat.le_refl 1, fun _ => rfl⟩

/-- **The baseline** is one acknowledged publish; it counts one baseline when it went through. -/
theorem publishBaseline_went (s : Session τ) :
    (publishBaseline : Step τ Unit).Spec s s.settings.Risks fun r s' =>
      ∃ E, Went s s' r E ∧ s.stats.Grew s'.stats 0 0 := by
  simp only [publishBaseline, spec_bind, spec_get]
  refine spec_publish fun res t' hrec => ?_
  cases res with
  | error e =>
    exact ⟨_, ⟨hrec, Stopped.publish _ _ _ _, Accounts.publish_error _ _ _ _, ⟨rfl, rfl, rfl, rfl⟩⟩,
      Stats.Grew.refl _⟩
  | ok =>
    refine spec_count_risks _ fun _ => ?_
    simp only [spec_say]
    exact ⟨_, ⟨hrec, Stopped.publish _ _ _ _, Accounts.baseline _ _, ⟨rfl, rfl, rfl, rfl⟩⟩,
      ⟨rfl, rfl, rfl, rfl, rfl, rfl⟩⟩

/-! ## Draining commands -/

/-- **A drain on any link** receives until a receive brings nothing, fails or the fuel is out,
    and counts each command that arrived. -/
theorem drain_went (fuel : Nat) (wait : Millis) (s : Session τ) :
    (drain fuel wait : Step τ Unit).Spec s s.settings.Risks fun r s' =>
      ∃ E, Went s s' r E ∧ s.stats.Grew s'.stats 0 0 := by
  induction fuel generalizing wait s with
  | zero => exact ⟨[], Went.refl s (), Stats.Grew.refl _⟩
  | succ fuel ih =>
    simp only [drain, spec_bind]
    refine spec_receive fun res t' hrec => ?_
    cases res with
    | error e =>
      exact ⟨_, ⟨hrec, (Stopped.receive _ _).retype, Accounts.receive_quiet _ rfl,
        ⟨rfl, rfl, rfl, rfl⟩⟩, Stats.Grew.refl _⟩
    | ok m =>
      cases m with
      | none =>
        simp only [Except.mapError, spec_pure]
        exact ⟨_, ⟨hrec, (Stopped.receive wait (.ok none)).retype_ok, Accounts.receive_quiet _ rfl,
          ⟨rfl, rfl, rfl, rfl⟩⟩, Stats.Grew.refl _⟩
      | some raw =>
        simp only [Except.mapError, spec_bind, spec_say]
        refine spec_count_risks _ fun _ => ?_
        simp only [spec_keep, spec_modify]
        refine (ih 0 _).mono ?_
        rintro r s' ⟨E, hw, hg⟩
        -- the receive and its count go before the rest of the drain; a command is no frame,
        -- sample or cycle
        exact ⟨_, ⟨hrec.trans hw.recorded,
          (Stopped.receive wait (.ok (some raw))).append hw.stopped,
          (Accounts.command _ _).trans hw.accounts, hw.steady⟩,
          ⟨hg.frames, hg.samples, hg.onboarding, hg.operating, hg.drowsy, hg.crash⟩⟩

/-- Polling is a drain. -/
theorem pollCommands_went (s : Session τ) :
    (pollCommands : Step τ Unit).Spec s s.settings.Risks fun r s' =>
      ∃ E, Went s s' r E ∧ s.stats.Grew s'.stats 0 0 := by
  simp only [pollCommands, spec_bind, spec_get]
  exact drain_went _ _ s

/-- **A drain stops at an empty receive**: each message received uses up backlog, so with more
    tries than the link's backlog a drain that returns ends on a receive that brought nothing,
    never for want of tries. -/
theorem drain_until_empty (fuel : Nat) (wait : Millis) (s : Session τ)
    (h : Transport.backlog s.link < fuel) :
    (drain fuel wait : Step τ Unit).Spec s s.settings.Risks fun r s' =>
      r.isOk → ∃ E w, Recorded s.link s'.link (E ++ [.receive w (.ok none)]) := by
  induction fuel generalizing wait s with
  | zero => exact absurd h (Nat.not_lt_zero _)
  | succ fuel ih =>
    simp only [drain, spec_bind, receive, spec_onLink]
    have hrec := recorded_receive wait s.link
    have hless := Transport.backlog_receive wait s.link
    rcases hres : (Transport.receive wait s.link).1 with e | _ | raw
    · exact fun h => absurd h Bool.false_ne_true
    · intro _
      exact ⟨[], wait, by simpa [hres] using hrec⟩
    · simp only [Except.mapError, spec_bind, spec_say]
      refine spec_count_risks _ fun _ => ?_
      simp only [spec_keep, spec_modify]
      -- the message used up backlog, so the tries left still exceed it
      have hlt : Transport.backlog (Transport.receive wait s.link).2 < fuel := by
        have := hless raw hres
        omega
      refine (ih 0 _ hlt).mono ?_
      rintro r s' hr hok
      obtain ⟨E, w, hE⟩ := hr hok
      exact ⟨_ :: E, w, by simpa [hres] using hrec.trans hE⟩

/-- **Polling stops at an empty receive**: it tries once more than the link's backlog. -/
theorem pollCommands_until_empty (s : Session τ) :
    (pollCommands : Step τ Unit).Spec s s.settings.Risks fun r s' =>
      r.isOk → ∃ E w, Recorded s.link s'.link (E ++ [.receive w (.ok none)]) := by
  simp only [pollCommands, spec_bind, spec_get]
  exact drain_until_empty _ _ s (Nat.lt_succ_self _)

/-! ## Ticks -/

/-- **The calm ticks of an onboarding frame** count a sample for each publish that went through,
    all `n` of them when none failed. -/
theorem calmTicks_went (loc : GeoPoint) (n : Nat) (s : Session τ) :
    (calmTicks loc n : Step τ Unit).Spec s s.settings.Risks fun r s' =>
      ∃ E a, Went s s' r E ∧ s.stats.Grew s'.stats 0 a ∧ a ≤ n ∧ (r.isOk → a = n) := by
  induction n generalizing s with
  | zero => exact ⟨[], 0, Went.refl s (), Stats.Grew.refl _, Nat.le_refl 0, fun _ => rfl⟩
  | succ n ih =>
    simp only [calmTicks, spec_bind]
    refine (publishAccel_went s false loc).mono ?_
    rintro r s₁ ⟨E₁, a₁, hw₁, hg₁, ha₁, hok₁⟩
    cases r with
    | error e => exact ⟨E₁, a₁, hw₁.retype, hg₁, by omega, fun h => absurd h Bool.false_ne_true⟩
    | ok =>
      have h₁ : a₁ = 1 := hok₁ rfl
      simp only [spec_get, spec_sleep]
      refine ((ih _).weaken (by exact hw₁.risks)).mono ?_
      rintro r s' ⟨E₂, a₂, hw₂, hg₂, ha₂, hok₂⟩
      exact ⟨E₁ ++ E₂, a₁ + a₂,
        hw₁.trans (hw₂.from_quiet rfl (Accounts.refl _) ⟨rfl, rfl, rfl, rfl⟩), hg₁.trans hg₂,
        by omega, fun h => by rw [hok₂ h]; omega⟩

/-- **The ticks of an operating cycle** each publish a sample and poll for commands; they count a
    sample for each publish that went through, all `left` of them when no call failed. -/
theorem operatingTicks_went (plan : Plan) (left tick : Nat) (s : Session τ) :
    (operatingTicks plan left tick : Step τ Unit).Spec s s.settings.Risks fun r s' =>
      ∃ E a, Went s s' r E ∧ s.stats.Grew s'.stats 0 a ∧ a ≤ left ∧ (r.isOk → a = left) := by
  induction left generalizing tick s with
  | zero => exact ⟨[], 0, Went.refl s (), Stats.Grew.refl _, Nat.le_refl 0, fun _ => rfl⟩
  | succ left ih =>
    simp only [operatingTicks, spec_bind]
    refine (publishAccel_went s _ plan.location).mono ?_
    rintro r s₁ ⟨E₁, a₁, hw₁, hg₁, ha₁, hok₁⟩
    cases r with
    | error e => exact ⟨E₁, a₁, hw₁.retype, hg₁, by omega, fun h => absurd h Bool.false_ne_true⟩
    | ok =>
      have h₁ : a₁ = 1 := hok₁ rfl
      dsimp only
      -- the crash warning only adds a log line, so both branches go on alike
      split
      all_goals
        simp only [spec_bind, spec_say]
        refine ((pollCommands_went _).weaken (by exact hw₁.risks)).mono ?_
        rintro r s₂ ⟨E₂, hw₂, hg₂⟩
        have hw₁₂ := hw₁.trans (hw₂.from_quiet rfl (Accounts.refl _) ⟨rfl, rfl, rfl, rfl⟩)
        have hg₁₂ := hg₁.trans hg₂
        cases r with
        | error e => exact ⟨_, a₁, hw₁₂, hg₁₂, by omega, fun h => absurd h Bool.false_ne_true⟩
        | ok =>
          simp only [spec_get, spec_sleep]
          refine ((ih _ _).weaken (by exact hw₁₂.risks)).mono ?_
          rintro r s' ⟨E₃, a₃, hw₃, hg₃, ha₃, hok₃⟩
          exact ⟨_, a₁ + a₃, hw₁₂.trans (hw₃.from_quiet rfl (Accounts.refl _) ⟨rfl, rfl, rfl, rfl⟩),
            hg₁₂.trans hg₃, by omega, fun h => by rw [hok₃ h]; omega⟩

/-! ## Cycles -/

/-- **An operating cycle** publishes its frame, runs its ticks and counts itself. From the end of
    a cycle the counters stay balanced whichever call fails, and reach the end of the next cycle
    when none does. -/
theorem operatingCycle_went {k : Nat} (cycle : Nat) (plan : Plan) (s : Session τ)
    (hk : s.settings.ticksPerFrame = k) (hw : s.stats.Whole k) :
    (operatingCycle cycle plan : Step τ Unit).Spec s s.settings.Risks fun r s' =>
      ∃ E, Went s s' r E ∧ s'.stats.Balanced k ∧ (r.isOk → s'.stats.Whole k) := by
  simp only [operatingCycle, spec_bind, spec_get]
  refine (publishFrame_went s _ _).mono ?_
  rintro r s₁ ⟨E₁, f, hw₁, hg₁, hf, hok₁⟩
  cases r with
  | error e => exact ⟨E₁, hw₁, hw.balanced hg₁ hf (Nat.zero_le _), fun h => absurd h Bool.false_ne_true⟩
  | ok =>
    obtain rfl : f = 1 := hok₁ rfl
    simp only [spec_say]
    refine ((operatingTicks_went plan _ 0 _).weaken (by exact hw₁.risks)).mono ?_
    rintro r s₂ ⟨E₂, a, hw₂, hg₂, ha, hok₂⟩
    have hw₁₂ := hw₁.trans (hw₂.from_quiet rfl (Accounts.refl _) ⟨rfl, rfl, rfl, rfl⟩)
    cases r with
    | error e => exact ⟨_, hw₁₂, hw.balanced (hg₁.trans hg₂) (Nat.le_refl _) (by omega), fun h => absurd h Bool.false_ne_true⟩
    | ok =>
      have hg₁₂ : s.stats.Grew s₂.stats 1 k := by simpa [hok₂ rfl, hk] using hg₁.trans hg₂
      -- the cycle is counted, as drowsy and as crashing when the plan says so; every path ends
      -- alike, the alert only picking the closing log line
      refine spec_count_risks _ fun _ => ?_
      simp only [spec_ite, spec_bind, spec_get]
      split <;> (try refine spec_count_risks _ fun _ => ?_) <;> (try dsimp only) <;>
        split <;> (try refine spec_count_risks _ fun _ => ?_) <;> (try dsimp only) <;>
        split <;> simp only [spec_say] <;>
        refine ⟨_, hw₁₂.to_quiet rfl ⟨rfl, rfl, rfl, rfl⟩ ⟨rfl, rfl, rfl, rfl⟩,
          Stats.Whole.balanced_self ?_, fun _ => ?_⟩ <;>
        exact hw.operated hg₁₂ rfl rfl rfl rfl (by simp [Stats.get, Stats.set])
          (by simp [Stats.get, Stats.set])

/-- **The operating cycles**, each drawing its plan and running it: from the end of a cycle the
    counters stay balanced whichever call fails, and every cycle completes when none does. -/
theorem operateCycles_went {k : Nat} (left cycle : Nat) (s : Session τ)
    (hk : s.settings.ticksPerFrame = k) (hw : s.stats.Whole k) :
    (operateCycles left cycle : Step τ Unit).Spec s s.settings.Risks fun r s' =>
      ∃ E, Went s s' r E ∧ s'.stats.Balanced k ∧ (r.isOk → s'.stats.Whole k) := by
  induction left generalizing cycle s with
  | zero => exact ⟨[], Went.refl s (), hw.balanced_self, fun _ => hw⟩
  | succ left ih =>
    simp only [operateCycles, spec_bind, spec_get, spec_drawOrAbort]
    -- a plan that cannot be drawn comes of settings a run cannot rely on
    cases hp : s.settings.plan s.source with
    | error a => exact Settings.risks_of_plan hp a
    | ok p =>
      dsimp only
      refine (operatingCycle_went cycle p.1 _ (by exact hk) (by exact hw)).mono ?_
      rintro r s₁ ⟨E₁, hw₁, hb₁, hok₁⟩
      have hw₁' : Went s s₁ r E₁ := hw₁.from_quiet rfl (Accounts.refl _) ⟨rfl, rfl, rfl, rfl⟩
      cases r with
      | error e => exact ⟨E₁, hw₁', hb₁, fun h => absurd h Bool.false_ne_true⟩
      | ok =>
        refine ((ih _ s₁ (hw₁'.steady.1 ▸ hk) (hok₁ rfl)).weaken (by exact hw₁'.risks)).mono ?_
        rintro r s' ⟨E₂, hw₂, hb₂, hok₂⟩
        exact ⟨_, hw₁'.trans hw₂, hb₂, hok₂⟩

/-- **The onboarding cycles**, each streaming a resting frame and its calm ticks: from the end of
    a cycle the counters stay balanced whichever publish fails, and every cycle completes when
    none does. -/
theorem onboardCycles_went {k : Nat} (left cycle : Nat) (s : Session τ)
    (hk : s.settings.ticksPerFrame = k) (hw : s.stats.Whole k) :
    (onboardCycles left cycle : Step τ Unit).Spec s s.settings.Risks fun r s' =>
      ∃ E, Went s s' r E ∧ s'.stats.Balanced k ∧ (r.isOk → s'.stats.Whole k) := by
  induction left generalizing cycle s with
  | zero => exact ⟨[], Went.refl s (), hw.balanced_self, fun _ => hw⟩
  | succ left ih =>
    simp only [onboardCycles, spec_bind, spec_get, spec_draw]
    refine (publishFrame_went _ _ _).mono ?_
    rintro r s₁ ⟨E₁, f, hw₁, hg₁, hf, hok₁⟩
    have hw₁' : Went s s₁ r E₁ := hw₁.from_quiet rfl (Accounts.refl _) ⟨rfl, rfl, rfl, rfl⟩
    cases r with
    | error e => exact ⟨E₁, hw₁', hw.balanced hg₁ hf (Nat.zero_le _), fun h => absurd h Bool.false_ne_true⟩
    | ok =>
      obtain rfl : f = 1 := hok₁ rfl
      refine ((calmTicks_went _ _ _).weaken (by exact hw₁'.risks)).mono ?_
      rintro r s₂ ⟨E₂, a, hw₂, hg₂, ha, hok₂⟩
      have hw₁₂ := hw₁'.trans hw₂
      cases r with
      | error e => exact ⟨_, hw₁₂, hw.balanced (hg₁.trans hg₂) (Nat.le_refl _) (by omega), fun h => absurd h Bool.false_ne_true⟩
      | ok =>
        have hg₁₂ : s.stats.Grew s₂.stats 1 k := by simpa [hok₂ rfl, hk] using hg₁.trans hg₂
        -- the cycle is counted and its frame length logged, then the next cycles run
        refine spec_count_risks _ fun _ => ?_
        refine spec_frameLen_risks fun _ => ?_
        simp only [spec_say]
        refine ((ih _ _ (hw₁₂.steady.1 ▸ hk) (hw.onboarded hg₁₂)).weaken
          (by exact hw₁₂.risks)).mono ?_
        rintro r s' ⟨E₃, hw₃, hb₃, hok₃⟩
        exact ⟨_, hw₁₂.trans (hw₃.from_quiet rfl ⟨rfl, rfl, rfl, rfl⟩ ⟨rfl, rfl, rfl, rfl⟩), hb₃,
          hok₃⟩

/-! ## Phases -/

/-- **The onboarding phase** runs every onboarding cycle, then pauses. -/
theorem onboard_went {k : Nat} (s : Session τ) (hk : s.settings.ticksPerFrame = k)
    (hw : s.stats.Whole k) :
    (onboard : Step τ Unit).Spec s s.settings.Risks fun r s' =>
      ∃ E, Went s s' r E ∧ s'.stats.Balanced k ∧ (r.isOk → s'.stats.Whole k) := by
  simp only [onboard, spec_bind, spec_say, spec_get]
  refine (onboardCycles_went _ 1 _ (by exact hk) (by exact hw)).mono ?_
  rintro r s' ⟨E, hw', hb, hok⟩
  have hw'' : Went s s' r E := hw'.from_quiet rfl (Accounts.refl _) ⟨rfl, rfl, rfl, rfl⟩
  cases r with
  | error e => exact ⟨E, hw'', hb, fun h => absurd h Bool.false_ne_true⟩
  | ok =>
    simp only [spec_sleep]
    exact ⟨E, hw''.to_quiet rfl (Accounts.refl _) ⟨rfl, rfl, rfl, rfl⟩, hb, hok⟩

/-- **The operating phase** runs every operating cycle. -/
theorem operate_went {k : Nat} (s : Session τ) (hk : s.settings.ticksPerFrame = k)
    (hw : s.stats.Whole k) :
    (operate : Step τ Unit).Spec s s.settings.Risks fun r s' =>
      ∃ E, Went s s' r E ∧ s'.stats.Balanced k ∧ (r.isOk → s'.stats.Whole k) := by
  simp only [operate, spec_bind, spec_say, spec_get]
  refine (operateCycles_went _ 1 _ (by exact hk) (by exact hw)).mono ?_
  rintro r s' ⟨E, hw', hb, hok⟩
  have hw'' : Went s s' r E := hw'.from_quiet rfl (Accounts.refl _) ⟨rfl, rfl, rfl, rfl⟩
  cases r with
  | error e => exact ⟨E, hw'', hb, fun h => absurd h Bool.false_ne_true⟩
  | ok => exact ⟨E, hw''.to_quiet rfl (Accounts.refl _) ⟨rfl, rfl, rfl, rfl⟩, hb, hok⟩

/-! ## Starting and ending -/

/-- **Bootstrap on any link** steps a device that is not onboarded to onboarding, and an onboarded
    one to operating after publishing its stored baseline, if it has one; a failed publish stops it
    before its phase step. It counts no frame, sample or cycle. -/
theorem bootstrap_went {k : Nat} (status : DeviceStatus) (s : Session τ)
    (hphase : s.phase = .bootstrapping) (hhist : .terminated ∉ s.history) (hw : s.stats.Whole k) :
    (bootstrap status : Step τ Unit).Spec s s.settings.Risks fun r s' =>
      ∃ E, Moved s s' r E ∧ s'.stats.Whole k ∧ (r.isOk → s'.phase = startPhase status) := by
  have hlive : Moved s s (.ok ()) [] :=
    ⟨Recorded.refl _, Stopped.nil (), Accounts.refl _, rfl, by simp [hphase], hhist⟩
  simp only [bootstrap, spec_bind, spec_get]
  rcases status with ⟨_ | _, _ | b⟩
  case false.none | false.some =>
    -- not onboarded: the onboarding time is computed, then the phase steps
    simp only [Bool.not_false, if_true, spec_bind, spec_abort, mul32]
    by_cases hN : s.settings.onboardingCycles * s.settings.windowSecs < word32
    · simp only [hN, if_true, spec_say, spec_advance, hphase, Phase.advance?, Phase.legal]
      exact ⟨[], hlive.advance (by decide) _, hw, fun _ => rfl⟩
    · simp only [hN, if_false]
      exact .inr fun h => hN h.onboarding_fits
  case true.none =>
    simp only [Bool.not_true, Bool.false_eq_true, if_false, spec_bind, spec_say, spec_advance,
      hphase, Phase.advance?, Phase.legal, if_true]
    exact ⟨[], hlive.advance (by decide) _, hw, fun _ => rfl⟩
  case true.some =>
    -- the stored baseline is loaded, then published
    simp only [Bool.not_true, Bool.false_eq_true, if_false, spec_bind, spec_say, spec_modify]
    refine (publishBaseline_went _).mono ?_
    rintro r s₁ ⟨E, hw₁, hg₁⟩
    -- loading the baseline moves the session on as the publish does
    have hm : Moved s s₁ r E := ⟨hw₁.recorded, hw₁.stopped, hw₁.accounts, hw₁.steady.1,
      by rw [hw₁.steady.2.1, hphase]; decide, by rw [hw₁.steady.2.2.1]; exact hhist⟩
    cases r with
    | error e => exact ⟨E, hm, hw.of_grew hg₁, fun h => absurd h Bool.false_ne_true⟩
    | ok =>
      have hph : s₁.phase = .bootstrapping := hw₁.steady.2.1.trans hphase
      simp only [spec_advance, hph, Phase.advance?, Phase.legal, if_true]
      exact ⟨E, hm.advance (by decide) _, hw.of_grew hg₁, fun _ => rfl⟩

/-- **Driving on any link**: bootstrap, the onboarding phase when the device needs it, then the
    operating phase. The session moves on short of terminated, and its counters stay balanced
    whichever call fails. -/
theorem drive_went {k : Nat} (status : DeviceStatus) (s : Session τ)
    (hphase : s.phase = .bootstrapping) (hhist : .terminated ∉ s.history)
    (hk : s.settings.ticksPerFrame = k) (hw : s.stats.Whole k) :
    (drive status : Step τ Unit).Spec s s.settings.Risks fun r s' =>
      ∃ E, Moved s s' r E ∧ s'.stats.Balanced k := by
  simp only [drive, spec_bind]
  refine (bootstrap_went status s hphase hhist hw).mono ?_
  rintro r s₁ ⟨E₁, hm₁, hw₁, hok₁⟩
  cases r with
  | error e => exact ⟨E₁, hm₁, hw₁.balanced_self⟩
  | ok =>
    have hph : s₁.phase = startPhase status := hok₁ rfl
    have hk₁ : s₁.settings.ticksPerFrame = k := hm₁.settings ▸ hk
    simp only [spec_get, spec_ite, spec_bind]
    rcases status with ⟨_ | _, baseline⟩
    · -- not onboarded: onboard, then step to operating
      simp only [startPhase, Bool.false_eq_true, if_false] at hph
      simp only [hph, beq_self_eq_true, if_true]
      refine ((onboard_went s₁ hk₁ hw₁).weaken (by exact hm₁.risks)).mono ?_
      rintro r s₂ ⟨E₂, hw₂, hb₂, hok₂⟩
      have hm₂ := hm₁.went hw₂
      cases r with
      | error e => exact ⟨_, hm₂, hb₂⟩
      | ok =>
        have hph₂ : s₂.phase = .onboarding := hw₂.steady.2.1.trans hph
        simp only [spec_advance, hph₂, Phase.advance?, Phase.legal, if_true]
        refine ((operate_went _ (by exact hw₂.steady.1 ▸ hk₁) (by exact hok₂ rfl)).weaken
          (by exact hm₂.risks)).mono ?_
        rintro r s' ⟨E₃, hw₃, hb₃, -⟩
        exact ⟨_, (hm₂.advance (by decide) _).went hw₃, hb₃⟩
    · -- onboarded: straight to operating
      simp only [startPhase, if_true] at hph
      simp only [hph]
      refine ((operate_went s₁ hk₁ hw₁).weaken (by exact hm₁.risks)).mono ?_
      rintro r s' ⟨E₂, hw₂, hb₂, -⟩
      exact ⟨_, hm₁.went hw₂, hb₂⟩

/-- **Ending a session on any link**: a session not yet terminated steps to terminated and
    releases its link once, whatever the link answers, and reports the release's failure. It
    never aborts. -/
theorem terminate_went (s : Session τ) (hphase : s.phase ≠ .terminated) :
    (terminate : Step τ Unit).Spec s (fun _ => False) fun r s' =>
      ∃ d, Recorded s.link s'.link [.disconnect d] ∧ r = d.mapError .link ∧
        s'.phase = .terminated ∧ s'.history = s.history ++ [.terminated] ∧
        s'.stats = s.stats ∧ s'.settings = s.settings := by
  have hb : (s.phase == .terminated) = false := by simpa using hphase
  simp only [terminate, spec_bind, spec_get, hb, Bool.false_eq_true, if_false, spec_advance,
    Phase.advance?_terminated hphase]
  refine spec_disconnect fun res t' hrec => ?_
  cases res with
  | error f => exact ⟨.error f, hrec, rfl, rfl, rfl, rfl, rfl⟩
  | ok =>
    simp only [Except.mapError, spec_say]
    exact ⟨.ok (), hrec, rfl, trivial, trivial, trivial, trivial⟩

/-! ## Runs -/

/-- **What a run returns**, from the drive's outcome `o` and the release's answer `d`: the drive's
    failure first, then the release's, and otherwise the counters. -/
def runOutcome (o : Except RunError Unit) (d : Except Failure Unit) (st : Stats) :
    Except RunError Stats :=
  match o, d with
  | .error e, _ => .error e
  | .ok _, .error f => .error (.link f)
  | .ok _, .ok _ => .ok st

/-- **A run that released its link** from `t`: every record of the link grew by the drive's
    exchanges `E`, which end as the drive's outcome `o` does and hold no release, then by one
    release, answered `d`; the run returns the drive's failure, else the release's, else its
    counters, and so only ever a link failure; and the session ended terminated, for the first
    time. -/
structure Released (t : τ) (r : Except RunError Stats) (s' : Session τ) (E : List Exchange)
    (o : Except RunError Unit) (d : Except Failure Unit) : Prop where
  recorded : Recorded t s'.link (E ++ [.disconnect d])
  stopped : Stopped E o
  unreleased : ∀ d', Exchange.disconnect d' ∉ E
  outcome : r = runOutcome o d s'.stats
  link_only : ∀ e, r = .error e → ∃ f, e = .link f
  terminated : s'.phase = .terminated
  history : ∃ h, s'.history = h ++ [.terminated] ∧ .terminated ∉ h

/-- A released run from its parts: exchanges that end as the drive did hold no release, and the
    run's failure is the drive's or the release's, both failures of the link. -/
theorem Released.intro {t : τ} {r : Except RunError Stats} {s' : Session τ} {E : List Exchange}
    {o : Except RunError Unit} {d : Except Failure Unit}
    (hrec : Recorded t s'.link (E ++ [.disconnect d])) (hstop : Stopped E o)
    (hr : r = runOutcome o d s'.stats) (hph : s'.phase = .terminated)
    (hh : ∃ h, s'.history = h ++ [.terminated] ∧ .terminated ∉ h) : Released t r s' E o d := by
  refine ⟨hrec, hstop, hstop.no_disconnect, hr, ?_, hph, hh⟩
  intro e he
  subst hr
  rcases o with e' | _
  · cases he
    exact hstop.link_failure
  · rcases d with f | _ <;> cases he
    exact ⟨f, rfl⟩

/-- **A run on any link** drives until the first failed call, then releases its link once, and
    returns the drive's failure, else the release's, else its counters; it ends terminated, for
    the first time, with counters that account for every call that went through and stay
    balanced. It aborts only as its settings risk. -/
theorem run_went {k : Nat} (status : DeviceStatus) (s : Session τ)
    (hphase : s.phase = .bootstrapping) (hhist : .terminated ∉ s.history)
    (hk : s.settings.ticksPerFrame = k) (hw : s.stats.Whole k) :
    (run status : Step τ Stats).Spec s s.settings.Risks fun r s' =>
      ∃ E o d, Released s.link r s' E o d ∧ Accounts s.stats s'.stats (E ++ [.disconnect d]) ∧
        s'.stats.Balanced k := by
  simp only [run, spec_bind, spec_get, spec_say, spec_attempt]
  refine (drive_went status _ (by exact hphase) (by exact hhist) (by exact hk)
    (by exact hw)).mono ?_
  rintro o s₁ ⟨E, hm, hb⟩
  refine ((terminate_went s₁ hm.phase).weaken fun _ h => h.elim).mono ?_
  rintro r₂ s₂ ⟨d, hrec, rfl, hph, hhist₂, hst, -⟩
  have hacc : Accounts s.stats s₂.stats (E ++ [.disconnect d]) :=
    hst ▸ hm.accounts.trans (Accounts.disconnect d)
  rw [← hst] at hb
  -- the drive's failure comes first, then the release's; the summary only logs
  rcases o with e | _ <;> rcases d with f | _ <;>
    simp only [Except.mapError, spec_fail, spec_bind, spec_get, spec_say, spec_pure] <;>
    exact ⟨E, _, _, Released.intro (hm.recorded.trans hrec) hm.stopped rfl hph
      ⟨_, hhist₂, hm.history⟩, hacc, hb⟩

end SmartHelmet.Session
