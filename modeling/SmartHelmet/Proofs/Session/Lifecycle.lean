import SmartHelmet.Proofs.Session.Faults
import Mathlib.Data.List.Chain
/-!
# The lifecycle of a session

A session's phase only moves forward, bootstrapping, onboarding, operating, terminated, and its
history records each phase it enters. `advance` is the only step that writes either, and it
writes only a legal step; every other step leaves both alone. So whatever a caller does, runs
after runs, on any link, the history stays a legal path:

* `Phase.Path` — the histories a session can have, with the phase it is in: bootstrapping
  alone, then one legal step after another. A path starts with bootstrapping, ends in its phase,
  takes only steps `Phase.advance?` accepts, rises in the order of phases, and enters each
  device mode at most once, onboarding before operating;
* `Step.Still` — a step that leaves phase and history alone, as every streaming step does;
* `Step.KeepsPath` — a step after which the history is still a path, grown from the one before;
  `advance` keeps it, and so, one step after another, do `bootstrap`, `drive`, `terminate` and
  `run`;
* `Reached` — the sessions a caller reaches from a fresh one by runs, each returning its counters
  or a failure;
* `runs_follow_lifecycle` — every such session's history is a path to its phase, and a refused
  phase step changes nothing at all.
-/

namespace SmartHelmet.Session

/-! ## Legal paths through the phases -/

/-- Every legal step goes up in the order of phases. -/
theorem Phase.rank_lt_of_legal {p q : Phase} (h : Phase.legal p q = true) : p.rank < q.rank := by
  cases p <;> cases q <;> simp_all [Phase.legal, Phase.rank]

/-- A step is accepted exactly when it is legal. -/
theorem Phase.advance?_eq_some {p q : Phase} : Phase.advance? p q = some q ↔ Phase.legal p q = true := by
  unfold Phase.advance?
  split <;> simp_all

/-- The phases in the order of the lifecycle. -/
def Phase.all : List Phase := [.bootstrapping, .onboarding, .operating, .terminated]

/-- Each phase stands in `Phase.all` at its rank, followed by the phases above it. -/
theorem Phase.all_drop_rank (p : Phase) : Phase.all.drop p.rank = p :: Phase.all.drop (p.rank + 1) := by
  cases p <;> rfl

/-- **A list of phases rising in rank is a sublist of the lifecycle**: it enters each phase at
    most once, in order. Those of rank `n` and more come from the lifecycle's phases from `n` on. -/
theorem Phase.sublist_drop_of_rising {n : Nat} :
    ∀ {l : List Phase}, l.Pairwise (fun a b => a.rank < b.rank) → (∀ a ∈ l, n ≤ a.rank) →
      l.Sublist (Phase.all.drop n)
  | [], _, _ => List.nil_sublist _
  | a :: l, hl, hn => by
    obtain ⟨ha, hl⟩ := List.pairwise_cons.1 hl
    -- the rest comes from the phases above `a`, and `a` stands right before them
    have hrest : l.Sublist (Phase.all.drop (a.rank + 1)) :=
      Phase.sublist_drop_of_rising hl fun b hb => ha b hb
    have hcons : (a :: l).Sublist (Phase.all.drop a.rank) := by
      rw [Phase.all_drop_rank]
      exact hrest.cons_cons a
    exact hcons.trans (List.drop_sublist_drop_left _ (hn a List.mem_cons_self))

/-- **The histories a session can have**, with the phase it is in: bootstrapping alone, then
    legal steps one after another. -/
inductive Phase.Path : List Phase → Phase → Prop
  | start : Phase.Path [.bootstrapping] .bootstrapping
  | step {h : List Phase} {p q : Phase} : Phase.Path h p → Phase.legal p q = true →
      Phase.Path (h ++ [q]) q

namespace Phase.Path

variable {h : List Phase} {p : Phase}

/-- A path starts with bootstrapping. -/
theorem head? (hp : Phase.Path h p) : h.head? = some .bootstrapping := by
  induction hp with
  | start => rfl
  | step hp _ ih => rw [List.head?_append, ih]; rfl

/-- A path ends in the phase it leads to. -/
theorem getLast? (hp : Phase.Path h p) : h.getLast? = some p := by
  cases hp <;> simp

/-- Every step of a path is one that `Phase.advance?` accepts. -/
theorem isChain (hp : Phase.Path h p) : h.IsChain fun a b => Phase.advance? a b = some b := by
  induction hp with
  | start => exact List.isChain_singleton _
  | step hp hl ih =>
    refine ih.append (List.isChain_singleton _) ?_
    rw [hp.getLast?]
    rintro a ha b hb
    cases ha
    cases hb
    exact Phase.advance?_eq_some.2 hl

/-- A path rises in the order of phases, up to the phase it leads to. -/
theorem rising (hp : Phase.Path h p) :
    h.Pairwise (fun a b => a.rank < b.rank) ∧ ∀ a ∈ h, a.rank ≤ p.rank := by
  induction hp with
  | start => simp
  | step _ hl ih =>
    obtain ⟨hpw, hle⟩ := ih
    have hlt := Phase.rank_lt_of_legal hl
    refine ⟨List.pairwise_append.2 ⟨hpw, by simp, ?_⟩, ?_⟩
    · intro a ha b hb
      cases List.mem_singleton.1 hb
      exact Nat.lt_of_le_of_lt (hle a ha) hlt
    · intro a ha
      rcases List.mem_append.1 ha with ha | ha
      · exact Nat.le_of_lt (Nat.lt_of_le_of_lt (hle a ha) hlt)
      · cases List.mem_singleton.1 ha
        exact Nat.le_refl _

/-- A path enters each phase at most once, in the order of the lifecycle. -/
theorem sublist_all (hp : Phase.Path h p) : h.Sublist Phase.all :=
  Phase.sublist_drop_of_rising hp.rising.1 fun _ _ => Nat.zero_le _

/-- **A path enters each device mode at most once, onboarding before operating**: the modes it
    passes through form a sublist of onboarding then operating. -/
theorem modes (hp : Phase.Path h p) : (h.filterMap Phase.mode).Sublist [.onboarding, .operating] :=
  hp.sublist_all.filterMap Phase.mode

end Phase.Path

/-! ## Steps that leave the lifecycle alone -/

variable {τ α β : Type}

/-- **A step that leaves the lifecycle alone**: from every session it ends, unless it aborts, in
    the same phase with the same history. -/
def Step.Still (m : Step τ α) : Prop :=
  ∀ s : Session τ, m.Spec s (fun _ => True) fun _ s' => s'.phase = s.phase ∧ s'.history = s.history

namespace Step.Still

/-- Steps that leave the lifecycle alone, one after the other, leave it alone. -/
theorem bind {m : Step τ α} {f : α → Step τ β} (hm : m.Still) (hf : ∀ a, (f a).Still) :
    (m >>= f).Still := by
  intro s
  rw [spec_bind]
  refine (hm s).mono ?_
  rintro (e | a) s₁ ⟨hp, hh⟩
  · exact ⟨hp, hh⟩
  · exact (hf a s₁).mono fun _ _ ⟨hp', hh'⟩ => ⟨hp'.trans hp, hh'.trans hh⟩

theorem pure (a : α) : (Pure.pure a : Step τ α).Still := fun _ => ⟨rfl, rfl⟩

theorem get : (MonadState.get : Step τ (Session τ)).Still := fun _ => ⟨rfl, rfl⟩

theorem ite {c : Prop} [Decidable c] {a b : Step τ α} (ha : a.Still) (hb : b.Still) :
    (if c then a else b).Still := by
  split
  · exact ha
  · exact hb

end Step.Still

theorem still_say (level : Log.Level) (message : String) : (say level message : Step τ Unit).Still :=
  fun _ => by simp

theorem still_sleep (ms : Clock.Millis) : (sleep ms : Step τ Unit).Still := fun _ => ⟨rfl, rfl⟩

theorem still_count (c : Counter) : (count c : Step τ Unit).Still := fun _ => by
  rw [spec_count]
  split <;> simp

theorem still_abort (e : Except Abort α) : (Step.abort e : Step τ α).Still := fun _ => by
  cases e <;> simp

theorem still_draw (f : Random.Source → α × Random.Source) : (draw f : Step τ α).Still :=
  fun _ => ⟨rfl, rfl⟩

/-- A change of the session that keeps its phase and history. -/
theorem still_modify {f : Session τ → Session τ}
    (hf : ∀ s, (f s).phase = s.phase ∧ (f s).history = s.history) : (modify f : Step τ PUnit).Still :=
  hf

theorem still_fail (e : RunError) : (Step.fail e : Step τ α).Still := fun _ => ⟨rfl, rfl⟩

/-- A failure ends a step there, whatever was to follow. -/
theorem still_fail_bind (e : RunError) (f : α → Step τ β) : (Step.fail e >>= f : Step τ β).Still :=
  fun _ => ⟨rfl, rfl⟩

theorem still_onLink (f : τ → Except Link.Failure α × τ) : (onLink f : Step τ α).Still :=
  fun _ => by simp

theorem still_drawOrAbort (f : Random.Source → Except Abort (α × Random.Source)) :
    (drawOrAbort f : Step τ α).Still := fun _ => by
  rw [spec_drawOrAbort]
  split <;> simp

/-- A streaming step keeps phase and history. -/
theorem Went.still [Link.Transport τ] {s s' : Session τ} {r : Except RunError α}
    {E : List Link.Exchange} (h : Went s s' r E) : s'.phase = s.phase ∧ s'.history = s.history :=
  ⟨h.steady.2.1, h.steady.2.2.1⟩

section Streaming

variable [Link.Transport τ]

theorem publishFrame_still (heartRate : Float) (loc : GeoPoint) :
    (publishFrame heartRate loc : Step τ Unit).Still := fun s =>
  (publishFrame_went s _ _).imp (fun _ _ => trivial) fun _ _ ⟨_, _, hw, _⟩ => hw.still

theorem publishBaseline_still : (publishBaseline : Step τ Unit).Still := fun s =>
  (publishBaseline_went s).imp (fun _ _ => trivial) fun _ _ ⟨_, hw, _⟩ => hw.still

theorem calmTicks_still (loc : GeoPoint) (n : Nat) : (calmTicks loc n : Step τ Unit).Still := fun s =>
  (calmTicks_went loc n s).imp (fun _ _ => trivial) fun _ _ ⟨_, _, hw, _⟩ => hw.still

theorem operatingTicks_still (plan : Plan) (left tick : Nat) :
    (operatingTicks plan left tick : Step τ Unit).Still := fun s =>
  (operatingTicks_went plan left tick s).imp (fun _ _ => trivial) fun _ _ ⟨_, _, hw, _⟩ => hw.still

/-- An operating cycle: its frame, its ticks, its counts and its closing log line. -/
theorem operatingCycle_still (cycle : Nat) (plan : Plan) :
    (operatingCycle cycle plan : Step τ Unit).Still := by
  unfold operatingCycle
  refine Step.Still.get.bind fun _ => (publishFrame_still _ _).bind fun _ =>
    (still_say _ _).bind fun _ => (operatingTicks_still _ _ _).bind fun _ =>
    (still_count _).bind fun _ => ?_
  -- the drowsy and crash counts, each followed by the rest, then the closing log line
  refine .ite ((still_count _).bind fun _ => ?_) ?_ <;>
    refine .ite ((still_count _).bind fun _ => ?_) ?_ <;>
    refine Step.Still.get.bind fun _ => ?_ <;>
    split <;> exact still_say _ _

/-- The operating cycles, each drawing its plan. -/
theorem operateCycles_still (left cycle : Nat) : (operateCycles left cycle : Step τ Unit).Still := by
  induction left generalizing cycle with
  | zero => exact .pure _
  | succ left ih =>
    exact Step.Still.get.bind fun _ => (still_drawOrAbort _).bind fun _ =>
      (operatingCycle_still _ _).bind fun _ => ih _

/-- The onboarding cycles, each streaming a resting frame and its calm ticks. -/
theorem onboardCycles_still (left cycle : Nat) : (onboardCycles left cycle : Step τ Unit).Still := by
  induction left generalizing cycle with
  | zero => exact .pure _
  | succ left ih =>
    exact Step.Still.get.bind fun _ => (still_draw _).bind fun _ => (still_draw _).bind fun _ =>
      (publishFrame_still _ _).bind fun _ => (calmTicks_still _ _).bind fun _ =>
      (still_count _).bind fun _ => (still_abort _).bind fun _ => (still_say _ _).bind fun _ => ih _

theorem onboard_still : (onboard : Step τ Unit).Still :=
  (still_say _ _).bind fun _ => Step.Still.get.bind fun _ => (onboardCycles_still _ _).bind fun _ =>
    (still_say _ _).bind fun _ => still_sleep _

theorem operate_still : (operate : Step τ Unit).Still :=
  (still_say _ _).bind fun _ => Step.Still.get.bind fun _ => (operateCycles_still _ _).bind fun _ =>
    still_say _ _

end Streaming

/-! ## Steps that keep the history a path -/

/-- **A step that keeps the history a path**: from every session whose history is a path to its
    phase, it ends, unless it aborts, in one whose history is still a path to its phase, grown
    from the one before. -/
def Step.KeepsPath (m : Step τ α) : Prop :=
  ∀ s : Session τ, Phase.Path s.history s.phase →
    m.Spec s (fun _ => True) fun _ s' => Phase.Path s'.history s'.phase ∧ s.history.IsPrefix s'.history

namespace Step.KeepsPath

theorem bind {m : Step τ α} {f : α → Step τ β} (hm : m.KeepsPath) (hf : ∀ a, (f a).KeepsPath) :
    (m >>= f).KeepsPath := by
  intro s hs
  rw [spec_bind]
  refine (hm s hs).mono ?_
  rintro (e | a) s₁ ⟨hp₁, hh₁⟩
  · exact ⟨hp₁, hh₁⟩
  · exact (hf a s₁ hp₁).mono fun _ _ ⟨hp₂, hh₂⟩ => ⟨hp₂, hh₁.trans hh₂⟩

theorem ite {c : Prop} [Decidable c] {a b : Step τ α} (ha : a.KeepsPath) (hb : b.KeepsPath) :
    (if c then a else b).KeepsPath := by
  split
  · exact ha
  · exact hb

/-- An attempt keeps the history a path as its step does, failing or not. -/
theorem attempt {m : Step τ Unit} (hm : m.KeepsPath) : (Session.attempt m).KeepsPath := by
  intro s hs
  rw [spec_attempt]
  exact (hm s hs).mono fun _ _ h => h

end Step.KeepsPath

/-- A step that leaves the lifecycle alone keeps the history a path. -/
theorem Step.Still.keepsPath {m : Step τ α} (hm : m.Still) : m.KeepsPath := fun s hs =>
  (hm s).mono fun _ _ ⟨hp, hh⟩ => ⟨hp ▸ hh ▸ hs, hh ▸ List.prefix_refl _⟩

/-- **A phase step keeps the history a path**: a legal step extends it by the new phase, and a
    refused one changes nothing. -/
theorem advance_keepsPath (next : Phase) : (advance next : Step τ Unit).KeepsPath := by
  intro s hs
  rw [spec_advance]
  cases h : Phase.advance? s.phase next with
  | none => exact ⟨hs, List.prefix_refl _⟩
  | some p =>
    obtain ⟨rfl, hl⟩ : p = next ∧ Phase.legal s.phase next = true := by
      unfold Phase.advance? at h
      split at h <;> simp_all
    exact ⟨hs.step hl, List.prefix_append _ _⟩

section Phases

variable [Link.Transport τ]

/-- Bootstrap: a phase step, after publishing the stored baseline of an onboarded device. -/
theorem bootstrap_keepsPath (status : DeviceStatus) : (bootstrap status : Step τ Unit).KeepsPath := by
  unfold bootstrap
  refine Step.Still.get.keepsPath.bind fun _ => .ite ?_ ?_
  · exact (still_abort _).keepsPath.bind fun _ => (still_say _ _).keepsPath.bind fun _ =>
      advance_keepsPath _
  · refine (still_say _ _).keepsPath.bind fun _ => ?_
    dsimp only
    split
    · refine (still_modify ?_).keepsPath.bind fun _ => (still_say _ _).keepsPath.bind fun _ =>
        publishBaseline_still.keepsPath.bind fun _ => advance_keepsPath _
      -- loading the stored baseline touches neither phase nor history
      exact fun _ => ⟨rfl, rfl⟩
    · exact (still_say _ _).keepsPath.bind fun _ => advance_keepsPath _

theorem drive_keepsPath (status : DeviceStatus) : (drive status : Step τ Unit).KeepsPath := by
  unfold drive
  refine (bootstrap_keepsPath status).bind fun _ => Step.Still.get.keepsPath.bind fun _ => ?_
  dsimp only
  exact .ite (onboard_still.keepsPath.bind fun _ => (advance_keepsPath _).bind fun _ =>
    operate_still.keepsPath) operate_still.keepsPath

theorem terminate_keepsPath : (terminate : Step τ Unit).KeepsPath := by
  unfold terminate
  refine Step.Still.get.keepsPath.bind fun _ => .ite (Step.Still.pure _).keepsPath ?_
  exact (advance_keepsPath _).bind fun _ => (still_onLink _).keepsPath.bind fun _ =>
    (still_say _ _).keepsPath

/-- **A run keeps the history a path**, whichever call fails. -/
theorem run_keepsPath (status : DeviceStatus) : (run status : Step τ Stats).KeepsPath := by
  unfold run
  refine Step.Still.get.keepsPath.bind fun _ => (still_say _ _).keepsPath.bind fun _ =>
    (drive_keepsPath status).attempt.bind fun _ => terminate_keepsPath.attempt.bind fun _ => ?_
  -- the drive's failure, else the release's, else the summary, which only logs
  dsimp only
  split
  · exact (still_fail_bind _ _).keepsPath
  split
  · exact (still_fail_bind _ _).keepsPath
  exact (Step.Still.get.bind fun _ => (still_say _ _).bind fun _ => (still_say _ _).bind fun _ =>
    (still_say _ _).bind fun _ => Step.Still.get.bind fun _ => .pure _).keepsPath

end Phases

/-! ## Runs after runs -/

/-- **A refused phase step changes nothing**: it fails, naming the step, on the very session it
    started from. -/
theorem advance_refused {s : Session τ} {next : Phase} (h : Phase.advance? s.phase next = none) :
    (advance next : Step τ Unit).run' s = .ok (.error (.illegalStep s.phase next), s) := by
  have hspec : (advance next : Step τ Unit).Spec s (fun _ => False) fun r s' =>
      r = .error (.illegalStep s.phase next) ∧ s' = s := by
    rw [spec_advance, h]
    exact ⟨rfl, rfl⟩
  obtain ⟨r, s', hr, rfl, rfl⟩ := hspec.ends
  exact hr

section Runs

variable [Link.Transport τ]

/-- **The sessions a caller reaches** from a fresh one by runs, one after another, for any device
    statuses, each run returning its counters or a failure. A run that aborts ends the program,
    so nothing is reached after it. -/
inductive Reached : Session τ → Prop
  | fresh (cfg : Settings) (t : τ) (src : Random.Source) (verbose : Bool) :
      Reached (Session.start cfg t src verbose)
  | ran {s s' : Session τ} {r : Except RunError Stats} (status : DeviceStatus) :
      Reached s → (Session.run status).run' s = .ok (r, s') → Reached s'

/-- A reached session's history is a path to its phase. -/
theorem Reached.path {s : Session τ} (h : Reached s) : Phase.Path s.history s.phase := by
  induction h with
  | fresh => exact .start
  | ran status _ hr ih => exact ((run_keepsPath status _ ih).of_run' hr).1

end Runs

/-- **A session that follows the lifecycle**: its history starts with bootstrapping and ends in
    its phase, each of its steps is one that `Phase.advance?` accepts, it rises in the order of
    phases, and the device modes it passes through are onboarding, then operating, each at most
    once. -/
structure FollowsLifecycle (s : Session τ) : Prop where
  starts : s.history.head? = some .bootstrapping
  ends : s.history.getLast? = some s.phase
  steps : s.history.IsChain fun a b => Phase.advance? a b = some b
  rising : s.history.Pairwise fun a b => a.rank < b.rank
  modes : (s.history.filterMap Phase.mode).Sublist [.onboarding, .operating]

/-- A session whose history is a path to its phase follows the lifecycle. -/
theorem Phase.Path.follows {s : Session τ} (hp : Phase.Path s.history s.phase) :
    s.FollowsLifecycle :=
  ⟨hp.head?, hp.getLast?, hp.isChain, hp.rising.1, hp.modes⟩

section Runs

variable [Link.Transport τ]

/-- **Every session a caller reaches follows the lifecycle**, whatever the device statuses and
    whatever the link answers, and a further run only extends its history; a refused phase step
    changes nothing. -/
theorem runs_follow_lifecycle {s : Session τ} (h : Reached s) :
    s.FollowsLifecycle ∧
      (∀ (status : DeviceStatus) (r : Except RunError Stats) (s' : Session τ),
        (run status).run' s = .ok (r, s') → s.history.IsPrefix s'.history ∧ s'.FollowsLifecycle) ∧
      ∀ (s₀ : Session τ) (next : Phase), Phase.advance? s₀.phase next = none →
        (advance next : Step τ Unit).run' s₀ = .ok (.error (.illegalStep s₀.phase next), s₀) := by
  have hp := h.path
  refine ⟨hp.follows, fun status r s' hr => ?_, fun _ _ => advance_refused⟩
  obtain ⟨hp', hpre⟩ := (run_keepsPath status s hp).of_run' hr
  exact ⟨hpre, hp'.follows⟩

end Runs

/-- A device that is not onboarded, under settings with no cycles, run once on an inbox: it
    passes through every phase. -/
theorem runs_follow_lifecycle_onboarding :
    ∃ s : Session Link.Inbox, Reached s ∧
      s.history = [.bootstrapping, .onboarding, .operating, .terminated] ∧
      (s.FollowsLifecycle ∧
        (∀ (status : DeviceStatus) (r : Except RunError Stats) (s' : Session Link.Inbox),
          (run status).run' s = .ok (r, s') → s.history.IsPrefix s'.history ∧ s'.FollowsLifecycle) ∧
        ∀ (s₀ : Session Link.Inbox) (next : Phase), Phase.advance? s₀.phase next = none →
          (advance next : Step Link.Inbox Unit).run' s₀ =
            .ok (.error (.illegalStep s₀.phase next), s₀)) := by
  obtain ⟨s, hrun, hh⟩ : ∃ s, (run ⟨false, none⟩ : Step Link.Inbox Stats).run'
      (start { onboardingCycles := 0, operatingCycles := 0 } { inbound := [] }
        (Random.Source.ofSeed 0) false) = .ok (.ok {}, s) ∧
      s.history = [.bootstrapping, .onboarding, .operating, .terminated] := ⟨_, rfl, rfl⟩
  have hreach : Reached s := .ran _ (.fresh _ _ _ _) hrun
  exact ⟨s, hreach, hh, runs_follow_lifecycle hreach⟩

end SmartHelmet.Session
