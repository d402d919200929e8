import SmartHelmet.Proofs.Session.Transcript
import SmartHelmet.Proofs.Session.Faults
import Mathlib.Tactic.SplitIfs
import Mathlib.Data.List.Nodup
/-!
# What a session emits on a quiet link

On a link that never fails, what a session publishes is fixed by its settings, the device's
status and its random source alone; the commands it receives only move its alert and its command
counter. This file names that stream and shows that every step of a session emits its part:

* `Plan.flags` — the crash flags of an operating cycle's ticks: only the planned tick crashes;
* `Settings.sampleStream`, `Settings.frameStream` — the publishes of samples generated with given
  crash flags, and of a PPG frame followed by its samples, each drawn from the source in turn;
* `Settings.onboardingStream`, `Settings.operatingStream` — the frames of the onboarding cycles,
  at resting heart rates and with calm samples only, and of the operating cycles, each under the
  plan it draws first;
* `Emitted` — what a streaming step did on a quiet link: its publishes, the commands it heard,
  which the queue lost from its front and the alert took in, the source it left, and the drowsy
  and crashing cycles it counted;
* `operateCycles_emitted`, `run_emitted` — the operating cycles emit the operating stream and
  count its drowsy and crashing plans; a whole run emits the stored baseline, then the
  onboarding stream, then the operating stream.
-/

namespace SmartHelmet.Session

open SmartHelmet.Link
open SmartHelmet.Random

/-! ## The streams of a session -/

/-- The crash flags of the ticks `tick` to `tick + left - 1` of an operating cycle under a plan:
    only the planned tick crashes. -/
def Plan.flags (plan : Plan) (left tick : Nat) : List Bool :=
  (List.range' tick left).map fun i => plan.crashTick == some i

/-- The publish of one accelerometer sample, crashing or not, generated from a source at a
    place, and the source after it. -/
def Settings.sampleExchange (cfg : Settings) (crash : Bool) (loc : GeoPoint) (src : Source) :
    Exchange × Source :=
  let (a, src) := Signal.generate crash src
  (.publish .accel .fireAndForget (Payload.bytes (Payload.accel cfg.deviceId a loc)) (.ok ()), src)

/-- The publishes of samples generated one after another at a place with the crash flags
    `flags`, and the source after them. -/
def Settings.sampleStream (cfg : Settings) (loc : GeoPoint) : List Bool → Source →
    List Exchange × Source
  | [], src => ([], src)
  | crash :: flags, src =>
    let (x, src) := cfg.sampleExchange crash loc src
    let (E, src) := cfg.sampleStream loc flags src
    (x :: E, src)

/-- The publish of a PPG frame synthesized at a heart rate, from a place, and the source after
    it. -/
def Settings.frameExchange (cfg : Settings) (heartRate : Float) (loc : GeoPoint) (src : Source) :
    Exchange × Source :=
  let (ppg, src) :=
    Signal.synthesize (cfg.sampleRate * cfg.windowSecs) cfg.sampleRate heartRate true src
  (.publish .telemetry .atLeastOnce
    (Payload.bytes (Payload.telemetry cfg.deviceId ppg cfg.sampleRate loc)) (.ok ()), src)

/-- A frame at a heart rate and a place, followed by its samples with the crash flags `flags`. -/
def Settings.frameStream (cfg : Settings) (heartRate : Float) (loc : GeoPoint)
    (flags : List Bool) (src : Source) : List Exchange × Source :=
  let (x, src) := cfg.frameExchange heartRate loc src
  let (E, src) := cfg.sampleStream loc flags src
  (x :: E, src)

/-- **The onboarding stream**, `left` cycles of it: each draws a resting heart rate and a place,
    then publishes its frame and a frame's worth of calm samples. -/
def Settings.onboardingStream (cfg : Settings) : Nat → Source → List Exchange × Source
  | 0, src => ([], src)
  | left + 1, src =>
    let (rate, src) := src.between restingBand.1 restingBand.2
    let (loc, src) := cfg.anchor.jitter src
    let (E, src) := cfg.frameStream rate.toFloat loc (List.replicate cfg.ticksPerFrame false) src
    let (E', src) := cfg.onboardingStream left src
    (E ++ E', src)

/-- **The operating stream**, `left` cycles of it: each draws its plan, then publishes its frame
    at the plan's heart rate and place and its samples, the one at the planned tick crashing.
    It gives the plans drawn, and aborts where a plan cannot be drawn. -/
def Settings.operatingStream (cfg : Settings) : Nat → Source →
    Except Abort (List Plan × List Exchange × Source)
  | 0, src => .ok ([], [], src)
  | left + 1, src => do
    let (plan, src) ← cfg.plan src
    let (E, src) := cfg.frameStream plan.heartRate plan.location
      (plan.flags cfg.ticksPerFrame 0) src
    let (plans, E', src) ← cfg.operatingStream left src
    pure (plan :: plans, E ++ E', src)

/-- The onboarding stream of a device and the source after it: none for an onboarded device. -/
def Settings.onboarded (cfg : Settings) (status : DeviceStatus) (src : Source) :
    List Exchange × Source :=
  if status.onboarded then ([], src) else cfg.onboardingStream cfg.onboardingCycles src

@[simp] theorem Plan.flags_zero (plan : Plan) (tick : Nat) : plan.flags 0 tick = [] := rfl

theorem Plan.flags_succ (plan : Plan) (left tick : Nat) :
    plan.flags (left + 1) tick = (plan.crashTick == some tick) :: plan.flags left (tick + 1) := by
  simp [Plan.flags, List.range'_succ]

@[simp] theorem Settings.sampleStream_nil (cfg : Settings) (loc : GeoPoint) (src : Source) :
    cfg.sampleStream loc [] src = ([], src) := rfl

theorem Settings.sampleStream_cons (cfg : Settings) (loc : GeoPoint) (crash : Bool)
    (flags : List Bool) (src : Source) :
    cfg.sampleStream loc (crash :: flags) src =
      ((cfg.sampleExchange crash loc src).1 ::
        (cfg.sampleStream loc flags (cfg.sampleExchange crash loc src).2).1,
      (cfg.sampleStream loc flags (cfg.sampleExchange crash loc src).2).2) := rfl

/-- **A cycle crashes on one tick or none**: when the planned impact falls on a tick of the
    frame, exactly one of the frame's samples is generated crashing, and none without an
    impact. -/
theorem Plan.count_flags (plan : Plan) (k : Nat) (h : ∀ t, plan.crashTick = some t → t < k) :
    (plan.flags k 0).count true = if plan.crashTick.isSome then 1 else 0 := by
  rw [Plan.flags, List.count_eq_countP, List.countP_map]
  cases hc : plan.crashTick with
  | none => simp
  | some t =>
    -- only the planned tick crashes, and it is one of the frame's ticks
    have hk : t ∈ List.range' 0 k := by simp [List.mem_range', h t hc]
    have hcount := List.count_eq_one_of_mem (List.nodup_range' ..) hk
    rw [List.count_eq_countP] at hcount
    rw [Option.isSome_some, if_pos rfl]
    refine Eq.trans (List.countP_congr fun i _ => ?_) hcount
    simp only [Function.comp_apply, beq_iff_eq, Option.some.injEq]
    exact eq_comm

/-- Every plan of the operating stream was drawn by the settings. -/
theorem Settings.operatingStream_plans {cfg : Settings} {left : Nat} {src src' : Source}
    {plans : List Plan} {P : List Exchange}
    (h : cfg.operatingStream left src = .ok (plans, P, src')) : ∀ p ∈ plans, ∃ s₀ s₁, cfg.plan s₀ = .ok (p, s₁) := by
  induction left generalizing src src' plans P with
  | zero =>
    simp only [Settings.operatingStream, Except.ok.injEq, Prod.mk.injEq] at h
    simp [← h.1]
  | succ left ih =>
    rw [Settings.operatingStream] at h
    cases hp : cfg.plan src with
    | error e => simp [hp, bind, Except.bind] at h
    | ok x =>
      obtain ⟨plan, s₁⟩ := x
      simp only [hp, bind, Except.bind] at h
      split at h
      · simp at h
      · rename_i y hy
        obtain ⟨plans', E', s₂⟩ := y
        simp only [pure, Except.pure, Except.ok.injEq, Prod.mk.injEq] at h
        obtain ⟨rfl, -, -⟩ := h
        intro p hmem
        rcases List.mem_cons.mp hmem with rfl | hmem
        · exact ⟨_, _, hp⟩
        · exact ih hy p hmem

/-! ## Commands taken in -/

theorem applied_append (a : Alert) (ms ms' : List Bytes) :
    applied a (ms ++ ms') = applied (applied a ms) ms' :=
  List.foldl_append

/-! ## What a step emits -/

section Emitted

variable {τ : Type} [Transport τ] (inbound : τ → List Bytes)

/-- **What a step emitted on a quiet link**, from `s` to `s'`: the link recorded exchanges whose
    publishes are `P` and whose receives brought the commands `R`; the queue lost `R` from its
    front, and the alert and the command counter took them in; the source moved to `src`; the
    settings stayed; and `d` drowsy and `c` crashing cycles were counted. -/
structure Emitted (s s' : Session τ) (P : List Exchange) (R : List Bytes) (src : Source)
    (d c : Nat) : Prop where
  recorded : ∃ E, Recorded s.link s'.link E ∧ publishes E = P ∧ received E = R
  queue : inbound s.link = R ++ inbound s'.link
  alert : s'.alert = applied s.alert R
  commands : s'.stats.commandsReceived = s.stats.commandsReceived + R.length
  source : s'.source = src
  settings : s'.settings = s.settings
  drowsy : s'.stats.drowsyCycles = s.stats.drowsyCycles + d
  crash : s'.stats.crashCycles = s.stats.crashCycles + c

variable {inbound}

namespace Emitted

variable {s₁ s₂ s₃ : Session τ} {P₁ P₂ : List Exchange} {R₁ R₂ : List Bytes}
  {src₂ src₃ : Source} {d₁ d₂ c₁ c₂ : Nat}

/-- **Emissions compose**: publishes and commands heard add up, and the source is the last
    step's. -/
theorem trans (h₁ : Emitted inbound s₁ s₂ P₁ R₁ src₂ d₁ c₁)
    (h₂ : Emitted inbound s₂ s₃ P₂ R₂ src₃ d₂ c₂) :
    Emitted inbound s₁ s₃ (P₁ ++ P₂) (R₁ ++ R₂) src₃ (d₁ + d₂) (c₁ + c₂) where
  recorded := by
    obtain ⟨E₁, hr₁, hp₁, hc₁⟩ := h₁.recorded
    obtain ⟨E₂, hr₂, hp₂, hc₂⟩ := h₂.recorded
    exact ⟨E₁ ++ E₂, hr₁.trans hr₂, by simp [hp₁, hp₂], by simp [hc₁, hc₂]⟩
  queue := by rw [h₁.queue, h₂.queue, List.append_assoc]
  alert := by rw [h₂.alert, h₁.alert, applied_append]
  commands := by rw [h₂.commands, h₁.commands, List.length_append, Nat.add_assoc]
  source := h₂.source
  settings := h₂.settings.trans h₁.settings
  drowsy := by rw [h₂.drowsy, h₁.drowsy, Nat.add_assoc]
  crash := by rw [h₂.crash, h₁.crash, Nat.add_assoc]

/-- A step that leaves the link, the alert and the command counter as they were (a log line, a
    sleep, a draw, a cycle counted) emits nothing. -/
theorem still (s : Session τ) {s' : Session τ} {d c : Nat} (hl : s'.link = s.link)
    (ha : s'.alert = s.alert) (hcmd : s'.stats.commandsReceived = s.stats.commandsReceived)
    (hd : s'.stats.drowsyCycles = s.stats.drowsyCycles + d)
    (hc : s'.stats.crashCycles = s.stats.crashCycles + c) (hset : s'.settings = s.settings) :
    Emitted inbound s s' [] [] s'.source d c where
  recorded := ⟨[], by rw [hl]; exact Recorded.refl _, rfl, rfl⟩
  queue := by rw [hl]; rfl
  alert := ha
  commands := by rw [hcmd]; rfl
  source := rfl
  settings := hset
  drowsy := hd
  crash := hc

theorem refl (s : Session τ) : Emitted inbound s s [] [] s.source 0 0 :=
  still s rfl rfl rfl rfl rfl rfl

/-- **A publish on a quiet link** emits itself, answered. -/
theorem publish (hq : Quiet inbound) {s s' : Session τ} {c : Channel} {d : Delivery} {p : Bytes}
    (hl : s'.link = (Transport.publish c d p s.link).2) (ha : s'.alert = s.alert)
    (hcmd : s'.stats.commandsReceived = s.stats.commandsReceived)
    (hd : s'.stats.drowsyCycles = s.stats.drowsyCycles)
    (hc : s'.stats.crashCycles = s.stats.crashCycles) (hset : s'.settings = s.settings) :
    Emitted inbound s s' [.publish c d p (.ok ())] [] s'.source 0 0 where
  recorded := by
    refine ⟨_, hl ▸ recorded_publish c d p s.link, ?_, ?_⟩ <;> simp [hq.publish_ok]
  queue := by rw [hl, hq.publish_inbound]; rfl
  alert := ha
  commands := hcmd
  source := rfl
  settings := hset
  drowsy := hd
  crash := hc

/-- **A receive on a quiet link** hears the head of the queue, if there is one. -/
theorem receive (hq : Quiet inbound) {s s' : Session τ} {w : Clock.Millis} {R : List Bytes}
    (hR : (inbound s.link).head?.toList = R) (hl : s'.link = (Transport.receive w s.link).2)
    (ha : s'.alert = applied s.alert R)
    (hcmd : s'.stats.commandsReceived = s.stats.commandsReceived + R.length)
    (hs : s'.source = s.source) (hd : s'.stats.drowsyCycles = s.stats.drowsyCycles)
    (hc : s'.stats.crashCycles = s.stats.crashCycles) (hset : s'.settings = s.settings) :
    Emitted inbound s s' [] R s.source 0 0 where
  recorded := by
    refine ⟨_, hl ▸ recorded_receive w s.link, ?_, ?_⟩ <;> simp [hq.receive_head, ← hR]
  queue := by
    rw [hl, hq.receive_inbound, ← hR]
    cases inbound s.link <;> rfl
  alert := ha
  commands := hcmd
  source := hs
  settings := hset
  drowsy := hd
  crash := hc

/-- **A command heard before a step** on a quiet link: the receive that brought the head `m` of
    the queue, with the count and the alert it set, goes before what the step emitted. -/
theorem heard (hq : Quiet inbound) {s s₁ s' : Session τ} {w : Clock.Millis} {m : Bytes}
    {rest : List Bytes} {P : List Exchange} {R : List Bytes} {src : Source} {d c : Nat}
    (h : Emitted inbound s₁ s' P R src d c) (hm : inbound s.link = m :: rest)
    (hl : s₁.link = (Transport.receive w s.link).2) (ha : s₁.alert = (interpret m).1)
    (hcmd : s₁.stats.commandsReceived = s.stats.commandsReceived + 1)
    (hs : s₁.source = s.source) (hd : s₁.stats.drowsyCycles = s.stats.drowsyCycles)
    (hc : s₁.stats.crashCycles = s.stats.crashCycles) (hset : s₁.settings = s.settings) :
    Emitted inbound s s' P (m :: R) src d c := by
  have h₁ : Emitted inbound s s₁ [] [m] s.source 0 0 :=
    receive hq (by rw [hm]; rfl) hl ha hcmd hs hd hc hset
  simpa using h₁.trans h

/-- A step that changed nothing an emission sees (a log line, a sleep, a draw, a count of frames
    or cycles) may go before it. -/
theorem after {s₁ s₂ s₃ : Session τ} {P : List Exchange} {R : List Bytes} {src : Source}
    {d c : Nat} (h : Emitted inbound s₂ s₃ P R src d c) (hl : s₂.link = s₁.link)
    (ha : s₂.alert = s₁.alert) (hcmd : s₂.stats.commandsReceived = s₁.stats.commandsReceived)
    (hd : s₂.stats.drowsyCycles = s₁.stats.drowsyCycles)
    (hc : s₂.stats.crashCycles = s₁.stats.crashCycles) (hset : s₂.settings = s₁.settings) :
    Emitted inbound s₁ s₃ P R src d c := by
  simpa using (still s₁ hl ha hcmd (hd.trans (Nat.add_zero _).symm) (hc.trans (Nat.add_zero _).symm)
    hset).trans h

/-- A step that changed nothing an emission sees but the cycle counters may go after it. -/
theorem then_still {s₁ s₂ s₃ : Session τ} {P : List Exchange} {R : List Bytes} {src : Source}
    {d c : Nat} (d' c' : Nat) (h : Emitted inbound s₁ s₂ P R src d c) (hl : s₃.link = s₂.link)
    (ha : s₃.alert = s₂.alert) (hs : s₃.source = s₂.source)
    (hcmd : s₃.stats.commandsReceived = s₂.stats.commandsReceived)
    (hd : s₃.stats.drowsyCycles = s₂.stats.drowsyCycles + d')
    (hc : s₃.stats.crashCycles = s₂.stats.crashCycles + c') (hset : s₃.settings = s₂.settings) :
    Emitted inbound s₁ s₃ P R src (d + d') (c + c') := by
  simpa [hs, h.source] using h.trans (still s₂ hl ha hcmd hd hc hset)

/-- An emission read with its parts rewritten. -/
theorem congr {s s' : Session τ} {P P' : List Exchange} {R R' : List Bytes} {src src' : Source}
    {d d' c c' : Nat} (h : Emitted inbound s s' P R src d c) (hP : P = P') (hR : R = R')
    (hs : src = src') (hd : d = d') (hc : c = c') : Emitted inbound s s' P' R' src' d' c' := by
  subst hP hR hs hd hc
  exact h

/-- A step that heard the whole queue left it empty. -/
theorem drained {s s' : Session τ} {P : List Exchange} {src : Source} {d c : Nat}
    (h : Emitted inbound s s' P (inbound s.link) src d c) : inbound s'.link = [] := by
  simpa using h.queue

end Emitted

end Emitted

/-! ## Publishing and draining -/

section Steps

variable {τ : Type} [Transport τ] {inbound : τ → List Bytes}

/-- **A PPG frame** publishes the frame synthesized from the session's source. -/
theorem publishFrame_emitted (hq : Quiet inbound) (s : Session τ) (heartRate : Float)
    (loc : GeoPoint) :
    (publishFrame heartRate loc : Step τ Unit).Spec s (fun _ => True) fun r s' => r = .ok () ∧
      Emitted inbound s s' [(s.settings.frameExchange heartRate loc s.source).1] []
        (s.settings.frameExchange heartRate loc s.source).2 0 0 := by
  simp only [publishFrame, publish, spec_bind, spec_get, spec_abort, Settings.frameLen, mul32]
  by_cases hw : s.settings.sampleRate * s.settings.windowSecs < word32
  · simp only [hw, if_true, spec_draw, spec_onLink, hq.publish_ok, Except.mapError, spec_count]
    split
    · exact ⟨trivial, Emitted.publish hq rfl rfl rfl rfl rfl rfl⟩
    · trivial
  · simp only [hw, if_false]

/-- **An accelerometer sample** publishes the sample generated from the session's source. -/
theorem publishAccel_emitted (hq : Quiet inbound) (s : Session τ) (crash : Bool)
    (loc : GeoPoint) :
    (publishAccel crash loc : Step τ Signal.Accel).Spec s (fun _ => True) fun r s' =>
      r = .ok (Signal.generate crash s.source).1 ∧
      Emitted inbound s s' [(s.settings.sampleExchange crash loc s.source).1] []
        (s.settings.sampleExchange crash loc s.source).2 0 0 := by
  simp only [publishAccel, publish, spec_bind, spec_get, spec_draw, spec_onLink, hq.publish_ok,
    Except.mapError, spec_count]
  split
  · simp only [spec_say, spec_pure]
    exact ⟨trivial, Emitted.publish hq rfl rfl rfl rfl rfl rfl⟩
  · trivial

/-- **A drain empties the queue**: given fuel for every queued command and the empty receive
    after them, it hears each command in order and draws nothing. -/
theorem drain_emitted (hq : Quiet inbound) (fuel : Nat) (wait : Clock.Millis) (s : Session τ)
    (hfuel : (inbound s.link).length < fuel) :
    (drain fuel wait : Step τ Unit).Spec s (fun _ => True) fun r s' => r = .ok () ∧
      Emitted inbound s s' [] (inbound s.link) s.source 0 0 := by
  induction fuel generalizing wait s with
  | zero => omega
  | succ fuel ih =>
    simp only [drain, receive, spec_bind, spec_onLink, hq.receive_head, Except.mapError]
    cases h : inbound s.link with
    | nil =>
      simp only [List.head?_nil, spec_pure]
      exact ⟨trivial, Emitted.receive hq (by rw [h]; rfl) rfl (by simp [applied]) (by simp) rfl rfl
        rfl rfl⟩
    | cons m rest =>
      simp only [List.head?_cons, spec_bind, spec_say, spec_count, spec_keep, spec_modify]
      have hin : inbound (Transport.receive wait s.link).2 = rest := by
        rw [hq.receive_inbound, h]; rfl
      split
      · -- the command is heard, counted and applied; the rest of the queue is drained after it
        refine (ih 0 _ (by simpa [hin, h] using hfuel)).mono ?_
        rintro r s' ⟨rfl, h₂⟩
        refine ⟨rfl, ?_⟩
        have h₁ := Emitted.heard hq h₂ h rfl rfl (by simp [Stats.get, Stats.set]) rfl rfl rfl
          rfl
        simpa [hin] using h₁
      · trivial

/-- Polling drains the whole queue. -/
theorem pollCommands_emitted (hq : Quiet inbound) (s : Session τ) :
    (pollCommands : Step τ Unit).Spec s (fun _ => True) fun r s' => r = .ok () ∧
      Emitted inbound s s' [] (inbound s.link) s.source 0 0 := by
  simp only [pollCommands, spec_bind, spec_get]
  exact drain_emitted hq _ _ s (Nat.lt_succ_of_le (hq.backlog_bound s.link))

/-! ## Ticks -/

/-- **The calm ticks of an onboarding frame** publish samples generated with no crash. -/
theorem calmTicks_emitted (hq : Quiet inbound) (loc : GeoPoint) (n : Nat) (s : Session τ) :
    (calmTicks loc n : Step τ Unit).Spec s (fun _ => True) fun r s' => r = .ok () ∧
      Emitted inbound s s' (s.settings.sampleStream loc (List.replicate n false) s.source).1 []
        (s.settings.sampleStream loc (List.replicate n false) s.source).2 0 0 := by
  induction n generalizing s with
  | zero => exact ⟨rfl, Emitted.refl s⟩
  | succ n ih =>
    simp only [calmTicks, spec_bind]
    refine (publishAccel_emitted hq s false loc).mono ?_
    rintro r s₁ ⟨rfl, h₁⟩
    simp only [spec_get, spec_sleep]
    refine (ih _).mono ?_
    rintro r s' ⟨rfl, h₂⟩
    refine ⟨rfl, ?_⟩
    have h := h₁.trans (h₂.after rfl rfl rfl rfl rfl rfl)
    simp only [h₁.source, h₁.settings] at h
    simpa [List.replicate_succ, Settings.sampleStream_cons] using h

/-- **The ticks of an operating cycle** publish their samples, the one at the planned tick
    crashing, and the first of them hears every queued command. -/
theorem operatingTicks_emitted (hq : Quiet inbound) (plan : Plan) (left tick : Nat)
    (s : Session τ) :
    (operatingTicks plan left tick : Step τ Unit).Spec s (fun _ => True) fun r s' =>
      r = .ok () ∧
      Emitted inbound s s' (s.settings.sampleStream plan.location (plan.flags left tick) s.source).1
        (if left = 0 then [] else inbound s.link)
        (s.settings.sampleStream plan.location (plan.flags left tick) s.source).2 0 0 := by
  induction left generalizing tick s with
  | zero => exact ⟨rfl, Emitted.refl s⟩
  | succ left ih =>
    simp only [operatingTicks, spec_bind]
    refine (publishAccel_emitted hq s _ plan.location).mono ?_
    rintro r s₁ ⟨rfl, h₁⟩
    -- the crash warning only adds a log line, so both branches go on alike
    dsimp only
    split
    all_goals
      simp only [spec_bind, spec_say]
      refine (pollCommands_emitted hq _).mono ?_
      rintro r s₂ ⟨rfl, h₂⟩
      simp only [spec_get, spec_sleep]
      refine (ih _ _).mono ?_
      rintro r s' ⟨rfl, h₃⟩
      refine ⟨rfl, ?_⟩
      have hempty := h₂.drained
      have h := h₁.trans ((h₂.trans (h₃.after rfl rfl rfl rfl rfl rfl)).after rfl rfl rfl rfl
        rfl rfl)
      simp only [h₁.source, h₁.settings, h₂.source, h₂.settings, hempty] at h
      simpa [Plan.flags_succ, Settings.sampleStream_cons, ← h₁.queue] using h

/-! ## Cycles -/

/-- **An operating cycle** emits its frame and its samples under its plan, hears the queue in its
    first tick, and counts itself as drowsy and as crashing when its plan says so. -/
theorem operatingCycle_emitted (hq : Quiet inbound) (cycle : Nat) (plan : Plan) (s : Session τ) :
    (operatingCycle cycle plan : Step τ Unit).Spec s (fun _ => True) fun r s' => r = .ok () ∧
      Emitted inbound s s'
        (s.settings.frameStream plan.heartRate plan.location
          (plan.flags s.settings.ticksPerFrame 0) s.source).1
        (if s.settings.ticksPerFrame = 0 then [] else inbound s.link)
        (s.settings.frameStream plan.heartRate plan.location
          (plan.flags s.settings.ticksPerFrame 0) s.source).2
        (if plan.drowsy then 1 else 0) (if plan.crashTick.isSome then 1 else 0) := by
  simp only [operatingCycle, spec_bind, spec_get]
  refine (publishFrame_emitted hq s _ _).mono ?_
  rintro r s₁ ⟨rfl, h₁⟩
  simp only [spec_say]
  refine (operatingTicks_emitted hq plan _ 0 _).mono ?_
  rintro r s₂ ⟨rfl, h₂⟩
  have h := h₁.trans (h₂.after rfl rfl rfl rfl rfl rfl)
  have hin : inbound s₁.link = inbound s.link := by simpa using h₁.queue.symm
  simp only [h₁.source, h₁.settings, hin] at h
  clear h₁ h₂
  -- the cycle counts itself, as drowsy and as crashing when its plan says so; a counter that
  -- would leave 32 bits aborts
  by_cases hop : s₂.stats.operatingCycles + 1 < word32
  · by_cases hdw : s₂.stats.drowsyCycles + 1 < word32 <;>
    by_cases hcw : s₂.stats.crashCycles + 1 < word32 <;>
    cases hdr : plan.drowsy <;> cases hcr : plan.crashTick.isSome <;>
    simp only [spec_count, spec_bind, spec_get, Stats.get, Stats.set, hop, hdw, hcw,
      Bool.false_eq_true, ↓reduceIte] <;>
    split <;>
    · simp only [spec_say]
      refine ⟨trivial, (h.then_still (if plan.drowsy then 1 else 0)
        (if plan.crashTick.isSome then 1 else 0) (by rfl) (by rfl) (by rfl) (by rfl)
        (by simp [hdr]) (by simp [hcr]) (by rfl)).congr rfl rfl rfl
        (by simp [hdr]) (by simp [hcr])⟩
  · simp only [spec_count, Stats.get, hop, if_false]

/-- **The operating cycles** emit the operating stream: each draws its plan, then emits its frame
    and samples; the first cycle's ticks hear every queued command, and the drowsy and the
    crashing plans are counted. -/
theorem operateCycles_emitted (hq : Quiet inbound) (left cycle : Nat) (s : Session τ) :
    (operateCycles left cycle : Step τ Unit).Spec s (fun _ => True) fun r s' => r = .ok () ∧
      ∃ plans P src, s.settings.operatingStream left s.source = .ok (plans, P, src) ∧
        Emitted inbound s s' P
          (if left = 0 ∨ s.settings.ticksPerFrame = 0 then [] else inbound s.link) src
          (plans.countP (·.drowsy)) (plans.countP (·.crashTick.isSome)) := by
  induction left generalizing cycle s with
  | zero => exact ⟨rfl, [], [], s.source, rfl, by simpa using Emitted.refl s⟩
  | succ left ih =>
    simp only [operateCycles, spec_bind, spec_get, spec_drawOrAbort]
    -- the plan is drawn first; a plan that cannot be drawn aborts
    cases hplan : s.settings.plan s.source with
    | error a => trivial
    | ok p =>
      obtain ⟨plan, src₁⟩ := p
      refine (operatingCycle_emitted hq cycle plan _).mono ?_
      rintro r s₁ ⟨rfl, h₁⟩
      refine (ih _ s₁).mono ?_
      rintro r s' ⟨rfl, plans, P, src, hstream, h₂⟩
      simp only [h₁.source, h₁.settings] at hstream h₂
      refine ⟨rfl, plan :: plans, _, src, ?_,
        ((h₁.after (by rfl) (by rfl) (by rfl) (by rfl) (by rfl) (by rfl)).trans h₂).congr
          rfl ?_ rfl ?_ ?_⟩
      · rw [Settings.operatingStream, hplan]
        simp only [bind, Except.bind, hstream]
        rfl
      · -- the first cycle's ticks take the whole queue, unless a frame has no ticks
        by_cases hk : s.settings.ticksPerFrame = 0
        · simp [hk]
        · have hempty : inbound s₁.link = [] := by simpa [hk] using h₁.queue
          simp [hk, hempty]
      · simp [List.countP_cons, Nat.add_comm]
      · simp [List.countP_cons, Nat.add_comm]

/-- **The onboarding cycles** emit the onboarding stream: each draws a resting heart rate and a
    place, then emits its frame and its calm samples; nothing is heard. -/
theorem onboardCycles_emitted (hq : Quiet inbound) (left cycle : Nat) (s : Session τ) :
    (onboardCycles left cycle : Step τ Unit).Spec s (fun _ => True) fun r s' => r = .ok () ∧
      Emitted inbound s s' (s.settings.onboardingStream left s.source).1 []
        (s.settings.onboardingStream left s.source).2 0 0 := by
  induction left generalizing cycle s with
  | zero => exact ⟨rfl, Emitted.refl s⟩
  | succ left ih =>
    simp only [onboardCycles, spec_bind, spec_get, spec_draw]
    refine (publishFrame_emitted hq _ _ _).mono ?_
    rintro r s₁ ⟨rfl, h₁⟩
    refine (calmTicks_emitted hq _ _ s₁).mono ?_
    rintro r s₂ ⟨rfl, h₂⟩
    -- the cycle is counted and its frame length read again; either may leave 32 bits
    by_cases hon : s₂.stats.onboardingCycles + 1 < word32
    · by_cases hw : s.settings.sampleRate * s.settings.windowSecs < word32
      · simp only [spec_count, Stats.get, Stats.set, hon, if_true, spec_abort, Settings.frameLen,
          mul32, hw, spec_say]
        refine (ih _ _).mono ?_
        rintro r s' ⟨rfl, h₃⟩
        refine ⟨rfl, ?_⟩
        have h : Emitted inbound s s' _ _ _ _ _ :=
          (h₁.after (by rfl) (by rfl) (by rfl) (by rfl) (by rfl) (by rfl)).trans
            (h₂.trans (h₃.after rfl rfl rfl rfl rfl rfl))
        simp only [h₁.source, h₁.settings, h₂.source, h₂.settings] at h
        simpa [Settings.onboardingStream, Settings.frameStream] using h
      · simp only [spec_count, Stats.get, hon, if_true, spec_abort, Settings.frameLen, mul32, hw,
          if_false]
    · simp only [spec_count, Stats.get, hon, if_false]

/-! ## Phases -/

/-- **The onboarding phase** emits the onboarding stream of every onboarding cycle. -/
theorem onboard_emitted (hq : Quiet inbound) (s : Session τ) :
    (onboard : Step τ Unit).Spec s (fun _ => True) fun r s' => r = .ok () ∧
      Emitted inbound s s' (s.settings.onboardingStream s.settings.onboardingCycles s.source).1 []
        (s.settings.onboardingStream s.settings.onboardingCycles s.source).2 0 0 := by
  simp only [onboard, spec_bind, spec_say, spec_get]
  refine (onboardCycles_emitted hq _ 1 _).mono ?_
  rintro r s' ⟨rfl, h⟩
  simp only [spec_sleep]
  exact ⟨trivial, (h.after (by rfl) (by rfl) (by rfl) (by rfl) (by rfl) (by rfl)).then_still 0 0
    (by rfl) (by rfl) (by rfl) (by rfl) (by rfl) (by rfl) (by rfl)⟩

/-- **The operating phase** emits the operating stream of every operating cycle. -/
theorem operate_emitted (hq : Quiet inbound) (s : Session τ) :
    (operate : Step τ Unit).Spec s (fun _ => True) fun r s' => r = .ok () ∧
      ∃ plans P src,
        s.settings.operatingStream s.settings.operatingCycles s.source = .ok (plans, P, src) ∧
        Emitted inbound s s' P
          (if s.settings.operatingCycles = 0 ∨ s.settings.ticksPerFrame = 0 then []
            else inbound s.link) src
          (plans.countP (·.drowsy)) (plans.countP (·.crashTick.isSome)) := by
  simp only [operate, spec_bind, spec_say, spec_get]
  refine (operateCycles_emitted hq _ 1 _).mono ?_
  rintro r s' ⟨rfl, plans, P, src, hstream, h⟩
  exact ⟨trivial, plans, P, src, hstream,
    (h.after (by rfl) (by rfl) (by rfl) (by rfl) (by rfl) (by rfl)).then_still 0 0 (by rfl) (by rfl)
      (by rfl) (by rfl) (by rfl) (by rfl) (by rfl)⟩

/-! ## Starting and ending -/

/-- Publishing the baseline emits it. -/
theorem publishBaseline_emitted (hq : Quiet inbound) (s : Session τ) :
    (publishBaseline : Step τ Unit).Spec s (fun _ => True) fun r s' => r = .ok () ∧
      Emitted inbound s s'
        [.publish .baseline .atLeastOnce (Payload.bytes (Payload.baseline s.baseline)) (.ok ())] []
        s.source 0 0 := by
  simp only [publishBaseline, publish, spec_bind, spec_get, spec_onLink, hq.publish_ok,
    Except.mapError, spec_count]
  split
  · simp only [spec_say]
    exact ⟨trivial, Emitted.publish hq rfl rfl rfl rfl rfl rfl⟩
  · trivial

/-- **Bootstrap** emits the stored baseline of an onboarded device, if it has one, and draws
    nothing. -/
theorem bootstrap_emitted (hq : Quiet inbound) (status : DeviceStatus) (s : Session τ)
    (hphase : s.phase = .bootstrapping) :
    (bootstrap status : Step τ Unit).Spec s (fun _ => True) fun r s' => r = .ok () ∧
      Emitted inbound s s' (baselineExchanges status) [] s.source 0 0 := by
  simp only [bootstrap, spec_bind, spec_get]
  rcases status with ⟨_ | _, _ | b⟩
  case false.none | false.some =>
    by_cases hw : s.settings.onboardingCycles * s.settings.windowSecs < word32
    · simp only [Bool.not_false, if_true, spec_bind, spec_abort, mul32, hw, spec_say,
        spec_advance, hphase, Phase.advance?, Phase.legal]
      exact ⟨trivial, Emitted.still s rfl rfl rfl rfl rfl rfl⟩
    · simp only [Bool.not_false, if_true, spec_bind, spec_abort, mul32, hw, if_false]
  case true.none =>
    simp only [Bool.not_true, Bool.false_eq_true, if_false, spec_bind, spec_say,
      spec_advance, hphase, Phase.advance?, Phase.legal, if_true]
    exact ⟨trivial, Emitted.still s rfl rfl rfl rfl rfl rfl⟩
  case true.some =>
    simp only [Bool.not_true, Bool.false_eq_true, if_false, spec_bind, spec_say, spec_modify]
    refine (Step.Spec.and (publishBaseline_emitted hq _) (publishBaseline_exact hq _)).mono ?_
    rintro r s₁ ⟨⟨rfl, h₁⟩, -, -, -, -, ⟨-, hph, -, -⟩, -⟩
    simp only [spec_advance, hph, hphase, Phase.advance?, Phase.legal, if_true]
    exact ⟨trivial, (h₁.after (by rfl) (by rfl) (by rfl) (by rfl) (by rfl) (by rfl)).then_still 0 0
      (by rfl) (by rfl) (by rfl) (by rfl) (by rfl) (by rfl) (by rfl)⟩

/-- Ending a session draws nothing. -/
theorem terminate_source (s : Session τ) :
    (terminate : Step τ Unit).Spec s (fun _ => True) fun _ s' => s'.source = s.source := by
  by_cases hphase : s.phase = .terminated
  · simp [terminate, hphase]
  · have hb : (s.phase == .terminated) = false := by simpa using hphase
    simp only [terminate, spec_bind, spec_get, hb, Bool.false_eq_true, if_false, spec_advance,
      Phase.advance?_terminated hphase, disconnect, spec_onLink, spec_say]
    cases (Transport.disconnect s.link).1 <;> trivial

/-! ## Runs -/

/-- **A drive emits the stored baseline, then the onboarding stream, then the operating
    stream**; the first operating tick hears every queued command. -/
theorem drive_emitted (hq : Quiet inbound) (status : DeviceStatus) (s : Session τ)
    (hphase : s.phase = .bootstrapping) :
    (drive status : Step τ Unit).Spec s (fun _ => True) fun r s' => r = .ok () ∧
      ∃ plans P src,
        s.settings.operatingStream s.settings.operatingCycles
          (s.settings.onboarded status s.source).2 = .ok (plans, P, src) ∧
        Emitted inbound s s'
          (baselineExchanges status ++ (s.settings.onboarded status s.source).1 ++ P)
          (if s.settings.operatingCycles = 0 ∨ s.settings.ticksPerFrame = 0 then []
            else inbound s.link) src
          (plans.countP (·.drowsy)) (plans.countP (·.crashTick.isSome)) := by
  simp only [drive, spec_bind]
  refine (Step.Spec.and (bootstrap_emitted hq status s hphase)
    (bootstrap_exact hq status s hphase)).mono ?_
  rintro r s₁ ⟨⟨rfl, h₁⟩, -, -, -, hph₁, -⟩
  have hin₁ : inbound s₁.link = inbound s.link := by simpa using h₁.queue.symm
  simp only [spec_get]
  cases hon : status.onboarded
  · -- not onboarded: the onboarding phase, then operating
    have hb : (s₁.phase == .onboarding) = true := by simp [hph₁, startPhase, hon]
    simp only [hb, if_true, spec_bind]
    refine (Step.Spec.and (onboard_emitted hq s₁) (onboard_exact hq s₁)).mono ?_
    rintro r s₂ ⟨⟨rfl, h₂⟩, -, -, -, -, ⟨-, hph₂, -, -⟩, -⟩
    have hin₂ : inbound s₂.link = inbound s.link := by simpa [hin₁] using h₂.queue.symm
    simp only [spec_advance, hph₂, hph₁, startPhase, hon, Phase.advance?, Phase.legal]
    refine (operate_emitted hq _).mono ?_
    rintro r s' ⟨rfl, plans, P, src, hstream, h₃⟩
    have h := h₁.trans (h₂.trans (h₃.after rfl rfl rfl rfl rfl rfl))
    simp only [h₂.source, h₂.settings, h₁.source, h₁.settings, hin₂] at hstream h
    refine ⟨rfl, plans, P, src, by simpa [Settings.onboarded, hon] using hstream, ?_⟩
    simpa [Settings.onboarded, hon] using h
  · -- onboarded: straight to operating
    have hb : (s₁.phase == .onboarding) = false := by simp [hph₁, startPhase, hon]
    simp only [hb, Bool.false_eq_true, if_false]
    refine (operate_emitted hq s₁).mono ?_
    rintro r s' ⟨rfl, plans, P, src, hstream, h₃⟩
    simp only [h₁.source, h₁.settings, hin₁] at hstream h₃
    refine ⟨rfl, plans, P, src, by simpa [Settings.onboarded, hon] using hstream, ?_⟩
    simpa [Settings.onboarded, hon] using h₁.trans h₃

/-- **A run emits the stored baseline, the onboarding stream and the operating stream**, then
    releases its link and returns its counters. -/
theorem run_emitted (hq : Quiet inbound) (status : DeviceStatus) (s : Session τ)
    (hphase : s.phase = .bootstrapping) (hhist : .terminated ∉ s.history)
    (hw : s.stats.Whole s.settings.ticksPerFrame) :
    (run status : Step τ Stats).Spec s (fun _ => True) fun r s' => r = .ok s'.stats ∧
      ∃ plans P src s₁,
        s.settings.operatingStream s.settings.operatingCycles
          (s.settings.onboarded status s.source).2 = .ok (plans, P, src) ∧
        Emitted inbound s s₁
          (baselineExchanges status ++ (s.settings.onboarded status s.source).1 ++ P)
          (if s.settings.operatingCycles = 0 ∨ s.settings.ticksPerFrame = 0 then []
            else inbound s.link) src
          (plans.countP (·.drowsy)) (plans.countP (·.crashTick.isSome)) ∧
        Recorded s₁.link s'.link [.disconnect (.ok ())] ∧ s'.source = s₁.source ∧
        s'.alert = s₁.alert ∧ s'.stats = s₁.stats := by
  simp only [run, spec_bind, spec_get, spec_say, spec_attempt]
  refine (Step.Spec.and (drive_emitted hq status _ (by exact hphase))
    (drive_went status _ (by exact hphase) (by exact hhist) rfl (by exact hw))).mono ?_
  rintro r s₁ ⟨⟨rfl, plans, P, src, hstream, h₁⟩, E, hm, -⟩
  -- the drive went through, so the session is not terminated and the release is made
  refine (Step.Spec.and (terminate_source s₁) (terminate_exact hq s₁ hm.phase)).mono ?_
  rintro r s₂ ⟨hsrc, -, rfl, -, -, hrec, -, -, hal, hstats⟩
  simp only [spec_bind, spec_get, spec_say, spec_pure]
  exact ⟨trivial, plans, P, src, s₁, hstream,
    h₁.after (by rfl) (by rfl) (by rfl) (by rfl) (by rfl) (by rfl), hrec, hsrc, hal, hstats⟩

end Steps

end SmartHelmet.Session
