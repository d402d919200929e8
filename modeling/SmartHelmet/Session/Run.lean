import SmartHelmet.Session.State
import SmartHelmet.Session.Plan
import SmartHelmet.Session.Progress
import SmartHelmet.Signal.Pulse
import SmartHelmet.Signal.Motion
import SmartHelmet.Payload
import SmartHelmet.Decimal.Layout
/-!
# Running a session

A session first settles how it starts from the device's status, then streams, then releases
its link:

* `bootstrap` — a device that is not onboarded goes to onboarding; an onboarded one publishes
  its stored baseline, if it has one, and goes straight to operating;
* `onboard` — each onboarding cycle streams one PPG frame at a resting heart rate and a
  frame's worth of calm accelerometer ticks; then the session pauses;
* `operate` — each operating cycle draws its `Plan`, streams one PPG frame, and per tick one
  accelerometer sample (the crash sample on the planned tick), drains inbound commands, and
  sleeps;
* `terminate` — a session not yet terminated steps to terminated and releases its link;
* `run` — all of it: the run's own failure wins over a failed release. A session that is
  already terminated fails at its first phase step, after what bootstrap does before it (an
  onboarded device publishes its stored baseline again), and is not released again;
* `launch` — the device status and the connection come first; a session runs only when both
  are there.
-/

namespace SmartHelmet.Session

open SmartHelmet.Link
open SmartHelmet.Clock

/-- A text right-aligned in a column of `width` characters. -/
def aligned (width : Nat) (s : String) : String := "".pushn ' ' (width - s.length) ++ s

/-- A number with `places` digits after the point. -/
def places (n : Nat) (x : Float) : String := Decimal.fixed n x

/-- Publish the session's baseline. -/
def publishBaseline {τ : Type} [Transport τ] : Step τ Unit := do
  let b := (← get).baseline
  publish .baseline .atLeastOnce (Payload.bytes (Payload.baseline b))
  count .baselinePublishes
  say .info ("Published baseline: SDNN: " ++ places 2 b.sdnn ++ ", RMSSD: " ++ places 2 b.rmssd ++
    ", pNN50: " ++ places 2 b.pnn50)

/-- Synthesize and publish one PPG frame at a heart rate, from a place. -/
def publishFrame {τ : Type} [Transport τ] (heartRate : Float) (location : GeoPoint) : Step τ Unit := do
  let cfg := (← get).settings
  let n ← Step.abort cfg.frameLen
  let ppg ← draw (Signal.synthesize n cfg.sampleRate heartRate true)
  publish .telemetry .atLeastOnce (Payload.bytes (Payload.telemetry cfg.deviceId ppg cfg.sampleRate location))
  count .ppgFrames

/-- Generate and publish one accelerometer sample, crashing or not, from a place. -/
def publishAccel {τ : Type} [Transport τ] (crash : Bool) (location : GeoPoint) : Step τ Signal.Accel := do
  let cfg := (← get).settings
  let a ← draw (Signal.generate crash)
  publish .accel .fireAndForget (Payload.bytes (Payload.accel cfg.deviceId a location))
  count .accelSamples
  say .debug ("Accel (" ++ places 4 a.x ++ ", " ++ places 4 a.y ++ ", " ++ places 4 a.z ++ ")")
  pure a

/-- Apply inbound commands while receives deliver them, at most `fuel` of them; the first
    receive waits `wait`, the later ones not at all. -/
def drain {τ : Type} [Transport τ] : Nat → Millis → Step τ Unit
  | 0, _ => pure ()
  | fuel + 1, wait => do
    match ← receive wait with
    | none => pure ()
    | some raw =>
      say .debug ("Command received: " ++ Text.Utf8.decodeLossy raw)
      count .commandsReceived
      let (alert, lines) := interpret raw
      keep lines
      modify fun s => { s with alert := alert }
      drain fuel 0

/-- **Poll for commands**: wait the poll interval for one, then apply everything already
    queued, so that the alert follows the latest command. -/
def pollCommands {τ : Type} [Transport τ] : Step τ Unit := do
  let s ← get
  drain (Transport.backlog s.link + 1) s.settings.commandPoll

/-- The calm accelerometer ticks of an onboarding cycle, `n` of them. -/
def calmTicks {τ : Type} [Transport τ] (location : GeoPoint) : Nat → Step τ Unit
  | 0 => pure ()
  | n + 1 => do
    let _ ← publishAccel false location
    sleep (← get).settings.tickInterval
    calmTicks location n

/-- Onboarding cycles `cycle` to the last, `left` of them. -/
def onboardCycles {τ : Type} [Transport τ] : Nat → Nat → Step τ Unit
  | 0, _ => pure ()
  | left + 1, cycle => do
    let cfg := (← get).settings
    let heartRate := (← draw (fun s => s.between restingBand.1 restingBand.2)).toFloat
    let location ← draw cfg.anchor.jitter
    publishFrame heartRate location
    calmTicks location cfg.ticksPerFrame
    count .onboardingCycles
    let n ← Step.abort cfg.frameLen
    say .info ("[" ++ toString cycle ++ "/" ++ toString cfg.onboardingCycles ++ "] " ++
      aligned 3 (toString (percent cycle cfg.onboardingCycles)) ++ "% | Target HR=" ++
      places 0 heartRate ++ " bpm | PPG samples=" ++ toString n)
    onboardCycles left (cycle + 1)

/-- **The onboarding phase**: every onboarding cycle, then the pause. -/
def onboard {τ : Type} [Transport τ] : Step τ Unit := do
  say .info "ONBOARDING PHASE - streaming data for remote baseline computation"
  let cfg := (← get).settings
  onboardCycles cfg.onboardingCycles 1
  say .info "Onboarding data sent, baseline will be computed remotely"
  sleep cfg.onboardingPause

/-- The ticks `tick` to the last of an operating cycle, `left` of them. -/
def operatingTicks {τ : Type} [Transport τ] (plan : Plan) : Nat → Nat → Step τ Unit
  | 0, _ => pure ()
  | left + 1, tick => do
    let impact := plan.crashTick == some tick
    let a ← publishAccel impact plan.location
    if impact then
      say .warn ("CRASH SIMULATED! Accel=(" ++ places 1 a.x ++ ", " ++ places 1 a.y ++ ", " ++
        places 1 a.z ++ ")")
    pollCommands
    sleep (← get).settings.tickInterval
    operatingTicks plan left (tick + 1)

/-- One operating cycle, numbered `cycle`, under its plan. -/
def operatingCycle {τ : Type} [Transport τ] (cycle : Nat) (plan : Plan) : Step τ Unit := do
  let cfg := (← get).settings
  publishFrame plan.heartRate plan.location
  say .info ("[" ++ aligned 3 (toString cycle) ++ "/" ++ toString cfg.operatingCycles ++
    "] PPG sent (HR~" ++ places 0 plan.heartRate ++ ") | GPS=(" ++ places 4 plan.location.lat ++
    ", " ++ places 4 plan.location.lon ++ ")")
  operatingTicks plan cfg.ticksPerFrame 0
  count .operatingCycles
  if plan.drowsy then count .drowsyCycles
  if plan.crashTick.isSome then count .crashCycles
  match (← get).alert with
  | .drowsy => say .info "[DROWSY]"
  | .normal => say .info "[NORMAL]"

/-- Operating cycles `cycle` to the last, `left` of them. -/
def operateCycles {τ : Type} [Transport τ] : Nat → Nat → Step τ Unit
  | 0, _ => pure ()
  | left + 1, cycle => do
    let cfg := (← get).settings
    let plan ← drawOrAbort cfg.plan
    operatingCycle cycle plan
    operateCycles left (cycle + 1)

/-- **The operating phase**: every operating cycle. -/
def operate {τ : Type} [Transport τ] : Step τ Unit := do
  say .info "NORMAL OPERATION - real-time monitoring"
  operateCycles (← get).settings.operatingCycles 1
  say .info "Simulation complete"

/-- **Bootstrap from the device's status.** -/
def bootstrap {τ : Type} [Transport τ] (status : DeviceStatus) : Step τ Unit := do
  let cfg := (← get).settings
  if !status.onboarded then
    let seconds ← Step.abort (mul32 cfg.onboardingCycles cfg.windowSecs)
    say .info ("Device not onboarded, streaming baseline data for " ++ toString cfg.onboardingCycles ++
      " cycles (approx " ++ places 1 (seconds.toFloat / 60.0) ++ " min)")
    advance .onboarding
  else
    say .info "Device already onboarded"
    match status.baseline with
    | some b =>
      modify fun s => { s with baseline := b }
      say .info ("Loaded baseline: SDNN=" ++ places 2 b.sdnn ++ ", RMSSD=" ++ places 2 b.rmssd)
      publishBaseline
    | none => say .warn "No stored baseline for this device, nothing to publish"
    advance .operating

/-- Bootstrap, onboard if the device needs it, then operate. -/
def drive {τ : Type} [Transport τ] (status : DeviceStatus) : Step τ Unit := do
  bootstrap status
  if (← get).phase == .onboarding then
    onboard
    advance .operating
  operate

/-- **End the session**: step to terminated and release the link, unless already terminated. -/
def terminate {τ : Type} [Transport τ] : Step τ Unit := do
  if (← get).phase == .terminated then pure ()
  else
    advance .terminated
    disconnect
    say .info "Transport released"

/-- The failure of a step, if it fails; the session keeps its effects either way. -/
def attempt {τ : Type} (m : Step τ Unit) : Step τ (Option RunError) :=
  tryCatch (do m; pure none) (fun e => pure (some e))

/-- **Run the session** for a device status and return its counters. -/
def run {τ : Type} [Transport τ] (status : DeviceStatus) : Step τ Stats := do
  let s ← get
  say .info ("Session for " ++ s.settings.deviceId ++ " started at " ++ s.stamp)
  let outcome ← attempt (drive status)
  let released ← attempt terminate
  if let some e := outcome then Step.fail e
  if let some e := released then Step.fail e
  let s ← get
  say .info ("Session finished at " ++ s.stamp)
  let c := s.stats
  say .info ("Summary: " ++ toString c.ppgFrames ++ " PPG frames, " ++ toString c.accelSamples ++
    " accel samples, " ++ toString c.baselinePublishes ++ " baseline publishes, " ++
    toString c.commandsReceived ++ " commands received")
  say .info ("  " ++ toString c.onboardingCycles ++ " onboarding cycles, " ++ toString c.operatingCycles ++
    " operating cycles (" ++ toString c.drowsyCycles ++ " drowsy, " ++ toString c.crashCycles ++ " crash)")
  pure (← get).stats

/-- A new session over a link. -/
def start {τ : Type} (settings : Settings) (link : τ) (source : Random.Source)
    (verbose : Bool) : Session τ :=
  { settings, link, source, verbose }

/-- How a launch ended: the status or the connection failed, or a session ran. -/
inductive Launch (τ : Type) where
  /-- The status service failed; no connection was tried. -/
  | unknownStatus (e : Service.Failure)
  /-- The connection failed. -/
  | unconnected (e : Link.Failure)
  /-- A session ran, with its outcome. -/
  | ran (outcome : Except RunError Stats) (session : Session τ)

/-- **Launch a session**: the device's status first, then the connection, then the run. The
    log lines are the launch's own followed by the session's. -/
def launch {τ : Type} [Transport τ] (settings : Settings) (status : Except Service.Failure DeviceStatus)
    (connect : Except Link.Failure τ) (source : Random.Source) (verbose : Bool) :
    Except Abort (Launch τ × Array Log.Entry) :=
  let opening : Array Log.Entry :=
    if verbose then #[⟨.info, Log.sessionTarget, "Checking device status..."⟩] else #[]
  match status with
  | .error e => .ok (.unknownStatus e, opening)
  | .ok status =>
    match connect with
    | .error e => .ok (.unconnected e, opening)
    | .ok link =>
      let s : Session τ := { Session.start settings link source verbose with logs := opening }
      ((run status).run' s).map fun (outcome, s) => (.ran outcome s, s.logs)

end SmartHelmet.Session
