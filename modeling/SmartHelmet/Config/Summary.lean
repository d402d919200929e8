import SmartHelmet.Config.Basic
import SmartHelmet.Log
/-!
# Configuration summary

At start-up the simulator reports its configuration in six lines (device, PPG sampling,
accelerometer cadence, cycles, broker, status service) and a seventh with the seed when one is
set. The PPG line shows the frame length, so a frame length that leaves 32 bits aborts the
report after the first line.
-/

namespace SmartHelmet

/-- A line of the configuration report. -/
def Config.line (message : String) : Log.Entry := ⟨.info, Log.configTarget, message⟩

/-- **The configuration report**: its lines, and the abort that cut it short, if any. -/
def Config.summary (c : Config) : List Log.Entry × Option Abort :=
  let s := c.session
  let device := Config.line ("Device ID: " ++ s.deviceId)
  match s.frameLen with
  | .error a => ([device], some a)
  | .ok n =>
    let lines := [device,
      Config.line ("PPG: " ++ toString s.sampleRate ++ " Hz, " ++ toString n ++ " samples per transmission"),
      Config.line ("Accel: " ++ toString s.ticksPerFrame ++ " samples per frame, every " ++
        toString s.tickInterval ++ " ms"),
      Config.line ("Cycles: " ++ toString s.onboardingCycles ++ " onboarding, " ++
        toString s.operatingCycles ++ " operating"),
      Config.line ("Broker: " ++ c.broker.url),
      Config.line ("Status service: " ++ c.service.baseUrl)]
    match c.seed with
    | some seed => (lines ++ [Config.line ("Random seed: " ++ toString seed)], none)
    | none => (lines, none)

end SmartHelmet
