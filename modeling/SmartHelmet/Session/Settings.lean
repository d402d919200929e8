import SmartHelmet.Abort
import SmartHelmet.Geo
import SmartHelmet.Clock.Span
/-!
# Session settings

What one simulated helmet does in a session: how many onboarding and operating cycles it
streams, how a PPG frame is sampled, how many accelerometer ticks a cycle has and how long they
last, how likely a drowsy or crashing cycle is, and where the helmet is.

Counts are 32-bit values and durations are milliseconds. `Settings.frameLen`, the samples of
one PPG frame, is the product of rate and window, which aborts when it leaves 32 bits.
-/

namespace SmartHelmet.Session

open SmartHelmet.Clock

/-- The settings of one session. -/
structure Settings where
  deviceId : String := "HELMET001"
  onboardingCycles : Nat := 12
  operatingCycles : Nat := 100
  sampleRate : Nat := 50
  windowSecs : Nat := 5
  ticksPerFrame : Nat := 50
  tickInterval : Millis := 100
  commandPoll : Millis := 10
  onboardingPause : Millis := 2000
  drowsyProbability : Float := 0.1
  crashProbability : Float := 0.02
  anchor : GeoPoint := ⟨-6.2, 106.8167⟩

/-- **The samples of one PPG frame**: sample rate times window, within 32 bits. -/
def Settings.frameLen (s : Settings) : Except Abort Nat := mul32 s.sampleRate s.windowSecs

end SmartHelmet.Session
