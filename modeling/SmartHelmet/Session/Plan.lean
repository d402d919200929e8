import SmartHelmet.Session.Settings
/-!
# Cycle plans

Before an operating cycle streams, its random choices are made at once, in this order: whether
the rider is drowsy, whether the cycle crashes, the target heart rate (a whole number of beats
per minute, `55..=64` when drowsy and `65..=84` otherwise), the position near the anchor, and,
for a crashing cycle, the accelerometer tick that carries the impact.

A probability outside `[0, 1]` or a crash with no ticks to carry it aborts.
-/

namespace SmartHelmet.Session

open SmartHelmet.Random

/-- The random choices of one operating cycle. -/
structure Plan where
  drowsy : Bool
  heartRate : Float
  location : GeoPoint
  crashTick : Option Nat

/-- Heart rates of a resting rider while onboarding. -/
def restingBand : Nat × Nat := (65, 79)

/-- Heart rates of a drowsy rider. -/
def drowsyBand : Nat × Nat := (55, 64)

/-- Heart rates of an alert rider. -/
def normalBand : Nat × Nat := (65, 84)

/-- **The plan of one operating cycle**, drawn from the source. -/
def Settings.plan (cfg : Settings) (s : Source) : Except Abort (Plan × Source) := do
  let (drowsy, s) ← s.coin cfg.drowsyProbability
  let (crash, s) ← s.coin cfg.crashProbability
  let band := if drowsy then drowsyBand else normalBand
  let (rate, s) := s.between band.1 band.2
  let (location, s) := cfg.anchor.jitter s
  if crash then
    let (tick, s) ← s.below cfg.ticksPerFrame
    pure (⟨drowsy, rate.toFloat, location, some tick⟩, s)
  else
    pure (⟨drowsy, rate.toFloat, location, none⟩, s)

end SmartHelmet.Session
