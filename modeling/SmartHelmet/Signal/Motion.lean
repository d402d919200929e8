import SmartHelmet.Random.Sample
/-!
# Accelerometer samples

Riding is small lateral vibration around gravity on `+z`: `x` and `y` in `[-1, 1]`, `z` in
`[9.3, 10.3]`. An impact is a large shock on every axis with a non-negative vertical part:
`x` and `y` in `[-10, 10]`, `z` in `[0, 10]`. `generate` draws `x`, then `y`, then `z`, one
64-bit word each.
-/

namespace SmartHelmet.Signal

open SmartHelmet.Random

/-- Three-axis acceleration in m/s², `+z` pointing up from the device. -/
structure Accel where
  x : Float
  y : Float
  z : Float

/-- **One accelerometer sample**, an impact when `crash` is set. -/
def generate (crash : Bool) (s : Source) : Accel × Source :=
  let (lat, up, low) : Float × Float × Float := if crash then (10.0, 10.0, 0.0) else (1.0, 10.3, 9.3)
  let (x, s) := s.uniform (-lat) lat
  let (y, s) := s.uniform (-lat) lat
  let (z, s) := s.uniform low up
  (⟨x, y, z⟩, s)

end SmartHelmet.Signal
