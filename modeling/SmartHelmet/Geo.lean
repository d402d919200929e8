import SmartHelmet.Random.Sample
/-!
# Positions

A position is latitude and longitude in degrees. `GeoPoint.jitter` moves a position by
`k / 10000` degrees on each axis, `k` drawn from `[0, 100)` for the latitude first, then the
longitude; the draws take 32-bit words.
-/

namespace SmartHelmet

open SmartHelmet.Random

/-- Latitude and longitude in degrees. -/
structure GeoPoint where
  lat : Float
  lon : Float

/-- One coordinate moved by a draw of `[0, 100)` ten-thousandths of a degree. -/
def jitterCoordinate (c : Float) (s : Source) : Float × Source :=
  let (k, s) := s.between 0 99
  (c + k.toFloat / 10000.0, s)

/-- **A position near `p`**, within a hundredth of a degree above it on each axis. -/
def GeoPoint.jitter (p : GeoPoint) (s : Source) : GeoPoint × Source :=
  let (lat, s) := jitterCoordinate p.lat s
  let (lon, s) := jitterCoordinate p.lon s
  (⟨lat, lon⟩, s)

end SmartHelmet
