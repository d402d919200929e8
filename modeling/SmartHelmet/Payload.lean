import SmartHelmet.Json.Value
import SmartHelmet.Status
import SmartHelmet.Geo
import SmartHelmet.Signal.Motion
import SmartHelmet.Text.Utf8
/-!
# Wire payloads

What a device publishes, as compact JSON objects with members in a fixed order:

* telemetry — `device_id`, `ppg` (the readings), `sample_rate`, `lat`, `lon`;
* accel — `device_id`, `accel_x`, `accel_y`, `accel_z`, `lat`, `lon`;
* baseline — `mean_hr`, `sdnn`, `rmssd`, `pnn50`, `lf_hf_ratio`, `sd1_sd2_ratio`.

Doubles are written by `Json.floatText`: shortest digits, and `null` for NaN and infinities.
-/

namespace SmartHelmet.Payload

open Json

/-- A telemetry frame: one PPG window at a position. -/
def telemetry (device : String) (ppg : List Nat) (rate : Nat) (spot : GeoPoint) : Value :=
  .object [("device_id", .str device), ("ppg", .array (ppg.map fun (n : Nat) => Value.int (Int.ofNat n))),
    ("sample_rate", .int rate), ("lat", .float spot.lat), ("lon", .float spot.lon)]

/-- An accelerometer sample at a position. -/
def accel (device : String) (a : Signal.Accel) (spot : GeoPoint) : Value :=
  .object [("device_id", .str device), ("accel_x", .float a.x), ("accel_y", .float a.y),
    ("accel_z", .float a.z), ("lat", .float spot.lat), ("lon", .float spot.lon)]

/-- A baseline. -/
def baseline (b : Baseline) : Value :=
  .object [("mean_hr", .float b.meanHr), ("sdnn", .float b.sdnn), ("rmssd", .float b.rmssd),
    ("pnn50", .float b.pnn50), ("lf_hf_ratio", .float b.lfHfRatio),
    ("sd1_sd2_ratio", .float b.sd1Sd2Ratio)]

/-- **The bytes of a payload**: its compact JSON text in UTF-8. -/
def bytes (v : Value) : Bytes := Text.Utf8.encode v.render

end SmartHelmet.Payload
