import SmartHelmet.Config.Basic
import SmartHelmet.Text.Blank
import SmartHelmet.Decimal.Reading
import SmartHelmet.Decimal.Layout
/-!
# Configuration from named values

`Config.ofLookup` builds the configuration from a lookup of named values (an environment). Each
value is trimmed of blanks at both ends; unset or blank means the default:

* texts (device id, client id, broker and service URLs) stand as trimmed; a device or client id
  may not hold `/`, `+` or `#`, which would leave the device's topics;
* whole numbers are decimal with an optional `+`, within 32 or 64 bits; the keep-alive is at
  least five seconds; sample rate, window and ticks per frame are positive;
* probabilities are doubles in `[0, 1]`; the anchor is any double;
* the user name is taken as given unless empty, the password as given;
* the seed, when its name is set at all, must be a 64-bit whole number.

The values are checked in a fixed order and the first bad one is the error. A value that does
not read is quoted as given, untrimmed; a value out of range is quoted as read.
-/

namespace SmartHelmet

/-- A configuration value that is not acceptable. -/
structure Config.Invalid where
  key : String
  value : String
  deriving Repr, BEq, DecidableEq

/-- **The text of a bad value.** -/
def Config.Invalid.message (e : Config.Invalid) : String :=
  "invalid value '" ++ e.value ++ "' for " ++ e.key

namespace Config

/-- A lookup of named values. -/
abbrev Lookup := String → Option String

/-- Whether a text holds a topic separator or wildcard. -/
def leavesTopic (s : String) : Bool := s.any fun c => c == '/' || c == '+' || c == '#'

/-- A text value, trimmed, or the default when unset or blank. -/
def text (lookup : Lookup) (key default : String) : String :=
  match lookup key with
  | some v => let t := Text.trim v; if t.isEmpty then default else t
  | none => default

/-- A value read by `read` after trimming, or the default when unset or blank; a value that
    does not read is quoted as given. -/
def parsed {α : Type} (lookup : Lookup) (key : String) (read : String → Option α) (default : α) :
    Except Invalid α :=
  match lookup key with
  | some raw =>
    let t := Text.trim raw
    if t.isEmpty then .ok default
    else match read t with
      | some a => .ok a
      | none => .error ⟨key, raw⟩
  | none => .ok default

/-- A whole number below `bound`. -/
def wholeBelow (bound : Nat) (s : String) : Option Nat :=
  (Decimal.readUnsigned? s).filter (· < bound)

/-- A 32-bit whole number. -/
def word32Value : String → Option Nat := wholeBelow 0x100000000

/-- A 64-bit whole number. -/
def word64Value : String → Option Nat := wholeBelow 0x10000000000000000

/-- A positive 32-bit value. -/
def positive (lookup : Lookup) (key : String) (default : Nat) : Except Invalid Nat := do
  let n ← parsed lookup key word32Value default
  if n == 0 then throw ⟨key, "0"⟩ else pure n

/-- A probability: a double in `[0, 1]`, else the double is quoted. -/
def probability (lookup : Lookup) (key : String) (default : Float) : Except Invalid Float := do
  let p ← parsed lookup key Decimal.readFloat? default
  if 0.0 ≤ p && p ≤ 1.0 then pure p else throw ⟨key, Decimal.Layout.plain.render p⟩

/-- The seed: none when unset, else a 64-bit whole number after trimming. -/
def seedValue (lookup : Lookup) : Except Invalid (Option Nat) :=
  match lookup "SIM_SEED" with
  | none => .ok none
  | some raw => match word64Value (Text.trim raw) with
    | some n => .ok (some n)
    | none => .error ⟨"SIM_SEED", raw⟩

/-- **The configuration from named values**, or the first bad value. -/
def ofLookup (lookup : Lookup) : Except Invalid Config := do
  let d : Session.Settings := {}
  let deviceId := text lookup "DEVICE_ID" d.deviceId
  let clientId := text lookup "MQTT_CLIENT_ID" "SmartHelmetSim"
  if leavesTopic deviceId then throw ⟨"DEVICE_ID", deviceId⟩
  if leavesTopic clientId then throw ⟨"MQTT_CLIENT_ID", clientId⟩
  let keepAlive ← parsed lookup "MQTT_KEEP_ALIVE_SECS" word64Value 60
  if keepAlive < 5 then throw ⟨"MQTT_KEEP_ALIVE_SECS", toString keepAlive⟩
  let url := text lookup "MQTT_BROKER_URL" "mqtt://localhost:1883"
  let username := (lookup "MQTT_USERNAME").filter (!·.isEmpty)
  let password := lookup "MQTT_PASSWORD"
  let connectTimeout ← parsed lookup "MQTT_CONNECT_TIMEOUT_MS" word64Value 10000
  let ackTimeout ← parsed lookup "ACK_TIMEOUT_MS" word64Value 10000
  let baseUrl := text lookup "STATUS_SERVICE_URL" "http://localhost/api/fast"
  let timeout ← parsed lookup "HTTP_TIMEOUT_MS" word64Value 10000
  let onboardingCycles ← parsed lookup "ONBOARDING_CYCLES" word32Value d.onboardingCycles
  let operatingCycles ← parsed lookup "OPERATING_CYCLES" word32Value d.operatingCycles
  let sampleRate ← positive lookup "PPG_SAMPLE_RATE" d.sampleRate
  let windowSecs ← positive lookup "PPG_WINDOW_SECS" d.windowSecs
  let ticksPerFrame ← positive lookup "ACCEL_TICKS_PER_FRAME" d.ticksPerFrame
  let tickInterval ← parsed lookup "ACCEL_INTERVAL_MS" word64Value 100
  let commandPoll ← parsed lookup "COMMAND_POLL_MS" word64Value 10
  let onboardingPause ← parsed lookup "ONBOARDING_PAUSE_MS" word64Value 2000
  let drowsyProbability ← probability lookup "DROWSY_PROBABILITY" d.drowsyProbability
  let crashProbability ← probability lookup "CRASH_PROBABILITY" d.crashProbability
  let lat ← parsed lookup "ANCHOR_LAT" Decimal.readFloat? d.anchor.lat
  let lon ← parsed lookup "ANCHOR_LON" Decimal.readFloat? d.anchor.lon
  let seed ← seedValue lookup
  pure {
    broker := { url, clientId, username, password, keepAlive, connectTimeout, ackTimeout }
    service := { baseUrl, timeout }
    session := {
      anchor := ⟨lat, lon⟩, deviceId, onboardingCycles, operatingCycles, sampleRate,
      windowSecs, ticksPerFrame, tickInterval, commandPoll, onboardingPause, drowsyProbability,
      crashProbability }
    seed }

/-- The names the configuration reads. -/
def keys : List String :=
  ["DEVICE_ID", "MQTT_CLIENT_ID", "MQTT_KEEP_ALIVE_SECS", "MQTT_BROKER_URL", "MQTT_USERNAME",
   "MQTT_PASSWORD", "MQTT_CONNECT_TIMEOUT_MS", "ACK_TIMEOUT_MS", "STATUS_SERVICE_URL",
   "HTTP_TIMEOUT_MS", "ONBOARDING_CYCLES", "OPERATING_CYCLES", "PPG_SAMPLE_RATE",
   "PPG_WINDOW_SECS", "ACCEL_TICKS_PER_FRAME", "ACCEL_INTERVAL_MS", "COMMAND_POLL_MS",
   "ONBOARDING_PAUSE_MS", "DROWSY_PROBABILITY", "CRASH_PROBABILITY", "ANCHOR_LAT", "ANCHOR_LON",
   "SIM_SEED"]

end Config

end SmartHelmet
