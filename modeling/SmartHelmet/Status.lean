import SmartHelmet.Json.Reader
/-!
# The device status reply

The status service answers whether a device finished onboarding, and with the heart-rate
variability baseline computed for it. The reply is one JSON object:

* `onboarded` — a boolean, required, once;
* `baseline_metrics` — optional: `null`, an object of the six metric members (each a number or
  `null`, each at most once, other members ignored), or an array of exactly six numbers or
  `null`s;
* the six metric names may also stand at the top level, each at most once, with a number or
  `null`; they are checked only after the whole object has been read;
* any other member is read in full (so it must be well-formed, within the depth limit, with
  numbers in range) and then ignored.

`DeviceStatus.ofBody` picks the nested metrics when they hold at least one number, the
top-level ones otherwise; the device has a baseline when it is onboarded and the chosen
metrics hold at least one number, absent ones reading as zero.
-/

namespace SmartHelmet

open Json

/-- The heart-rate-variability baseline of a device. -/
structure Baseline where
  meanHr : Float := 0.0
  sdnn : Float := 0.0
  rmssd : Float := 0.0
  pnn50 : Float := 0.0
  lfHfRatio : Float := 0.0
  sd1Sd2Ratio : Float := 0.0

/-- What the status service knows about a device. -/
structure DeviceStatus where
  onboarded : Bool
  baseline : Option Baseline

/-- The six metric names, in baseline order. -/
def metricNames : List String := ["mean_hr", "sdnn", "rmssd", "pnn50", "lf_hf_ratio", "sd1_sd2_ratio"]

/-- The metrics as a reply carries them: each present or not. -/
abbrev Metrics := List (Option Float)

/-- No metric present. -/
def Metrics.absent : Metrics := [Option.none, Option.none, Option.none, Option.none, Option.none, Option.none]

/-- Whether no metric is present. -/
def Metrics.empty (m : Metrics) : Bool := m.all Option.isNone

/-- The baseline of present metrics, absent ones zero. -/
def Metrics.baseline (m : Metrics) : Baseline :=
  let pick := fun i => (m.getD i Option.none).getD 0.0
  ⟨pick 0, pick 1, pick 2, pick 3, pick 4, pick 5⟩

/-- The position of a metric name. -/
def metricIndex (name : String) : Option Nat := metricNames.idxOf? name

/-- Set metric `i`. -/
def Metrics.put (m : Metrics) (i : Nat) (v : Option Float) : Metrics := m.set i v

/-- The expectation named when a metric array is short. -/
def metricsArrayShape : String := "struct MetricsDocument with 6 elements"

/-- An optional metric value. -/
def metricValue : Reader (Option Float) := readOption readDouble

/-- The members of a nested metrics object, after its brace; `seen` marks the metrics met. -/
def metricMembers : Nat → Bool → List Bool → Metrics → Reader Metrics
  | 0, _, _, m => pure m
  | fuel + 1, first, seen, m => do
    if ← nextKey first then
      let key ← readKey
      match metricIndex key with
      | some i =>
        if seen.getD i false then failShape (.duplicateField key)
        colon
        let v ← metricValue
        metricMembers fuel false (seen.set i true) (m.put i v)
      | none =>
        colon
        skipValue
        metricMembers fuel false seen m
    else pure m

/-- The items of a metrics array, after its bracket: six, each required. -/
def metricItems : Nat → Nat → Metrics → Reader Metrics
  | 0, _, m => pure m
  | fuel + 1, i, m => do
    if i ≥ 6 then pure m
    else
      match ← element (i == 0) metricValue with
      | some v => metricItems fuel (i + 1) (m.put i v)
      | none => failShape (.invalidLength i metricsArrayShape)

/-- **The nested metrics**: an object or an array of six. -/
def readMetrics : Reader Metrics := positioned do
  match ← skipBlanks with
  | none => failAhead .eofValue
  | some 91 => within closeArray (metricItems 7 0 Metrics.absent)
  | some 123 => do
    let n := (← get).rest.length
    within closeObject (metricMembers (n + 1) true [false, false, false, false, false, false] Metrics.absent)
  | some _ => wrongKind "struct MetricsDocument"

/-- A buffered top-level metric value: a number, or `null` for absent. -/
def metricOfContent (c : Content) : Reader (Option Float) :=
  match c with
  | .null => pure none
  | .number n => pure (some n.toFloat)
  | other => failShape (.invalidType other.unexpected "f64")

/-- The top-level metrics among the buffered members, in their order; a repeated metric or a
    value that is no number is an error. -/
def inlineMetrics (members : List (String × Content)) : Reader Metrics := do
  let mut seen := [false, false, false, false, false, false]
  let mut m := Metrics.absent
  for (key, value) in members do
    match metricIndex key with
    | some i =>
      if seen.getD i false then failShape (.duplicateField key)
      seen := seen.set i true
      m := m.put i (← metricOfContent value)
    | none => pure ()
  return m

/-- The reply object read so far: the flag, the nested metrics, the other members. -/
structure Reply where
  onboarded : Option Bool := none
  nested : Option (Option Metrics) := none
  others : List (String × Content) := []

/-- One member of the reply object, after its key: its value, taken into the reply. -/
def replyMember (fuel : Nat) (key : String) (r : Reply) : Reader Reply :=
  if key == "onboarded" then do
    if r.onboarded.isSome then failShape (.duplicateField "onboarded")
    colon
    let b ← readBool
    pure { r with onboarded := some b }
  else if key == "baseline_metrics" then do
    if r.nested.isSome then failShape (.duplicateField "baseline_metrics")
    colon
    let m ← readOption readMetrics
    pure { r with nested := some m }
  else do
    colon
    let v ← readContent fuel
    pure { r with others := r.others ++ [(key, v)] }

/-- The members of the reply object, after its brace. -/
def replyMembers : Nat → Bool → Reply → Reader Reply
  | 0, _, r => pure r
  | fuel + 1, first, r => do
    if ← nextKey first then
      let key ← readKey
      let r ← replyMember fuel key r
      replyMembers fuel false r
    else pure r

/-- The status from a finished reply object. -/
def Reply.status (r : Reply) : Reader DeviceStatus := do
  let onboarded ← match r.onboarded with
    | some b => pure b
    | none => failShape (.missingField "onboarded")
  let top ← inlineMetrics r.others
  let chosen := match r.nested with
    | some (some m) => if m.empty then top else m
    | _ => top
  pure ⟨onboarded, if onboarded && !chosen.empty then some chosen.baseline else none⟩

/-- **The reply document**: an object, anything else of the wrong kind. -/
def readStatus : Reader DeviceStatus := positioned do
  match ← skipBlanks with
  | none => failAhead .eofValue
  | some 123 => do
    let n := (← get).rest.length
    within closeObject (do let r ← replyMembers (2 * n + 2) true {}; r.status)
  | some _ => wrongKind "struct StatusDocument"

/-- **The status in a reply body** that is exactly one reply document between blanks. -/
def DeviceStatus.ofBody (body : String) : Except Json.Error DeviceStatus :=
  (do let s ← readStatus; finish; pure s).run' (Text.Utf8.encode body)

end SmartHelmet
