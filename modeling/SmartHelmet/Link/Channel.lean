/-!
# Channels, topics and delivery

A device talks on four channels, each its own topic `helmet/<device>/<channel>`:

* `Channel` — telemetry, accel, baseline (outbound) and command (inbound);
* `Channel.topic` — the topic of a channel of a device;
* `Delivery` — fire-and-forget, or at-least-once (the sender waits for the broker's
  acknowledgement); `Delivery.qos` is the MQTT quality of service of each.
-/

namespace SmartHelmet.Link

/-- The logical channels of one device. -/
inductive Channel where
  | telemetry
  | accel
  | baseline
  | command
  deriving Repr, BEq, DecidableEq

/-- The last level of a channel's topic. -/
def Channel.suffix : Channel → String
  | .telemetry => "telemetry"
  | .accel => "accel"
  | .baseline => "baseline"
  | .command => "command"

/-- **The topic of a channel of a device**: `helmet/<device>/<channel>`. -/
def Channel.topic (device : String) (c : Channel) : String :=
  "helmet/" ++ device ++ "/" ++ c.suffix

/-- The delivery guarantee of a publish. -/
inductive Delivery where
  /-- No acknowledgement; the sender does not wait. -/
  | fireAndForget
  /-- The sender waits until the broker confirms delivery. -/
  | atLeastOnce
  deriving Repr, BEq, DecidableEq

/-- MQTT quality-of-service levels. -/
inductive Qos where
  | atMostOnce
  | atLeastOnce
  | exactlyOnce
  deriving Repr, BEq, DecidableEq

/-- The MQTT level that carries each delivery guarantee. -/
def Delivery.qos : Delivery → Qos
  | .fireAndForget => .atMostOnce
  | .atLeastOnce => .atLeastOnce

/-- The name of a delivery guarantee. -/
def Delivery.name : Delivery → String
  | .fireAndForget => "FireAndForget"
  | .atLeastOnce => "AtLeastOnce"

/-- The name of a quality-of-service level. -/
def Qos.name : Qos → String
  | .atMostOnce => "AtMostOnce"
  | .atLeastOnce => "AtLeastOnce"
  | .exactlyOnce => "ExactlyOnce"

end SmartHelmet.Link
