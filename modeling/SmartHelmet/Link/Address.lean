import SmartHelmet.Link.Failure
import SmartHelmet.Url.Parse
/-!
# Broker addresses

A broker is named by a URL; its host and port are where to connect. The port is the URL's own,
or 1883 when it has none — also when the URL names its scheme's default port, which a URL
does not keep. A text that is no URL, or a URL without a host, names no broker.
-/

namespace SmartHelmet.Link

/-- The MQTT port a broker address without one uses. -/
def defaultBrokerPort : Nat := 1883

/-- **The host and port of a broker URL.** -/
def brokerAddress (url : String) : Except Failure (String × Nat) :=
  match Url.parse url with
  | .error _ => .error (.badBrokerUrl url)
  | .ok u =>
    match u.hostText? with
    | some host => if host.isEmpty then .error (.badBrokerUrl url) else .ok (host, u.port.getD defaultBrokerPort)
    | none => .error (.badBrokerUrl url)

end SmartHelmet.Link
