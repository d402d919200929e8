import SmartHelmet.Clock.Span
/-!
# Link failures

What can go wrong between a device and its broker, and the text of each:

* the broker address is no URL, or connecting fails;
* a publish is refused, or its acknowledgement does not come in time;
* releasing the connection fails;
* the connection is gone, so nothing more can be sent or received.
-/

namespace SmartHelmet.Link

open SmartHelmet.Clock

/-- A failure on the publish/subscribe link. -/
inductive Failure where
  | badBrokerUrl (url : String)
  | connect (reason : String)
  | publish (topic reason : String)
  | ackTimeout (wait : Millis)
  | disconnect (reason : String)
  | closed
  deriving Repr, BEq

/-- **The text of a link failure.** -/
def Failure.message : Failure → String
  | .badBrokerUrl url => "invalid broker URL '" ++ url ++ "'"
  | .connect reason => "failed to connect to broker: " ++ reason
  | .publish topic reason => "publish to " ++ topic ++ " failed: " ++ reason
  | .ackTimeout wait => "no delivery acknowledgment within " ++ spanText wait
  | .disconnect reason => "disconnect failed: " ++ reason
  | .closed => "transport connection closed"

end SmartHelmet.Link
