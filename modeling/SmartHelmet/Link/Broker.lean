import SmartHelmet.Link.Address
import SmartHelmet.Config.Basic
import SmartHelmet.Net
/-!
# Connecting to the broker

A connection to the broker starts from the broker URL: a URL that names no broker fails before
anything is sent. Then a TCP connection to the broker's host and port is opened; on a network
where that fails, the connection fails with the network's error as an I/O error.
-/

namespace SmartHelmet.Link

/-- **Why connecting to the broker fails** on a network where every TCP connection fails
    with `e`. -/
def connectFailure (settings : BrokerSettings) (e : Net.ConnectError) : Failure :=
  match brokerAddress settings.url with
  | .error f => f
  | .ok _ => .connect ("I/O: " ++ e.message)

end SmartHelmet.Link
