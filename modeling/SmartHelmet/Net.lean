/-!
# Network outcomes

How an attempt to open a TCP connection fails, with the operating system's text and code:
the network cannot be reached, or nothing listens at the address.
-/

namespace SmartHelmet.Net

/-- Why a TCP connection could not be opened. -/
inductive ConnectError where
  | unreachable
  | refused
  deriving Repr, BEq, DecidableEq

/-- The operating system's error number. -/
def ConnectError.code : ConnectError → Nat
  | .unreachable => 101
  | .refused => 111

/-- The operating system's description. -/
def ConnectError.description : ConnectError → String
  | .unreachable => "Network is unreachable"
  | .refused => "Connection refused"

/-- The name of the kind of error. -/
def ConnectError.kindName : ConnectError → String
  | .unreachable => "NetworkUnreachable"
  | .refused => "ConnectionRefused"

/-- **The text of a connection error**: the description and the error number. -/
def ConnectError.message (e : ConnectError) : String :=
  e.description ++ " (os error " ++ toString e.code ++ ")"

end SmartHelmet.Net
