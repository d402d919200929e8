/-!
# Log lines

What the library reports while it works: a level, the part of the program that speaks (its
target), and the text. Operations that log return their lines beside their results, in the
order they were emitted; nothing here prints.
-/

namespace SmartHelmet.Log

/-- How important a line is. -/
inductive Level where
  | error
  | warn
  | info
  | debug
  deriving Repr, BEq, DecidableEq

/-- The name of a level, in capitals. -/
def Level.name : Level → String
  | .error => "ERROR"
  | .warn => "WARN"
  | .info => "INFO"
  | .debug => "DEBUG"

/-- One log line. -/
structure Entry where
  level : Level
  target : String
  message : String
  deriving Repr, BEq

/-- The targets of the library's parts. -/
def sessionTarget : String := "helmet_sim::session"
def commandTarget : String := "helmet_sim::command"
def configTarget : String := "helmet_sim::config"
def brokerTarget : String := "helmet_sim::transport::mqtt"
def serviceTarget : String := "helmet_sim::service::http"
def programTarget : String := "helmet_sim"

end SmartHelmet.Log
