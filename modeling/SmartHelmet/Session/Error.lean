import SmartHelmet.Link.Failure
import SmartHelmet.Service.Failure
import SmartHelmet.Session.Phase
/-!
# Session errors

A session run ends early for one of three causes: its link failed, the status service failed
(before the session began), or a phase step was illegal. `RunError.message` is the text of
each, with the cause's own text after a word on where it came from.
-/

namespace SmartHelmet.Session

/-- Why a session run failed. -/
inductive RunError where
  | link (f : Link.Failure)
  | service (f : Service.Failure)
  | illegalStep (src dst : Phase)

/-- **The text of a run error.** -/
def RunError.message : RunError → String
  | .link f => "transport error: " ++ f.message
  | .service f => "status service error: " ++ f.message
  | .illegalStep src dst => "illegal session transition " ++ src.name ++ " -> " ++ dst.name

end SmartHelmet.Session
