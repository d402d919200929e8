import SmartHelmet.Json.Reader
import SmartHelmet.Url.Parse
import SmartHelmet.Service.Request
/-!
# Status service failures

What can go wrong asking the status service about a device, and the text of each: its
configured URL is no URL or cannot carry a path, the request fails, or the reply is no status
document (with the reader's error).
-/

namespace SmartHelmet.Service

/-- A failure of the status service. -/
inductive Failure where
  | invalidUrl (e : Url.Error)
  | notABase (url : String)
  | request (e : RequestError)
  | decode (e : Json.Error)

/-- **The text of a status service failure.** -/
def Failure.message : Failure → String
  | .invalidUrl e => "invalid service URL: " ++ e.message
  | .notABase url => "service URL cannot carry a path: " ++ url
  | .request e => "status request failed: " ++ e.message
  | .decode e => "malformed status response: " ++ e.message

end SmartHelmet.Service
