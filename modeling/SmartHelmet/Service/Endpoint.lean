import SmartHelmet.Service.Failure
import SmartHelmet.Config.Basic
/-!
# The status endpoint

The status service is reached under a base URL, which must be a URL that can carry a path.
The status of a device is at `device/check` below the base, with the device in the query:

* a trailing slash of the base's path is dropped, then `device` and `check` are added;
* the query is replaced by `device_id=` and the device in form encoding;
* the fragment stays.
-/

namespace SmartHelmet.Service

/-- The status service's base URL and request timeout. -/
structure Endpoint where
  base : Url
  timeout : Clock.Millis

/-- **The endpoint of a service configuration**, or why its URL does not do. -/
def Endpoint.ofSettings (s : ServiceSettings) : Except Failure Endpoint :=
  match Url.parse s.baseUrl with
  | .error e => .error (.invalidUrl e)
  | .ok u => if u.cannotBeBase then .error (.notABase s.baseUrl) else .ok ⟨u, s.timeout⟩

/-- **The URL of a device's status.** -/
def Endpoint.checkUrl (e : Endpoint) (device : String) : Url :=
  let u := e.base
  let kind := Url.pathKind u.scheme
  let path := match u.path with
    | .hierarchical text dotted =>
      let text := Url.pushSegment kind (Url.pushSegment kind (Url.popIfEmpty text.toList) "device") "check"
      .hierarchical (String.ofList text) dotted
    | p => p
  { u with path, query := some ("device_id=" ++ Url.formEncode device) }

end SmartHelmet.Service
