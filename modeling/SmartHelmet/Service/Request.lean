import SmartHelmet.Url.Basic
import SmartHelmet.Net
/-!
# Status requests

A status request is a GET of a URL. It fails before it is sent when the URL has no host or a
scheme other than `http` and `https`, and it fails in sending when no connection can be
opened. Credentials in the URL travel in a header, so the URL a sent request reports has
none.
-/

namespace SmartHelmet.Service

/-- Why a request failed. -/
inductive RequestCause where
  /-- The URL's scheme is not one requests are made with. -/
  | badScheme
  /-- No connection could be opened. -/
  | connect (e : Net.ConnectError)
  deriving Repr, BEq

/-- A failed request: the URL it was for and why it failed. -/
structure RequestError where
  url : Url
  cause : RequestCause
  deriving Repr, BEq

/-- Whether a request fails before it is sent. -/
def RequestError.beforeSending (e : RequestError) : Bool := e.cause == .badScheme

/-- **The text of a failed request.** -/
def RequestError.message (e : RequestError) : String :=
  match e.cause with
  | .badScheme => "builder error for url (" ++ e.url.text ++ "): URL scheme is not allowed"
  | .connect c => "error sending request for url (" ++ e.url.text ++
      "): error trying to connect: tcp connect error: " ++ c.message

/-- A URL without its credentials. -/
def withoutCredentials (u : Url) : Url := { u with username := "", password := "" }

/-- **How a GET of a URL fails** on a network where every connection fails with `e`. -/
def get (u : Url) (e : Net.ConnectError) : RequestError :=
  if u.hostText?.isNone then ⟨u, .badScheme⟩
  else
    let u := withoutCredentials u
    if u.scheme != "http" && u.scheme != "https" then ⟨u, .badScheme⟩
    else ⟨u, .connect e⟩

end SmartHelmet.Service
