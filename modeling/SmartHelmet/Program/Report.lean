import SmartHelmet.Session.Error
import SmartHelmet.Config.Lookup
import SmartHelmet.Text.Quoted
/-!
# Error reports

When the program ends with an error it prints the error's structure, field by field, after
`Error: `: variant names, then their fields in parentheses or braces, texts quoted with their
silent characters escaped, absent values as `None`. This module writes that structure for
every error the program can end with, down to the URLs and network errors inside them.
-/

namespace SmartHelmet.Program

open SmartHelmet.Text

/-- A record: its name, then its fields between braces. -/
def record (name : String) (fields : List (String × String)) : String :=
  name ++ " \x7b " ++ ", ".intercalate (fields.map fun (k, v) => k ++ ": " ++ v) ++ " \x7d"

/-- A variant with positional fields. -/
def tuple (name : String) (fields : List String) : String :=
  name ++ "(" ++ ", ".intercalate fields ++ ")"

/-- An optional part: a present value as a one-field variant, or the word for none. -/
def optional {α : Type} (f : α → String) : Option α → String
  | some a => tuple "Some" [f a]
  | none => "None"

/-- A configuration error. -/
def reportConfig (e : Config.Invalid) : String :=
  record "Invalid" [("key", quoted e.key), ("value", quoted e.value)]

/-- The name of a URL error. -/
def reportUrlError : Url.Error → String
  | .emptyHost => "EmptyHost"
  | .idna => "IdnaError"
  | .invalidPort => "InvalidPort"
  | .invalidIpv4 => "InvalidIpv4Address"
  | .invalidIpv6 => "InvalidIpv6Address"
  | .invalidDomainCharacter => "InvalidDomainCharacter"
  | .relativeWithoutBase => "RelativeUrlWithoutBase"

/-- The text of an IPv6 address on its own, outside a URL: an IPv4-mapped address ends in
    dotted decimal. -/
def ipv6Address (pieces : List Nat) : String :=
  match pieces with
  | [0, 0, 0, 0, 0, 0xFFFF, a, b] => "::ffff:" ++ Url.ipv4Text (a * 65536 + b)
  | _ => Url.ipv6Text pieces

/-- A URL host. -/
def reportHost : Url.Host → String
  | .domain name => "Domain(" ++ quoted name ++ ")"
  | .ipv4 a => "Ipv4(" ++ Url.ipv4Text a ++ ")"
  | .ipv6 pieces => "Ipv6(" ++ ipv6Address pieces ++ ")"

/-- A URL, field by field. -/
def reportUrl (u : Url) : String :=
  let host := match u.host with
    | some (.domain "") => none
    | h => h
  record "Url" [("scheme", quoted u.scheme), ("cannot_be_a_base", toString u.cannotBeBase),
    ("username", quoted u.username),
    ("password", optional quoted (if u.password.isEmpty then none else some u.password)),
    ("host", optional reportHost host), ("port", optional toString u.port),
    ("path", quoted u.path.text), ("query", optional quoted u.query),
    ("fragment", optional quoted u.fragment)]

/-- A failed request. -/
def reportRequest (e : Service.RequestError) : String :=
  match e.cause with
  | .badScheme =>
    record "reqwest::Error" [("kind", "Builder"), ("url", reportUrl e.url), ("source", "BadScheme")]
  | .connect c =>
    let os := record "Os" [("code", toString c.code), ("kind", c.kindName),
      ("message", quoted c.description)]
    let source := tuple "hyper::Error" ["Connect", tuple "ConnectError" [quoted "tcp connect error", os]]
    record "reqwest::Error" [("kind", "Request"), ("url", reportUrl e.url), ("source", source)]

/-- A reader error: the fault's text, then its position. -/
def reportJson (e : Json.Error) : String :=
  let (line, column) := e.position.getD (0, 0)
  tuple "Error" [quoted e.fault.message, "line: " ++ toString line, "column: " ++ toString column]

/-- A status service failure. -/
def reportService : Service.Failure → String
  | .invalidUrl e => "InvalidUrl(" ++ reportUrlError e ++ ")"
  | .notABase url => "NotABase(" ++ quoted url ++ ")"
  | .request e => "Http(" ++ reportRequest e ++ ")"
  | .decode e => "Decode(" ++ reportJson e ++ ")"

/-- A link failure. -/
def reportLink : Link.Failure → String
  | .badBrokerUrl url => "InvalidBrokerUrl(" ++ quoted url ++ ")"
  | .connect reason => "Connect(" ++ quoted reason ++ ")"
  | .publish topic reason => record "Publish" [("topic", quoted topic), ("reason", quoted reason)]
  | .ackTimeout wait => "AckTimeout(" ++ Clock.spanText wait ++ ")"
  | .disconnect reason => "Disconnect(" ++ quoted reason ++ ")"
  | .closed => "Closed"

/-- **A run error**, field by field. -/
def reportRun : Session.RunError → String
  | .link f => "Transport(" ++ reportLink f ++ ")"
  | .service f => "Service(" ++ reportService f ++ ")"
  | .illegalStep src dst => record "InvalidTransition" [("from", src.name), ("to", dst.name)]

end SmartHelmet.Program
