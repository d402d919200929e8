import SmartHelmet.Url.Host
import SmartHelmet.Url.Path
/-!
# URLs

A URL record and the text it is written as:

* `Url` — scheme, credentials, host, port, path, query and fragment; the path is the text it
  is written as, or one opaque text (a URL that cannot be a base);
* `defaultPort` — the special schemes and their ports: `ftp` 21, `file` none, `http` 80,
  `https` 443, `ws` 80, `wss` 443; a URL never holds its scheme's default port;
* `Url.text` — the URL written out: `scheme:`, then `//`, credentials, host and port when there
  is a host, then the path (after `/.` when it needs it), `?` and the query, `#` and the
  fragment;
* `Url.hostText?` — the host as written, none for no host or an empty one.
-/

namespace SmartHelmet

open Url in
/-- A parsed URL; texts are stored percent-encoded, as written. -/
structure Url where
  scheme : String
  username : String := ""
  password : String := ""
  host : Option Host := none
  port : Option Nat := none
  path : Path
  query : Option String := none
  fragment : Option String := none
  deriving Repr, BEq, DecidableEq

end SmartHelmet

namespace SmartHelmet.Url

/-- The special schemes, each with its default port, if it has one. -/
def defaultPort (scheme : String) : Option (Option Nat) :=
  match scheme with
  | "ftp" => some (some 21)
  | "file" => some none
  | "http" => some (some 80)
  | "https" => some (some 443)
  | "ws" => some (some 80)
  | "wss" => some (some 443)
  | _ => none

/-- Whether a scheme is special. -/
def isSpecial (scheme : String) : Bool := (defaultPort scheme).isSome

/-- How a scheme reads its path. -/
def pathKind (scheme : String) : PathKind :=
  if scheme == "file" then .file else if isSpecial scheme then .special else .plain

/-- Whether a URL cannot be a base: its path is opaque. -/
def cannotBeBase (u : Url) : Bool :=
  match u.path with
  | .unsegmented _ => true
  | .hierarchical .. => false

/-- The credentials as written before a host: `user:password@`, or nothing. -/
def credentials (u : Url) : String :=
  if u.username.isEmpty && u.password.isEmpty then ""
  else u.username ++ (if u.password.isEmpty then "" else ":" ++ u.password) ++ "@"

/-- **The text of a URL.** -/
def text (u : Url) : String :=
  let authority := match u.host with
    | some h => "//" ++ u.credentials ++ h.text ++ (match u.port with
      | some p => ":" ++ toString p
      | none => "")
    | none => match u.path with
      | .hierarchical _ true => "/."
      | _ => ""
  u.scheme ++ ":" ++ authority ++ u.path.text ++
    (match u.query with | some q => "?" ++ q | none => "") ++
    (match u.fragment with | some f => "#" ++ f | none => "")

/-- **The host of a URL as written**, none when it has none or an empty one. -/
def hostText? (u : Url) : Option String :=
  match u.host with
  | some (.domain "") => none
  | some h => some h.text
  | none => none

end SmartHelmet.Url
