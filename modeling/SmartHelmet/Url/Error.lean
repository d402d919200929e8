/-!
# URL errors

Why a text is no URL: the kinds that parsing without a base URL can meet, and the text of each.
-/

namespace SmartHelmet.Url

/-- Why a text could not be parsed as a URL. -/
inductive Error where
  /-- A special URL, or an authority with credentials or a port, has no host. -/
  | emptyHost
  /-- A domain does not map to an ASCII domain. -/
  | idna
  /-- A port is not a number below `2 ^ 16`. -/
  | invalidPort
  /-- A host ending in a number is no IPv4 address. -/
  | invalidIpv4
  /-- A bracketed host is no IPv6 address. -/
  | invalidIpv6
  /-- A host of a URL that is not special holds a forbidden character. -/
  | invalidDomainCharacter
  /-- The text has no scheme. -/
  | relativeWithoutBase
  deriving Repr, BEq, DecidableEq

/-- **The text of a URL error.** -/
def Error.message : Error → String
  | .emptyHost => "empty host"
  | .idna => "invalid international domain name"
  | .invalidPort => "invalid port number"
  | .invalidIpv4 => "invalid IPv4 address"
  | .invalidIpv6 => "invalid IPv6 address"
  | .invalidDomainCharacter => "invalid domain character"
  | .relativeWithoutBase => "relative URL without a base"

end SmartHelmet.Url
