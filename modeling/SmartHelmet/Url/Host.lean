import SmartHelmet.Url.Error
import SmartHelmet.Url.Percent
import SmartHelmet.Url.Domain
import SmartHelmet.Text.Hex
/-!
# Hosts

The host of a URL is a domain, an IPv4 address or an IPv6 address:

* `Host.parse` — the host of a special URL: a bracketed IPv6 address, or a text that is
  percent-decoded, mapped to an ASCII domain, and read as an IPv4 address when its last label
  is a number (decimal, octal with a leading `0`, or hexadecimal with `0x`);
* `Host.parsePlain` — the host of any other URL: a bracketed IPv6 address, or a text without
  forbidden characters, kept as written with controls and non-ASCII bytes percent-encoded;
* `Host.text` — the host as a URL writes it: IPv4 in dotted decimal, IPv6 in brackets with
  lowercase hexadecimal pieces and the first longest run of two or more zero pieces written
  `::`.
-/

namespace SmartHelmet.Url

/-- The host of a URL. -/
inductive Host where
  /-- A domain, or the host of a URL that is not special, as the URL writes it. -/
  | domain (name : String)
  | ipv4 (address : Nat)
  /-- Eight 16-bit pieces. -/
  | ipv6 (pieces : List Nat)
  deriving Repr, BEq, DecidableEq

/-- The digits of a number in a radix, or `none` when a character is no such digit. -/
def digitsIn (radix : Nat) (cs : List Char) : Option Nat :=
  cs.foldlM (fun acc c => do
    let d ← Text.Hex.digit? c
    if d < radix then some (acc * radix + d) else none) 0

/-- A part of an IPv4 address: decimal, octal after a leading `0`, hexadecimal after `0x`;
    `0x` alone is zero. -/
def ipv4Number (cs : List Char) : Option Nat :=
  match cs with
  | [] => none
  | '0' :: x :: rest =>
    if x == 'x' || x == 'X' then (if rest.isEmpty then some 0 else digitsIn 16 rest)
    else digitsIn 8 (x :: rest)
  | _ => digitsIn 10 cs

/-- Whether a domain ends in a number, which makes it an IPv4 address or an error. -/
def endsInNumber (domain : String) : Bool :=
  let parts := (splitAt '.' domain.toList).reverse
  let last := match parts with
    | [] :: next :: _ => some next
    | [] :: [] => none
    | last :: _ => some last
    | [] => none
  match last with
  | none => false
  | some last => (!last.isEmpty && last.all Char.isDigit) || (ipv4Number last).isSome

/-- **The IPv4 address a domain ending in a number spells.** -/
def parseIpv4 (domain : String) : Except Error Nat := do
  let parts := splitAt '.' domain.toList
  let parts := if parts.getLast? == some [] then parts.dropLast else parts
  if parts.length > 4 then throw .invalidIpv4
  let numbers ← parts.mapM fun p => match ipv4Number p with
    | some n => if n < 0x100000000 then pure n else throw .invalidIpv4
    | none => throw .invalidIpv4
  match numbers.getLast? with
  | none => throw .invalidIpv4
  | some last =>
    let front := numbers.dropLast
    if last ≥ Nat.pow 256 (4 - front.length) then throw .invalidIpv4
    if front.any (· > 255) then throw .invalidIpv4
    pure (front.zipIdx.foldl (fun acc (n, i) => acc + n * Nat.pow 256 (3 - i)) last)

/-- Up to four hexadecimal digits: their value, their count, and the rest. -/
def hexPiece : Nat → List Char → Nat → Nat × Nat × List Char
  | 0, cs, v => (v, 4, cs)
  | k + 1, c :: rest, v =>
    match Text.Hex.digit? c with
    | some d => hexPiece k rest (v * 16 + d)
    | none => (v, 4 - (k + 1), c :: rest)
  | k + 1, [], v => (v, 4 - (k + 1), [])

/-- A decimal part of an IPv4 address inside an IPv6 address: at most 255, no leading zero;
    with the rest after it. -/
def ipv4Piece : List Char → Option Nat → Option (Nat × List Char)
  | c :: rest, acc =>
    if c.isDigit then
      let d := c.toNat - '0'.toNat
      match acc with
      | some 0 => none
      | some v => if v * 10 + d > 255 then none else ipv4Piece rest (some (v * 10 + d))
      | none => ipv4Piece rest (some d)
    else acc.map fun v => (v, c :: rest)
  | [], acc => acc.map fun v => (v, [])

/-- The parts of an IPv4 address ending an IPv6 address, `seen` read so far, written two to a
    piece from `index` on; at most `fuel` parts more. -/
def ipv4Tail : Nat → Array Nat → Nat → Nat → List Char → Option (Array Nat × Nat)
  | 0, _, _, _, _ => none
  | fuel + 1, pieces, index, seen, cs =>
    if cs.isEmpty then (if seen == 4 then some (pieces, index) else none)
    else
      let next := if seen > 0 then (match cs with
        | '.' :: rest => if seen < 4 then some rest else none
        | _ => none) else some cs
      match next with
      | some (c :: more) =>
        if !c.isDigit then none
        else match ipv4Piece (c :: more) none with
          | none => none
          | some (v, rest) =>
            let pieces := pieces.modify index (· * 0x100 + v)
            let index := if seen + 1 == 2 || seen + 1 == 4 then index + 1 else index
            ipv4Tail fuel pieces index (seen + 1) rest
      | _ => none

/-- The pieces of an IPv6 address read so far: the pieces, where the next goes, and where
    `::` stood. -/
structure Ipv6State where
  pieces : Array Nat := Array.replicate 8 0
  index : Nat := 0
  compress : Option Nat := none

/-- Read the pieces of an IPv6 address, at most `fuel` steps. -/
def ipv6Pieces : Nat → Ipv6State → List Char → Option Ipv6State
  | 0, _, _ => none
  | _, st, [] => some st
  | fuel + 1, st, c :: rest =>
    if st.index == 8 then none
    else if c == ':' then
      if st.compress.isSome then none
      else ipv6Pieces fuel { st with index := st.index + 1, compress := some (st.index + 1) } rest
    else
      let (value, length, after) := hexPiece 4 (c :: rest) 0
      match after with
      | '.' :: _ =>
        if length == 0 || st.index > 6 then none
        else (ipv4Tail 5 st.pieces st.index 0 (c :: rest)).map fun (pieces, index) =>
          { st with pieces, index }
      | ':' :: more =>
        if more.isEmpty then none
        else ipv6Pieces fuel { st with pieces := st.pieces.setIfInBounds st.index value, index := st.index + 1 } more
      | [] => some { st with pieces := st.pieces.setIfInBounds st.index value, index := st.index + 1 }
      | _ => none

/-- Move the pieces after `::` to the end. -/
def Ipv6State.expand (st : Ipv6State) (c : Nat) : Array Nat :=
  let moved := st.index - c
  let tail := (st.pieces.toList.drop c).take moved
  let front := st.pieces.toList.take c
  (front ++ List.replicate (8 - c - moved) 0 ++ tail).toArray

/-- **The eight pieces of an IPv6 address**, from the text between its brackets. -/
def parseIpv6 (text : List Char) : Except Error (List Nat) :=
  let start : Option (Ipv6State × List Char) := match text with
    | ':' :: ':' :: rest => some ({ index := 1, compress := some 1 }, rest)
    | ':' :: _ => none
    | _ => some ({}, text)
  match start with
  | none => .error .invalidIpv6
  | some (st, rest) =>
    match ipv6Pieces (rest.length + 1) st rest with
    | none => .error .invalidIpv6
    | some st =>
      match st.compress with
      | some c => .ok (st.expand c).toList
      | none => if st.index == 8 then .ok st.pieces.toList else .error .invalidIpv6

/-- Lowercase hexadecimal digits of a number, without leading zeros. -/
def hexText (n : Nat) : String := String.ofList (Nat.toDigits 16 n)

/-- The first longest run of two or more zero pieces: its start and length. -/
def longestZeros (pieces : List Nat) : Option (Nat × Nat) :=
  let step := fun (acc : Option (Nat × Nat) × Option Nat × Nat) (p : Nat × Nat) =>
    let (best, start, _) := acc
    let (v, i) := p
    if v == 0 then
      let s := start.getD i
      let len := i + 1 - s
      let best := match best with
        | some (_, l) => if len > l then some (s, len) else best
        | none => some (s, len)
      (best, some s, 0)
    else (best, none, 0)
  let (best, _, _) := pieces.zipIdx.foldl step (none, none, 0)
  best.filter fun (_, len) => len ≥ 2

/-- The text of an IPv6 address, without brackets. -/
def ipv6Text (pieces : List Nat) : String :=
  match longestZeros pieces with
  | none => ":".intercalate (pieces.map hexText)
  | some (start, len) =>
    let front := (pieces.take start).map hexText
    let back := (pieces.drop (start + len)).map hexText
    ":".intercalate front ++ "::" ++ ":".intercalate back

/-- The text of an IPv4 address. -/
def ipv4Text (a : Nat) : String :=
  ".".intercalate ([a / 0x1000000 % 256, a / 0x10000 % 256, a / 0x100 % 256, a % 256].map toString)

/-- **A host as a URL writes it.** -/
def Host.text : Host → String
  | .domain name => name
  | .ipv4 a => ipv4Text a
  | .ipv6 pieces => "[" ++ ipv6Text pieces ++ "]"

/-- **The host of a special URL.** -/
def Host.parse (input : String) : Except Error Host :=
  match input.toList with
  | '[' :: rest =>
    if rest.getLast? == some ']' then (parseIpv6 rest.dropLast).map .ipv6
    else .error .invalidIpv6
  | _ =>
    let decoded := Text.Utf8.decodeLossy (percentDecode (Text.Utf8.encode input))
    match domainToAscii decoded with
    | none => .error .idna
    | some d =>
      if d.isEmpty then .error .emptyHost
      else if endsInNumber d then (parseIpv4 d).map .ipv4
      else .ok (.domain d)

/-- The characters no host may hold. -/
def forbiddenInHost (c : Char) : Bool :=
  c == '\x00' || "\t\n\r #/:<>?@[\\]^|".any (· == c)

/-- **The host of a URL that is not special.** -/
def Host.parsePlain (input : String) : Except Error Host :=
  match input.toList with
  | '[' :: rest =>
    if rest.getLast? == some ']' then (parseIpv6 rest.dropLast).map .ipv6
    else .error .invalidIpv6
  | cs =>
    if cs.any forbiddenInHost then .error .invalidDomainCharacter
    else .ok (.domain (percentEncode controls input))

end SmartHelmet.Url
