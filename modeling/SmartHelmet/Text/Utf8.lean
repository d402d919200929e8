/-!
# UTF-8 octets

Byte strings are lists of octets. A well-formed character is one alternative of RFC 3629 §4;
this module reads them off the front of a byte string:

* `Bytes` — a byte string;
* `leadWidth`, `secondRange` — the octet ranges of RFC 3629 §4 for a first and a second octet;
* `takeChar?` — a well-formed character and the rest, or the length of the *maximal subpart*
  that is the start of no character (at least one octet);
* `decode?` — the text of a well-formed byte string;
* `decodeLossy` — every maximal ill-formed subpart replaced by U+FFFD, as Unicode §3.9
  recommends; an incomplete character at the end is one subpart.
-/

namespace SmartHelmet

/-- A byte string. -/
abbrev Bytes := List UInt8

namespace Text.Utf8

/-- The width of the character that an octet starts: 1 to 4, or 0 when it starts none. -/
def leadWidth (b : UInt8) : Nat :=
  if b < 0x80 then 1
  else if 0xC2 ≤ b && b ≤ 0xDF then 2
  else if 0xE0 ≤ b && b ≤ 0xEF then 3
  else if 0xF0 ≤ b && b ≤ 0xF4 then 4
  else 0

/-- The range of the second octet after a first octet; `%x80-BF` except after `E0`, `ED`, `F0`
    and `F4`, which exclude overlong forms, surrogates and values above U+10FFFF. -/
def secondRange (b : UInt8) : UInt8 × UInt8 :=
  if b == 0xE0 then (0xA0, 0xBF)
  else if b == 0xED then (0x80, 0x9F)
  else if b == 0xF0 then (0x90, 0xBF)
  else if b == 0xF4 then (0x80, 0x8F)
  else (0x80, 0xBF)

/-- `UTF8-tail = %x80-BF` -/
def isTail (b : UInt8) : Bool := 0x80 ≤ b && b ≤ 0xBF

/-- The code point of a well-formed sequence of `width` octets. -/
def codePoint (width : Nat) (bs : List UInt8) : Nat :=
  let tails := (bs.drop 1).foldl (fun acc b => acc * 64 + (b.toNat % 64)) 0
  match bs with
  | [] => 0
  | b :: _ =>
    let lead := b.toNat
    match width with
    | 1 => lead
    | 2 => (lead % 32) * 64 + tails
    | 3 => (lead % 16) * 4096 + tails
    | _ => (lead % 8) * 262144 + tails

/-- How a byte string starts: with a well-formed character of some width, or with an
    ill-formed subpart of some length that no character extends. -/
inductive Start where
  | char (c : Char) (width : Nat)
  | broken (length : Nat)
  deriving Repr

/-- The number of octets after the first that continue a character, up to `need`: the second
    must lie in `secondRange`, the later ones be tails. -/
def continued (lead : UInt8) (need : Nat) (rest : List UInt8) : Nat :=
  let (lo, hi) := secondRange lead
  match need, rest with
  | 0, _ => 0
  | _ + 1, [] => 0
  | n + 1, b :: more =>
    if lo ≤ b && b ≤ hi then
      1 + ((more.take n).takeWhile isTail).length
    else 0

/-- **How a non-empty byte string starts.** A first octet of width `w` followed by `w - 1`
    fitting octets is a character; otherwise the first octet and the fitting octets after it
    form the maximal ill-formed subpart. -/
def start (b : UInt8) (rest : List UInt8) : Start :=
  let w := leadWidth b
  if w == 0 then .broken 1
  else
    let k := continued b (w - 1) rest
    if k == w - 1 then .char (Char.ofNat (codePoint w (b :: rest.take k))) w
    else .broken (k + 1)

/-- The text of a byte string whose octets are all well-formed, or nothing. -/
def decode? (bs : Bytes) : Option String :=
  go bs.length bs ""
where
  go : Nat → List UInt8 → String → Option String
    | _, [], acc => some acc
    | 0, _ :: _, _ => none
    | fuel + 1, b :: rest, acc =>
      match start b rest with
      | .char c w => go fuel (rest.drop (w - 1)) (acc.push c)
      | .broken _ => none

/-- **The text of a byte string with each maximal ill-formed subpart replaced by U+FFFD.** -/
def decodeLossy (bs : Bytes) : String :=
  go bs.length bs ""
where
  go : Nat → List UInt8 → String → String
    | _, [], acc => acc
    | 0, _ :: _, acc => acc
    | fuel + 1, b :: rest, acc =>
      match start b rest with
      | .char c w => go fuel (rest.drop (w - 1)) (acc.push c)
      | .broken n => go fuel (rest.drop (n - 1)) (acc.push '\uFFFD')

/-- The octets of a text. -/
def encode (s : String) : Bytes := s.toUTF8.toList

end Text.Utf8
end SmartHelmet
