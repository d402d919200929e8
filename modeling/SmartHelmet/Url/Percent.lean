import SmartHelmet.Text.Utf8
/-!
# Percent-encoding

A URL writes a byte that may not stand in a component as `%` and two uppercase hexadecimal
digits. Which ASCII bytes must be written so depends on the component (`EncodeSet`); bytes of
non-ASCII characters always are:

* `controls` — C0 controls and DEL (opaque hosts and paths);
* `fragmentSet` — also space, `"`, `<`, `>` and the backquote;
* `querySet`, `specialQuerySet` — controls, space, `"`, `#`, `<`, `>`, and `'` in special URLs;
* `pathSet` — the fragment set with `#`, `?`, `{` and `}`;
* `userinfoSet` — the path set with `/ : ; = @ [ \ ] ^ |`;
* `segmentSet` — the path set with `/` and `%`, for a segment added whole.

`formEncode` is the form encoding of query values: ASCII letters, digits and `* - . _` stay, a
space becomes `+`, every other byte is written in percent form. `percentDecode` reads `%`
and two hexadecimal digits of either case back into a byte and keeps anything else.
-/

namespace SmartHelmet.Url

/-- The ASCII bytes a component writes in percent form. -/
abbrev EncodeSet := UInt8 → Bool

/-- Whether a byte is one of the characters of a text. -/
def among (chars : String) (b : UInt8) : Bool := chars.any fun c => c.toNat == b.toNat

/-- C0 controls and DEL. -/
def controls : EncodeSet := fun b => b < 0x20 || b == 0x7F

/-- The fragment set. -/
def fragmentSet : EncodeSet := fun b => controls b || among " \"<>`" b

/-- The query set of URLs that are not special. -/
def querySet : EncodeSet := fun b => controls b || among " \"#<>" b

/-- The query set of special URLs. -/
def specialQuerySet : EncodeSet := fun b => querySet b || among "'" b

/-- The path set. -/
def pathSet : EncodeSet := fun b => fragmentSet b || among "#?{}" b

/-- The userinfo set. -/
def userinfoSet : EncodeSet := fun b => pathSet b || among "/:;=@[\\]^|" b

/-- The set of a path segment added whole. -/
def segmentSet : EncodeSet := fun b => pathSet b || among "/%" b

/-- The set of a path segment added whole to a special URL. -/
def specialSegmentSet : EncodeSet := fun b => segmentSet b || among "\\" b

/-- An uppercase hexadecimal digit. -/
def upperDigit (n : Nat) : Char :=
  if n < 10 then Char.ofNat ('0'.toNat + n) else Char.ofNat ('A'.toNat + n - 10)

/-- A byte in percent form. -/
def percentByte (b : UInt8) : String :=
  String.ofList ['%', upperDigit (b.toNat / 16), upperDigit (b.toNat % 16)]

/-- One byte as a component writes it. -/
def encodeByte (set : EncodeSet) (b : UInt8) : String :=
  if b ≥ 0x80 || set b then percentByte b else String.singleton (Char.ofNat b.toNat)

/-- **A text percent-encoded by a set**, byte by byte of its UTF-8 form. -/
def percentEncode (set : EncodeSet) (s : String) : String :=
  (Text.Utf8.encode s).foldl (fun acc b => acc ++ encodeByte set b) ""

/-- One character percent-encoded by a set. -/
def encodeChar (set : EncodeSet) (c : Char) : String := percentEncode set (String.singleton c)

/-- The value of a hexadecimal digit byte of either case. -/
def hexValue (b : UInt8) : Option Nat :=
  if 0x30 ≤ b && b ≤ 0x39 then some (b.toNat - 0x30)
  else if 0x41 ≤ b && b ≤ 0x46 then some (b.toNat - 0x41 + 10)
  else if 0x61 ≤ b && b ≤ 0x66 then some (b.toNat - 0x61 + 10)
  else none

/-- **Bytes with their percent forms read back.** -/
def percentDecode : Bytes → Bytes
  | 0x25 :: h :: l :: more =>
    match hexValue h, hexValue l with
    | some x, some y => (x * 16 + y).toUInt8 :: percentDecode more
    | _, _ => 0x25 :: percentDecode (h :: l :: more)
  | b :: rest => b :: percentDecode rest
  | [] => []
termination_by bs => bs.length

/-- Whether the form encoding keeps a byte as it is. -/
def formKeeps (b : UInt8) : Bool :=
  (0x30 ≤ b && b ≤ 0x39) || (0x41 ≤ b && b ≤ 0x5A) || (0x61 ≤ b && b ≤ 0x7A) || among "*-._" b

/-- **The form encoding of a text.** -/
def formEncode (s : String) : String :=
  (Text.Utf8.encode s).foldl (fun acc b =>
    if formKeeps b then acc.push (Char.ofNat b.toNat)
    else if b == 0x20 then acc.push '+'
    else acc ++ percentByte b) ""

end SmartHelmet.Url
