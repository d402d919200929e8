import SmartHelmet.Text.Utf8
/-!
# Hexadecimal byte text

Two hexadecimal digits per octet: `ofHex?` reads either case and refuses an odd length or a
character that is no digit; `toHex` writes lowercase.
-/

namespace SmartHelmet.Text.Hex

/-- The value of a hexadecimal digit of either case. -/
def digit? (c : Char) : Option Nat :=
  if '0' ≤ c && c ≤ '9' then some (c.toNat - '0'.toNat)
  else if 'a' ≤ c && c ≤ 'f' then some (c.toNat - 'a'.toNat + 10)
  else if 'A' ≤ c && c ≤ 'F' then some (c.toNat - 'A'.toNat + 10)
  else none

/-- The lowercase digit of a value below 16. -/
def lowerDigit (n : Nat) : Char :=
  if n < 10 then Char.ofNat ('0'.toNat + n) else Char.ofNat ('a'.toNat + n - 10)

/-- The octets that a hexadecimal text spells, two digits each. -/
def ofHex? (s : String) : Option Bytes :=
  go s.toList
where
  go : List Char → Option Bytes
    | [] => some []
    | [_] => none
    | a :: b :: rest => do
      let x ← digit? a
      let y ← digit? b
      let tail ← go rest
      pure ((x * 16 + y).toUInt8 :: tail)

/-- Lowercase hexadecimal text of a byte string. -/
def toHex (bs : Bytes) : String :=
  bs.foldl (fun acc b => (acc.push (lowerDigit (b.toNat / 16))).push (lowerDigit (b.toNat % 16))) ""

end SmartHelmet.Text.Hex
