/-!
# Doubles as exact binary fractions

A double is read from its 64-bit word, never through `Float` arithmetic:

* `Binary` — sign, significand and binary exponent of a finite double, `|x| = m * 2 ^ q`;
* `Binary.ofFloat` — the decoding of a word, subnormals included;
* `Binary.Kind` — finite, infinite or not a number, by the exponent field;
* `nearest` — the double nearest to a non-negative fraction `num / den`, ties to the even
  significand, overflow to infinity. Every reading of decimal text ends here.

The rounding is done in exact `Nat` arithmetic: the fraction is scaled to the unit in the last
place of its binade, divided once, and the remainder decides the last bit.
-/

namespace SmartHelmet.Decimal

/-- A finite double as sign, significand and binary exponent: its magnitude is
    `significand * 2 ^ exponent`. -/
structure Binary where
  negative : Bool
  significand : Nat
  exponent : Int
  deriving Repr, BEq

/-- The three classes of a double word, by its exponent field. -/
inductive Kind where
  | finite
  | infinite
  | nan
  deriving Repr, BEq, DecidableEq

/-- The width of the fraction field of a double. -/
def fractionWidth : Nat := 52

/-- The exponent of the unit in the last place of the subnormals. -/
def leastExponent : Int := -1074

/-- The fraction field of a double word. -/
def fractionField (bits : UInt64) : Nat := (bits &&& 0xFFFFFFFFFFFFF).toNat

/-- The biased exponent field of a double word. -/
def exponentField (bits : UInt64) : Nat := ((bits >>> 52) &&& 0x7FF).toNat

/-- The sign bit of a double word. -/
def signField (bits : UInt64) : Bool := bits >>> 63 == 1

/-- The class of a double: an all-ones exponent is infinity with a zero fraction, else NaN. -/
def kindOf (x : Float) : Kind :=
  let b := x.toBits
  if exponentField b == 0x7FF then
    if fractionField b == 0 then .infinite else .nan
  else .finite

/-- Whether a double carries the sign bit; true of `-0.0`, false of `0.0`. -/
def signBit (x : Float) : Bool := signField x.toBits

/-- Decode a double word into sign, significand and exponent. For an infinity or a NaN the
    fields are read the same way and mean nothing; callers branch on `kindOf` first. -/
def Binary.ofFloat (x : Float) : Binary :=
  let b := x.toBits
  let e := exponentField b
  let f := fractionField b
  if e == 0 then ⟨signField b, f, leastExponent⟩
  else ⟨signField b, f + Nat.pow 2 fractionWidth, (e : Int) - 1075⟩

/-- The value `n * 2 ^ e` of a significand and an exponent, as a fraction `num / den`. -/
def scaled (n : Nat) (e : Int) : Nat × Nat :=
  if 0 ≤ e then (n * Nat.pow 2 e.toNat, 1) else (n, Nat.pow 2 (-e).toNat)

/-- Integer division of `n` by `d` rounded to the nearest integer, a tie going to the even one. -/
def roundHalfEven (n d : Nat) : Nat :=
  let q := n / d
  let r := n % d
  if 2 * r < d then q
  else if 2 * r > d then q + 1
  else if q % 2 == 0 then q else q + 1

/-- `⌊log₂ (num / den)⌋` for a positive fraction: start from the bit lengths, then step once
    toward the true value. -/
def floorLog2 (num den : Nat) : Int :=
  let guess : Int := (Nat.log2 num : Int) - (Nat.log2 den : Int)
  -- 2^guess ≤ num/den holds iff the scaled sides compare so; the guess is off by at most one
  let (a, b) := scaled 1 guess
  if num * b < a * den then guess - 1 else guess

/-- Assemble a double word from sign, a significand below `2 ^ 53` and its exponent; a
    significand at or above `2 ^ 52` is normal, below it subnormal (exponent `-1074`). -/
def assemble (negative : Bool) (m : Nat) (q : Int) : Float :=
  let sign : UInt64 := if negative then 0x8000000000000000 else 0
  if m < Nat.pow 2 fractionWidth then Float.ofBits (sign ||| m.toUInt64)
  else
    let biased := q + 1075
    if biased ≥ 0x7FF then Float.ofBits (sign ||| 0x7FF0000000000000)
    else Float.ofBits (sign ||| (biased.toNat.toUInt64 <<< 52) ||| (m - Nat.pow 2 fractionWidth).toUInt64)

/-- **The double nearest to `num / den`**, with the given sign. The unit in the last place is
    `2 ^ u` with `u = max (⌊log₂ v⌋ - 52) (-1074)`; the quotient by it is rounded half to even,
    and a carry into bit 53 moves to the next binade. Beyond the largest double it is infinite. -/
def nearest (negative : Bool) (num den : Nat) : Float :=
  if num == 0 || den == 0 then assemble negative 0 0
  else
    let e := floorLog2 num den
    let u := max (e - 52) leastExponent
    let (a, b) := scaled 1 u
    -- v / 2^u = (num * b) / (den * a)
    let m := roundHalfEven (num * b) (den * a)
    if m == Nat.pow 2 53 then assemble negative (Nat.pow 2 52) (u + 1)
    else assemble negative m u

/-- The double nearest to the integer `n`. -/
def ofNatNearest (n : Nat) : Float := nearest false n 1

end SmartHelmet.Decimal
