import SmartHelmet.Decimal.Binary
/-!
# Numbers read from JSON text

A JSON number is read the way a fast streaming reader reads it, not by exact rounding:

* `Number` — an unsigned or signed 64-bit integer, or a double;
* `fitsAfter` — whether one more digit keeps a significand within 64 bits; digits that do not
  fit are dropped (an integer digit then raises the exponent by one);
* `fromParts` — the double of a significand and a decimal exponent: the significand rounded to
  a double, then multiplied or divided once by the double nearest to `10 ^ |e|`; an exponent
  beyond 308 first divides by `1e308` as often as needed. A product that overflows, or a
  positive exponent beyond the table with a non-zero significand, is out of range.

The result is then not always the double nearest to the decimal, which is what the readers of
this library must reproduce.
-/

namespace SmartHelmet.Json

/-- A number as a JSON reader produces it. -/
inductive Number where
  | unsigned (n : Nat)
  | signed (i : Int)
  | float (x : Float)

/-- The largest 64-bit unsigned value. -/
def maxWord : Nat := 0xFFFFFFFFFFFFFFFF

/-- Whether `sig * 10 + d` stays within 64 bits. -/
def fitsAfter (sig d : Nat) : Bool :=
  !(sig ≥ maxWord / 10 && (sig > maxWord / 10 || d > maxWord % 10))

/-- The largest 32-bit signed value, the bound of an exponent. -/
def maxExponent : Nat := 0x7FFFFFFF

/-- Whether `e * 10 + d` stays within a 32-bit signed exponent. -/
def exponentFitsAfter (e d : Nat) : Bool :=
  !(e ≥ maxExponent / 10 && (e > maxExponent / 10 || d > maxExponent % 10))

/-- The doubles nearest to `10 ^ k` for `k ≤ 308`. -/
def powersOfTen : Array Float :=
  ((List.range 309).map fun k => Decimal.ofNatNearest (Nat.pow 10 k)).toArray

/-- `a + b` held within 32-bit signed exponents. -/
def saturatingAdd (a b : Int) : Int :=
  max (-(maxExponent : Int) - 1) (min (maxExponent : Int) (a + b))

/-- Whether a double is infinite. -/
def isInfinite (x : Float) : Bool := Decimal.kindOf x == .infinite

/-- **The double of `sig * 10 ^ e`** as the streaming reader computes it, or `none` when it is
    out of range. The loop divides by `1e308` at most as often as `e` has such steps. -/
def fromParts (negative : Bool) (sig : Nat) (e : Int) : Option Float :=
  let start := Decimal.ofNatNearest sig
  let rec go : Nat → Float → Int → Option Float
    | 0, f, _ => some f
    | fuel + 1, f, e =>
      match powersOfTen[e.natAbs]? with
      | some p =>
        if e ≥ 0 then
          let g := f * p
          if isInfinite g then none else some g
        else some (f / p)
      | none =>
        if f == 0.0 then some f
        else if e ≥ 0 then none
        else go fuel (f / 1e308) (e + 308)
  (go (e.natAbs / 308 + 2) start e).map fun f => if negative then -f else f

/-- The double a number stands for: integers rounded to the nearest double. -/
def Number.toFloat : Number → Float
  | .unsigned n => Decimal.ofNatNearest n
  | .signed i => if i < 0 then -(Decimal.ofNatNearest i.natAbs) else Decimal.ofNatNearest i.natAbs
  | .float x => x

end SmartHelmet.Json
