import SmartHelmet.Decimal.Binary
/-!
# The truncated remainder of two doubles

`truncRem x y` is `x - n * y` for the integer `n` nearest to `x / y` toward zero, computed
exactly: both doubles are written over their smaller binary exponent, the integer remainder is
taken, and the result, which is always a double, is assembled back. It carries the sign of `x`.
A NaN operand, an infinite `x` or a zero `y` give NaN; an infinite `y` gives `x`.
-/

namespace SmartHelmet.Signal

open SmartHelmet.Decimal

/-- Not a number. -/
def nan : Float := 0.0 / 0.0

/-- **The remainder of `x / y` truncated toward zero, exactly.** -/
def truncRem (x y : Float) : Float :=
  match kindOf x, kindOf y with
  | .nan, _ => nan
  | _, .nan => nan
  | .infinite, _ => nan
  | .finite, .infinite => x
  | .finite, .finite =>
    let bx := Binary.ofFloat x
    let byv := Binary.ofFloat y
    if byv.significand == 0 then nan
    else if bx.significand == 0 then x
    else
      let e := min bx.exponent byv.exponent
      let xs := bx.significand * Nat.pow 2 (bx.exponent - e).toNat
      let ys := byv.significand * Nat.pow 2 (byv.exponent - e).toNat
      let (num, den) := scaled (xs % ys) e
      nearest bx.negative num den

end SmartHelmet.Signal
