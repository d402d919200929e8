import SmartHelmet.Decimal.Binary
/-!
# Reading numbers from text

Settings and probes write numbers as plain text:

* `readUnsigned?` — an optional `+` and at least one decimal digit, nothing else (no blanks, no
  `_`, no other base);
* `readSigned?` — the same with an optional `-` instead;
* `readFloat?` — an optional sign, then `inf`, `infinity` or `nan` in any case, or a decimal
  `digits [. digits] [e [sign] digits]` with at least one digit before the exponent; the value
  is the double nearest to the decimal (`Decimal.nearest`), so `1e400` is infinite and
  `1e-400` zero.
-/

namespace SmartHelmet.Decimal

/-- Whether a character is a decimal digit. -/
def isDigit (c : Char) : Bool := '0' ≤ c && c ≤ '9'

/-- The value of a non-empty run of digits. -/
def digitsValue (cs : List Char) : Nat :=
  cs.foldl (fun n c => n * 10 + (c.toNat - '0'.toNat)) 0

/-- An unsigned integer: `+`? digits. -/
def readUnsigned? (s : String) : Option Nat :=
  let cs := match s.toList with
    | '+' :: rest => rest
    | cs => cs
  if !cs.isEmpty && cs.all isDigit then some (digitsValue cs) else none

/-- A signed integer: `+` or `-`, then digits. -/
def readSigned? (s : String) : Option Int :=
  match s.toList with
  | '-' :: rest =>
    if !rest.isEmpty && rest.all isDigit then some (-(digitsValue rest : Int)) else none
  | _ => (readUnsigned? s).map fun n => (n : Int)

/-- Positive infinity. -/
def infinity : Float := 1.0 / 0.0

/-- The double nearest to `d * 10 ^ e`, with a sign; far beyond the range of doubles the
    answer is infinity or zero without computing the power. -/
def nearestDecimal (negative : Bool) (d : Nat) (e : Int) : Float :=
  let k : Int := (Nat.toDigits 10 d).length
  if d == 0 then nearest negative 0 1
  else if e + k > 311 then (if negative then -infinity else infinity)
  else if e + k < -330 then nearest negative 0 1
  else if e ≥ 0 then nearest negative (d * Nat.pow 10 e.toNat) 1
  else nearest negative d (Nat.pow 10 (-e).toNat)

/-- **A double written in decimal**, or `none` for a text that is no such number. -/
def readFloat? (s : String) : Option Float :=
  let (negative, cs) := match s.toList with
    | '-' :: rest => (true, rest)
    | '+' :: rest => (false, rest)
    | cs => (false, cs)
  let word := (String.ofList cs).toLower
  let sign := fun (x : Float) => if negative then -x else x
  if word == "inf" || word == "infinity" then some (sign infinity)
  else if word == "nan" then some (sign (0.0 / 0.0))
  else
    let whole := cs.takeWhile isDigit
    let cs := cs.dropWhile isDigit
    let (frac, cs) := match cs with
      | '.' :: rest => (rest.takeWhile isDigit, rest.dropWhile isDigit)
      | _ => ([], cs)
    if whole.isEmpty && frac.isEmpty then none
    else
      let exp? : Option Int := match cs with
        | [] => some 0
        | e :: rest =>
          if e == 'e' || e == 'E' then
            let (neg, ds) := match rest with
              | '-' :: r => (true, r)
              | '+' :: r => (false, r)
              | r => (false, r)
            if !ds.isEmpty && ds.all isDigit then
              some (if neg then -(digitsValue ds : Int) else digitsValue ds)
            else none
          else none
      exp?.map fun e => nearestDecimal negative (digitsValue (whole ++ frac)) (e - frac.length)

end SmartHelmet.Decimal
