import SmartHelmet.Decimal.Shortest
/-!
# Writing a double as text

Two ways a double becomes text here:

* `Layout` — the shortest digits placed by a record of decisions: where positional notation
  stops, whether an integral value keeps `.0`, how the exponent is marked, the texts of NaN and
  infinity. `Layout.wire` is the JSON number text of payloads and answers, `Layout.plain` the
  human-readable form used in messages (positional always).
* `fixed` — a fixed number of places: the exact binary value rounded half to even at that
  place; a negative value keeps its sign even when it rounds to zero.
-/

namespace SmartHelmet.Decimal

/-- The decisions that place shortest digits. With `n` digits and exponent `k`, the point sits
    `n + k` digits from the left; positional notation is used while that is in
    `(positionalAbove, positionalUpTo]`. -/
structure Layout where
  /-- Positional only while the point position exceeds this (`-5`: down to `0.00001`). -/
  positionalAbove : Int
  /-- Positional only while the point position is at most this (`16`: below `1e16`). -/
  positionalUpTo : Int
  /-- An integral positional value is written with `.0`. -/
  pointZero : Bool
  /-- A non-negative exponent is written with `+`. -/
  exponentPlus : Bool
  /-- The tie between two equally near shortest decimals. -/
  tie : Tie
  /-- The text of a NaN. -/
  nan : String
  /-- The text of positive infinity; negative infinity is it with a minus sign. -/
  infinity : String

/-- JSON numbers: positional from `0.00001` up to below `1e16`, `.0` on integral values,
    `e+N`/`e-N` exponents, ties to even. A non-finite value has no JSON number; writers
    decide what stands for it before reaching this layout. -/
def Layout.wire : Layout where
  positionalAbove := -5
  positionalUpTo := 16
  pointZero := true
  exponentPlus := true
  tie := .toEven
  nan := "NaN"
  infinity := "inf"

/-- Message text: always positional, no `.0` on integral values, ties up, `NaN` and `inf`. -/
def Layout.plain : Layout where
  positionalAbove := -100000
  positionalUpTo := 100000
  pointZero := false
  exponentPlus := false
  tie := .up
  nan := "NaN"
  infinity := "inf"

/-- `n` zeros. -/
def zeros (n : Nat) : String := "".pushn '0' n

/-- Place the digit string `s` (no trailing zeros) with exponent `k`. -/
def Layout.place (L : Layout) (s : String) (k : Int) : String :=
  let n : Int := s.length
  let point := n + k
  if L.positionalAbove < point && point ≤ L.positionalUpTo then
    if 0 ≤ k then
      s ++ zeros k.toNat ++ (if L.pointZero then ".0" else "")
    else if 0 < point then
      String.ofList (s.toList.take point.toNat) ++ "." ++ String.ofList (s.toList.drop point.toNat)
    else "0." ++ zeros (-point).toNat ++ s
  else
    let exp := point - 1
    let mark := if exp < 0 then "e-" else if L.exponentPlus then "e+" else "e"
    let body := match s.toList with
      | [c] => String.singleton c
      | c :: rest => String.singleton c ++ "." ++ String.ofList rest
      | [] => "0"
    body ++ mark ++ toString exp.natAbs

/-- **The text of a double under a layout**: NaN and infinities by name, zero as `0` placed,
    otherwise the shortest digits placed, with a minus sign when the sign bit is set. -/
def Layout.render (L : Layout) (x : Float) : String :=
  match kindOf x with
  | .nan => L.nan
  | .infinite => if signBit x then "-" ++ L.infinity else L.infinity
  | .finite =>
    let d := shortest L.tie x
    let sign := if signBit x then "-" else ""
    sign ++ L.place (toString d.digits) d.exponent

/-- **A double with `places` digits after the point**: the exact value times `10 ^ places`,
    rounded half to even, written with a point before the last `places` digits. -/
def fixed (places : Nat) (x : Float) : String :=
  match kindOf x with
  | .nan => "NaN"
  | .infinite => if signBit x then "-inf" else "inf"
  | .finite =>
    let b := Binary.ofFloat x
    let (num, den) := scaled b.significand b.exponent
    let r := roundHalfEven (num * Nat.pow 10 places) den
    let s := toString r
    let s := if s.length ≤ places then zeros (places + 1 - s.length) ++ s else s
    let cut := s.length - places
    let body :=
      if places == 0 then s
      else String.ofList (s.toList.take cut) ++ "." ++ String.ofList (s.toList.drop cut)
    (if b.negative then "-" else "") ++ body

end SmartHelmet.Decimal
