import SmartHelmet.Decimal.Binary
/-!
# The shortest decimal that reads back

For a finite positive double `v = m * 2 ^ q` the reals that round to it form an interval around
`v`, reaching half-way to each neighbour; its ends belong to it exactly when `m` is even (a
reader breaks ties toward the even significand). Below a power of two the lower neighbour is
twice as close.

* `Digits` — a decimal `digits * 10 ^ exponent` with no trailing zero in `digits`;
* `Tie` — which of two equally near candidates wins;
* `shortest` — for `n = 1, 2, …, 17` the two decimals with `n` significant digits next to `v`;
  the first `n` for which one of them lies in the interval wins, and of two the nearer.

Seventeen digits always suffice, so the search is a bounded loop.
-/

namespace SmartHelmet.Decimal

/-- A decimal `digits * 10 ^ exponent`; `digits` has no trailing zero unless it is `0`. -/
structure Digits where
  digits : Nat
  exponent : Int
  deriving Repr, BEq

/-- Which candidate wins when both neighbours on the decimal grid are equally near. -/
inductive Tie where
  | toEven
  | up
  deriving Repr, BEq

/-- Compare `a * 10 ^ k` with `b * 2 ^ p` exactly. -/
def compareScaled (a : Nat) (k : Int) (b : Nat) (p : Int) : Ordering :=
  let l := a * Nat.pow 10 k.toNat * Nat.pow 2 (-p).toNat
  let r := b * Nat.pow 2 p.toNat * Nat.pow 10 (-k).toNat
  compare l r

/-- The number of decimal digits of a positive number. -/
def digitCount (n : Nat) : Nat := (Nat.toDigits 10 n).length

/-- Drop trailing zeros, moving them into the exponent. -/
def Digits.normalize (d : Digits) : Digits :=
  go d.digits d.exponent (digitCount d.digits)
where
  go (n : Nat) (e : Int) : Nat → Digits
    | 0 => ⟨n, e⟩
    | fuel + 1 => if n != 0 && n % 10 == 0 then go (n / 10) (e + 1) fuel else ⟨n, e⟩

/-- `⌊log₁₀ (m * 2 ^ q)⌋` for `m > 0`, from the binary exponent and one or two corrections. -/
def floorLog10 (m : Nat) (q : Int) : Int :=
  let bits : Int := (Nat.log2 m : Int) + q
  -- 78913 / 2^18 is just below log₁₀ 2, so the guess is at most one too small
  let guess : Int := Int.fdiv (bits * 78913) 262144
  let up := guess + 1
  if compareScaled 1 up m q != .gt then
    (if compareScaled 1 (up + 1) m q != .gt then up + 1 else up)
  else if compareScaled 1 guess m q == .gt then guess - 1
  else guess

/-- The interval of reals that read back as `m * 2 ^ q`, scaled by 4 so that its ends are
    integers times `2 ^ q`: `(lo * 2 ^ (q-2), hi * 2 ^ (q-2))`. -/
def interval (m : Nat) (q : Int) : Nat × Nat :=
  let closerBelow := m == Nat.pow 2 fractionWidth && q > leastExponent
  (if closerBelow then 4 * m - 1 else 4 * m - 2, 4 * m + 2)

/-- Whether `c * 10 ^ k` reads back as `m * 2 ^ q`. -/
def readsBack (m : Nat) (q : Int) (c : Nat) (k : Int) : Bool :=
  let (lo, hi) := interval m q
  let inclusive := m % 2 == 0
  let cl := compareScaled c k lo (q - 2)
  let ch := compareScaled c k hi (q - 2)
  (cl == .gt || (inclusive && cl == .eq)) && (ch == .lt || (inclusive && ch == .eq))

/-- The two candidates with `n` significant digits around `m * 2 ^ q` (whose leading digit
    has exponent `e10`), and the one that reads back, the nearer if both do. -/
def candidate (tie : Tie) (m : Nat) (q : Int) (e10 : Int) (n : Nat) : Option Digits :=
  let k := e10 - n + 1
  let (num, den) := scaled m q
  -- v / 10^k = num * 10^(-k) / (den * 10^k)
  let lowNum := num * Nat.pow 10 (-k).toNat
  let lowDen := den * Nat.pow 10 k.toNat
  let d := lowNum / lowDen
  let dn := readsBack m q d k
  let up := readsBack m q (d + 1) k
  if dn && up then
    -- distance to d is r, to d+1 is den - r (in units of 1/lowDen)
    let r := lowNum % lowDen
    if 2 * r < lowDen then some ⟨d, k⟩
    else if 2 * r > lowDen then some ⟨d + 1, k⟩
    else match tie with
      | .toEven => if d % 2 == 0 then some ⟨d, k⟩ else some ⟨d + 1, k⟩
      | .up => some ⟨d + 1, k⟩
  else if dn then some ⟨d, k⟩
  else if up then some ⟨d + 1, k⟩
  else none

/-- **The shortest decimal that reads back as the positive double `m * 2 ^ q`**; of two such
    decimals of that length, the nearer, and `tie` for an exact tie. -/
def shortestOf (tie : Tie) (m : Nat) (q : Int) : Digits :=
  let e10 := floorLog10 m q
  let rec search : Nat → Nat → Digits
    | 0, _ => (⟨m, 0⟩ : Digits)
    | fuel + 1, n =>
      match candidate tie m q e10 n with
      | some d => d.normalize
      | none => search fuel (n + 1)
  search 17 1

/-- The shortest decimal of the magnitude of a finite double; zero is `0 * 10 ^ 0`. -/
def shortest (tie : Tie) (x : Float) : Digits :=
  let b := Binary.ofFloat x
  if b.significand == 0 then ⟨0, 0⟩ else shortestOf tie b.significand b.exponent

end SmartHelmet.Decimal
