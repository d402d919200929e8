import SmartHelmet.Random.Source
import SmartHelmet.Abort
/-!
# Drawing numbers

The three draws of the library, each from words of a `Source`:

* `Span` and `Source.uniform` — a double in `[low, high]`: 52 random bits give `u` in `[0, 1)`,
  and the result is `u * scale + low`, where `scale` starts at `(high - low) / (1 - 2⁻⁵²)` and
  is stepped down one unit in the last place while the largest `u` would overshoot `high`;
* `Source.between` — an integer in `[low, high]` (32-bit) by a widening multiply: a word `v`
  gives `v * range`; its high half is the answer unless its low half lies above the zone
  `(range << lz(range)) - 1`, when the word is rejected and another drawn;
* `Source.coin` — true with probability `p`: `p * 2⁶⁴` truncated is the threshold a 64-bit
  word must stay below; `p = 1` draws nothing, and `p` outside `[0, 1]` aborts.
-/

namespace SmartHelmet.Random

/-- The largest double below one, `1 - 2⁻⁵²`. -/
def belowOne : Float := Float.ofBits 0x3FEFFFFFFFFFFFFF

/-- The double one unit in the last place below a positive finite double. -/
def stepDown (x : Float) : Float := Float.ofBits (x.toBits - 1)

/-- A closed range of doubles, as its low end and the scale of a unit draw. -/
structure Span where
  low : Float
  scale : Float

/-- **The span of `[low, high]`**: the scale that maps `[0, 1 - 2⁻⁵²]` onto the range,
    reduced until its top stays within `high`. A few steps at most are ever needed; the fuel
    bounds them. -/
def Span.inclusive (low high : Float) : Span :=
  let rec fit : Nat → Float → Float
    | 0, scale => scale
    | fuel + 1, scale => if scale * belowOne + low > high then fit fuel (stepDown scale) else scale
  ⟨low, fit 64 ((high - low) / belowOne)⟩

/-- The unit draw: the top 52 bits of a word as the fraction of a double in `[1, 2)`, less one. -/
def unitOf (w : UInt64) : Float :=
  Float.ofBits ((0x3FF0000000000000 : UInt64) ||| (w >>> 12)) - 1.0

/-- One draw from a span. -/
def Span.sample (r : Span) (s : Source) : Float × Source :=
  let (w, s) := s.next64
  (unitOf w * r.scale + r.low, s)

/-- A double drawn uniformly from `[low, high]`. -/
def Source.uniform (low high : Float) (s : Source) : Float × Source :=
  (Span.inclusive low high).sample s

/-- The number of leading zero bits of a 32-bit value. -/
def leadingZeros32 (n : Nat) : Nat := if n == 0 then 32 else 31 - Nat.log2 n

/-- The acceptance zone of a range of `range` values, `0 < range < 2 ^ 32`. -/
def zone (range : Nat) : Nat := (range * Nat.pow 2 (leadingZeros32 range)) % word32 - 1

/-- **An integer drawn from `[low, high]`** (`low ≤ high < 2 ^ 32`) by the widening multiply
    with rejection. The whole 32-bit range takes one word as it is. -/
def Source.between (low high : Nat) (s : Source) : Nat × Source :=
  let range := (high - low + 1) % word32
  if range == 0 then
    let (w, s) := s.next32
    (w.toNat, s)
  else
    let z := zone range
    let rec loop : Nat → Source → Nat × Source
      | 0, s => (low, s)
      | fuel + 1, s =>
        let (v, s) := s.next32
        let m := v.toNat * range
        if m % word32 ≤ z then ((low + m / word32) % word32, s) else loop fuel s
    loop s.patience s

/-- An integer drawn from `[0, n)`; an empty range aborts. -/
def Source.below (n : Nat) (s : Source) : Except Abort (Nat × Source) :=
  if n == 0 then .error .emptyRange else .ok (s.between 0 (n - 1))

/-- The threshold of a coin with probability `p`, or `none` for a coin that always lands true;
    `p` must lie in `[0, 1]`, else the coin cannot be made. -/
def coinThreshold (p : Float) : Except Abort (Option UInt64) :=
  if 0.0 ≤ p && p < 1.0 then
    let t := (p * 18446744073709551616.0).toUInt64
    .ok (if t == 0xFFFFFFFFFFFFFFFF then none else some t)
  else if p == 1.0 then .ok none
  else .error .invalidProbability

/-- **A coin flip with probability `p`.** -/
def Source.coin (p : Float) (s : Source) : Except Abort (Bool × Source) :=
  match coinThreshold p with
  | .error e => .error e
  | .ok none => .ok (true, s)
  | .ok (some t) =>
    let (w, s) := s.next64
    .ok (w < t, s)

end SmartHelmet.Random
