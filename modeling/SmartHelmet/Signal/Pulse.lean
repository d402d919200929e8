import SmartHelmet.Signal.Remainder
import SmartHelmet.Random.Sample
/-!
# The pulse waveform

A photoplethysmogram window, sampled at `rate` Hz for a heart rate in beats per minute:

* `beatShape` — one beat over its phase in `[0, 1)`: a systolic Gaussian peak at `0.2`
  (width `10`, height `0.8`) plus a dicrotic bump at `0.4` (width `15`, height `0.3`);
* `drift` — a respiratory sine of `0.1` Hz and height `0.1` plus a heart-rate-variability sine
  of `0.15` Hz and height `0.02`;
* `adc` — a 12-bit converter: `2048 + 1500 * s`, rounded half away from zero, held to
  `[0, 4095]`, and `0` for NaN;
* `synthesize` — sample `i` at time `i / rate` and phase `(i rem b) / b` with
  `b = (60 / bpm) * rate` samples per beat; with noise, a uniform draw from `[-0.05, 0.05]`
  is added to each sample, in order.

All arithmetic is double arithmetic in the order written, so odd inputs give what doubles
give: a zero heart rate makes `b` infinite and every phase zero, a zero rate makes every
sample NaN and so `0`.
-/

namespace SmartHelmet.Signal

open SmartHelmet.Random

/-- π as a double. -/
def pi : Float := 3.141592653589793

/-- A Gaussian bump of the phase around `center`. -/
def bump (phase center width : Float) : Float :=
  let d := (phase - center) * width
  Float.exp (-(d * d))

/-- One beat over its phase. -/
def beatShape (phase : Float) : Float :=
  bump phase 0.2 10.0 * 0.8 + bump phase 0.4 15.0 * 0.3

/-- The slow sines at time `t` seconds. -/
def drift (t : Float) : Float :=
  let respiratory := 0.1 * Float.sin (2.0 * pi * 0.1 * t)
  let variability := 0.02 * Float.sin (2.0 * pi * 0.15 * t)
  respiratory + variability

/-- Hold a double to `[low, high]`; NaN passes through. -/
def clampTo (low high x : Float) : Float :=
  if x < low then low else if x > high then high else x

/-- **The 12-bit reading of a signal.** -/
def adc (signal : Float) : Nat :=
  (clampTo 0.0 4095.0 (Float.round (2048.0 + signal * 1500.0))).toUInt16.toNat

/-- The noise-free signal of sample `i`. -/
def clean (rate perBeat : Float) (i : Nat) : Float :=
  let x := i.toFloat
  let t := x / rate
  let phase := truncRem x perBeat / perBeat
  beatShape phase + drift t

/-- **A window of `count` readings.** With `noisy` false no word is drawn. -/
def synthesize (count rate : Nat) (bpm : Float) (noisy : Bool) (s : Source) :
    List Nat × Source :=
  let r := rate.toFloat
  let perBeat := (60.0 / bpm) * r
  let step := fun (acc : Array Nat × Source) (i : Nat) =>
    let signal := clean r perBeat i
    if noisy then
      let (n, s) := acc.2.uniform (-0.05) 0.05
      (acc.1.push (adc (signal + n)), s)
    else (acc.1.push (adc signal), acc.2)
  let (xs, s) := (List.range count).foldl step (#[], s)
  (xs.toList, s)

end SmartHelmet.Signal
