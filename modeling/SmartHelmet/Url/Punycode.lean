/-!
# Punycode

The bootstring encoding of domain labels: the ASCII characters of a label first, then a `-`
if there were any, then the other code points in increasing order, each as the distance from
the previous one in a variable-length base-36 number whose digit thresholds adapt to the
text. Digits are `a` to `z` for 0 to 25 and `0` to `9` for 26 to 35.

* `encode` — the encoding of a label's code points;
* `decode` — the code points of an encoding, or `none` when it is malformed: a digit that is
  none, a number cut short, or a code point that is no character. The basic code points are
  those before the last `-`; a `-` in front is no delimiter but a malformed digit.

Every loop has a measure: adaptation divides `delta`, a number's digits shrink `q` or eat the
input, and encoding handles one more code point a round.
-/

namespace SmartHelmet.Url.Punycode

/-- The character of a digit below 36. -/
def digitChar (d : Nat) : Char :=
  if d < 26 then Char.ofNat ('a'.toNat + d) else Char.ofNat ('0'.toNat + d - 26)

/-- The value of a digit character of either case. -/
def digitValue (c : Char) : Option Nat :=
  if 'a' ≤ c && c ≤ 'z' then some (c.toNat - 'a'.toNat)
  else if 'A' ≤ c && c ≤ 'Z' then some (c.toNat - 'A'.toNat)
  else if '0' ≤ c && c ≤ '9' then some (c.toNat - '0'.toNat + 26)
  else none

/-- The threshold of the digit at position `k`, between 1 and 26. -/
def threshold (k bias : Nat) : Nat :=
  if k ≤ bias then 1 else if bias + 26 ≤ k then 26 else k - bias

theorem threshold_pos (k bias : Nat) : 1 ≤ threshold k bias := by
  unfold threshold
  split
  · omega
  · split <;> omega

theorem threshold_le (k bias : Nat) : threshold k bias ≤ 26 := by
  unfold threshold
  split
  · omega
  · split <;> omega

/-- Divide `delta` by 35 until it is at most 455, counting 36 a step. -/
def adaptLoop (delta k : Nat) : Nat × Nat :=
  if 455 < delta then adaptLoop (delta / 35) (k + 36) else (delta, k)
termination_by delta
decreasing_by exact Nat.div_lt_self (by omega) (by omega)

/-- The new bias after a number of `delta`, with `points` code points so far. -/
def adapt (delta points : Nat) (first : Bool) : Nat :=
  let d := if first then delta / 700 else delta / 2
  let d := d + d / points
  let (d, k) := adaptLoop d 0
  k + 36 * d / (d + 38)

/-- The digits of a number `q`, starting at position `k`. -/
def encodeDigits (bias k q : Nat) : List Char :=
  let t := threshold k bias
  if q < t then [digitChar q]
  else digitChar (t + (q - t) % (36 - t)) :: encodeDigits bias (k + 36) ((q - t) / (36 - t))
termination_by q
decreasing_by
  have := threshold_pos k bias
  have := threshold_le k bias
  calc (q - threshold k bias) / (36 - threshold k bias)
      ≤ q - threshold k bias := Nat.div_le_self _ _
    _ < q := by omega

/-- The state of an encoding between code points. -/
structure Encoder where
  out : List Char
  delta : Nat
  bias : Nat
  handled : Nat

/-- Pass one code point of the label while encoding the code point `m`. -/
def Encoder.scan (basic m : Nat) (e : Encoder) (c : Nat) : Encoder :=
  if c < m then { e with delta := e.delta + 1 }
  else if c == m then
    { out := e.out ++ encodeDigits e.bias 36 e.delta, delta := 0,
      bias := adapt e.delta (e.handled + 1) (e.handled == basic), handled := e.handled + 1 }
  else e

/-- Encode the non-ASCII code points `ms`, in increasing order, from the code point `n` on. -/
def encodeLoop (label : List Nat) (basic : Nat) : List Nat → Nat → Encoder → Encoder
  | [], _, e => e
  | m :: rest, n, e =>
    let e := { e with delta := e.delta + (m - n) * (e.handled + 1) }
    let e := label.foldl (Encoder.scan basic m) e
    encodeLoop label basic rest (m + 1) { e with delta := e.delta + 1 }

/-- Insert into an increasing list without repeats. -/
def insertSorted (x : Nat) : List Nat → List Nat
  | [] => [x]
  | y :: ys => if x < y then x :: y :: ys else if x == y then y :: ys else y :: insertSorted x ys

/-- **The encoding of a label.** -/
def encode (label : List Char) : String :=
  let points := label.map Char.toNat
  let basic := label.filter (·.toNat < 0x80)
  let wide := (points.filter (0x80 ≤ ·)).foldr insertSorted []
  let e := encodeLoop points basic.length wide 128 ⟨[], 0, 72, basic.length⟩
  String.ofList (basic ++ (if basic.isEmpty then [] else ['-']) ++ e.out)

/-- Read one number: its value added to `i`, and the rest of the input. -/
def decodeDigits (bias : Nat) : List Char → Nat → Nat → Nat → Option (Nat × List Char)
  | [], _, _, _ => none
  | c :: rest, k, w, i => do
    let d ← digitValue c
    let t := threshold k bias
    if d < t then some (i + d * w, rest)
    else decodeDigits bias rest (k + 36) (w * (36 - t)) (i + d * w)

theorem decodeDigits_length : ∀ (bias : Nat) (l : List Char) (k w i : Nat) (r : Nat × List Char),
    decodeDigits bias l k w i = some r → r.2.length < l.length
  | _, [], _, _, _, _, h => by simp [decodeDigits] at h
  | bias, c :: rest, k, w, i, r, h => by
    simp only [decodeDigits, Option.bind_eq_bind, Option.bind_eq_some_iff] at h
    obtain ⟨d, _, h⟩ := h
    split at h
    · cases h; simp
    · have := decodeDigits_length bias rest (k + 36) _ _ r h
      simp only [List.length_cons]; omega

/-- Decode the numbers of `input` into the code points `out`, with code point `n`, position
    `i` and bias so far. -/
def decodeLoop (input : List Char) (out : List Nat) (n i bias : Nat) : Option (List Nat) :=
  match input with
  | [] => some out
  | c :: rest =>
    match h : decodeDigits bias (c :: rest) 36 1 i with
    | none => none
    | some (j, more) =>
      have : more.length < rest.length + 1 := by
        have := decodeDigits_length bias (c :: rest) 36 1 i (j, more) h
        simpa using this
      let size := out.length + 1
      let bias := adapt (j - i) size (i == 0)
      let n := n + j / size
      let pos := j % size
      if n < 0x80 || (0xD800 ≤ n && n ≤ 0xDFFF) || n > 0x10FFFF then none
      else decodeLoop more (out.take pos ++ [n] ++ out.drop pos) n (pos + 1) bias
termination_by input.length

/-- **The code points of an encoding**, or `none` when it is malformed. -/
def decode (text : List Char) : Option (List Nat) :=
  let (basic, rest) :=
    if text.contains '-' then
      let k := text.length - 1 - (text.reverse.idxOf '-')
      -- a delimiter in front leaves nothing basic and stays in the digits, where it fails
      (text.take k, if k == 0 then text else text.drop (k + 1))
    else ([], text)
  if basic.any (·.toNat ≥ 0x80) then none
  else decodeLoop rest (basic.map Char.toNat) 128 0 72

end SmartHelmet.Url.Punycode
