/-!
# The ChaCha12 word stream

The seeded generator is ChaCha with 12 rounds over a 32-byte key, a 64-bit block counter in
words 12 and 13 and a zero stream id in words 14 and 15:

* `quarter`, `doubleRound`, `block` — the block function: the sixteen words of state mixed by
  six double rounds, then added to the input;
* `keyOfSeed` — a 64-bit seed expanded into the eight key words by a PCG32 generator
  (multiplier `6364136223846793005`, increment `11634580027462260723`, the state advanced
  before each output);
* `Stream` — a buffer of four consecutive blocks (64 words), refilled when used up;
  `Stream.next32` takes one word, `Stream.next64` two, low word first, and a pair that
  straddles a refill takes the last word of the old buffer and the first of the new one.
-/

namespace SmartHelmet.Random.ChaCha

/-- The sixteen words of a ChaCha state. -/
abbrev State := Vector UInt32 16

/-- Rotate a word left by `n` bits, `0 < n < 32`. -/
def rotl (x : UInt32) (n : UInt32) : UInt32 := (x <<< n) ||| (x >>> (32 - n))

/-- The quarter round on the words at `a`, `b`, `c`, `d`. -/
def quarter (s : State) (a b c d : Fin 16) : State :=
  let xa := s[a] + s[b]
  let xd := rotl (s[d] ^^^ xa) 16
  let xc := s[c] + xd
  let xb := rotl (s[b] ^^^ xc) 12
  let xa := xa + xb
  let xd := rotl (xd ^^^ xa) 8
  let xc := xc + xd
  let xb := rotl (xb ^^^ xc) 7
  ((((s.set a xa).set b xb).set c xc).set d xd)

/-- A column round then a diagonal round. -/
def doubleRound (s : State) : State :=
  let s := quarter s 0 4 8 12
  let s := quarter s 1 5 9 13
  let s := quarter s 2 6 10 14
  let s := quarter s 3 7 11 15
  let s := quarter s 0 5 10 15
  let s := quarter s 1 6 11 12
  let s := quarter s 2 7 8 13
  quarter s 3 4 9 14

/-- "expand 32-byte k" as four little-endian words. -/
def constants : List UInt32 := [0x61707865, 0x3320646e, 0x79622d32, 0x6b206574]

/-- The input state of block `counter` under `key`, stream id zero. -/
def initial (key : Vector UInt32 8) (counter : UInt64) : State :=
  Vector.ofFn fun i : Fin 16 =>
    if i.val < 4 then constants.getD i.val 0
    else if h : i.val < 12 then key.get ⟨i.val - 4, by omega⟩
    else if i.val == 12 then counter.toUInt32
    else if i.val == 13 then (counter >>> 32).toUInt32
    else 0

/-- Apply `f` to `x` `n` times. -/
def iterate (f : State → State) : Nat → State → State
  | 0, x => x
  | n + 1, x => iterate f n (f x)

/-- **One ChaCha12 block**: six double rounds, then the input added word by word. -/
def block (key : Vector UInt32 8) (counter : UInt64) : State :=
  let start := initial key counter
  let mixed := iterate doubleRound 6 start
  Vector.ofFn fun i => mixed[i] + start[i]

/-- One PCG32 output and the advanced state. -/
def pcg32 (state : UInt64) : UInt32 × UInt64 :=
  let state := state * 6364136223846793005 + 11634580027462260723
  let xorshifted := (((state >>> 18) ^^^ state) >>> 27).toUInt32
  let rot := (state >>> 59).toUInt32
  let out := (xorshifted >>> rot) ||| (xorshifted <<< ((32 - rot) % 32))
  (out, state)

/-- The eight key words of a 64-bit seed: eight PCG32 outputs in order. -/
def keyOfSeed (seed : UInt64) : Vector UInt32 8 :=
  let step := fun (acc : List UInt32 × UInt64) (_ : Nat) =>
    let (w, s) := pcg32 acc.2
    (acc.1 ++ [w], s)
  let words := ((List.range 8).foldl step ([], seed)).1
  Vector.ofFn fun i => words.getD i.val 0

/-- A buffered ChaCha12 stream: the next four blocks start at `counter`; `buffer` holds the
    current 64 words and `index` the next unread one (64 when none is left). -/
structure Stream where
  key : Vector UInt32 8
  counter : UInt64
  buffer : Array UInt32
  index : Nat

/-- The stream of a seed, before any block is generated. -/
def Stream.ofSeed (seed : UInt64) : Stream :=
  ⟨keyOfSeed seed, 0, #[], 64⟩

/-- Four consecutive blocks, 64 words, and the counter after them. -/
def Stream.refill (s : Stream) : Stream :=
  let words := (List.range 4).foldl
    (fun acc j => acc ++ (block s.key (s.counter + j.toUInt64)).toArray) #[]
  { s with counter := s.counter + 4, buffer := words, index := 0 }

/-- The word at position `i` of the buffer. -/
def Stream.word (s : Stream) (i : Nat) : UInt32 := s.buffer.getD i 0

/-- The next 32-bit word. -/
def Stream.next32 (s : Stream) : UInt32 × Stream :=
  let s := if s.index ≥ 64 then s.refill else s
  (s.word s.index, { s with index := s.index + 1 })

/-- The next 64-bit word: two 32-bit words, the first one low. -/
def Stream.next64 (s : Stream) : UInt64 × Stream :=
  if s.index < 63 then
    let lo := (s.word s.index).toUInt64
    let hi := (s.word (s.index + 1)).toUInt64
    ((hi <<< 32) ||| lo, { s with index := s.index + 2 })
  else if s.index ≥ 64 then
    let s := s.refill
    (((s.word 1).toUInt64 <<< 32) ||| (s.word 0).toUInt64, { s with index := 2 })
  else
    let lo := (s.word 63).toUInt64
    let s := s.refill
    (((s.word 0).toUInt64 <<< 32) ||| lo, { s with index := 1 })

end SmartHelmet.Random.ChaCha
