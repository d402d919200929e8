import SmartHelmet.Random.ChaCha
/-!
# Sources of random words

Every random choice of the library draws 32- or 64-bit words from a `Source`, which also counts
its draws:

* `Generator.scripted` — a fixed list of 64-bit words, each draw taking the next one (a 32-bit
  draw keeps its low half), and `0` once the list is used up;
* `Generator.seeded` — the ChaCha12 stream of a 64-bit seed;
* `Source.next32`, `Source.next64` — one draw, counted in `draws`.
-/

namespace SmartHelmet.Random

/-- Where words come from. -/
inductive Generator where
  | scripted (words : List UInt64)
  | seeded (stream : ChaCha.Stream)

/-- A generator and the number of words drawn from it so far. -/
structure Source where
  generator : Generator
  draws : Nat := 0

/-- The source of a seed. -/
def Source.ofSeed (seed : UInt64) : Source := ⟨.seeded (ChaCha.Stream.ofSeed seed), 0⟩

/-- The source that answers with the given words, then zeros. -/
def Source.ofWords (words : List UInt64) : Source := ⟨.scripted words, 0⟩

/-- One 64-bit draw. -/
def Source.next64 (s : Source) : UInt64 × Source :=
  match s.generator with
  | .scripted [] => (0, { s with draws := s.draws + 1 })
  | .scripted (w :: rest) => (w, ⟨.scripted rest, s.draws + 1⟩)
  | .seeded st =>
    let (w, st) := st.next64
    (w, ⟨.seeded st, s.draws + 1⟩)

/-- One 32-bit draw; a scripted word gives its low half. -/
def Source.next32 (s : Source) : UInt32 × Source :=
  match s.generator with
  | .scripted [] => (0, { s with draws := s.draws + 1 })
  | .scripted (w :: rest) => (w.toUInt32, ⟨.scripted rest, s.draws + 1⟩)
  | .seeded st =>
    let (w, st) := st.next32
    (w, ⟨.seeded st, s.draws + 1⟩)

/-- A bound on the draws a rejection loop needs: a script ends in zeros, which every loop of
    this library accepts, and a seeded stream rejects with probability below one half per
    draw, so `4096` failures in a row do not occur. -/
def Source.patience (s : Source) : Nat :=
  match s.generator with
  | .scripted ws => ws.length + 1
  | .seeded _ => 4096

end SmartHelmet.Random
