import SmartHelmet.Unicode.CombiningClass
import SmartHelmet.Unicode.Decomposition
/-!
# Canonical normalization

The composed normal form (NFC) of a text: every character is decomposed canonically, the
marks after each starter are put in the order of their combining classes, and then each mark
that is not blocked from the starter before it is composed with it where a primary composite
exists.

* `decomposeCode` — the full canonical decomposition of a code point; Hangul syllables split
  into their jamo by arithmetic;
* `canonicalOrder` — each run of non-starters sorted by combining class, keeping the order of
  marks of one class;
* `compose?` — the primary composite of two code points, Hangul included;
* `nfc` — the three steps in turn; ASCII text is taken as it is, the quick check that
  normalizers make first.
-/

namespace SmartHelmet.Unicode

/-- The first Hangul syllable. -/
def syllableBase : Nat := 0xAC00
/-- The first leading consonant. -/
def leadBase : Nat := 0x1100
/-- The first vowel. -/
def vowelBase : Nat := 0x1161
/-- The code point before the first trailing consonant. -/
def trailBase : Nat := 0x11A7
/-- The number of leading consonants, vowels, and trailing consonants with none. -/
def leadCount : Nat := 19
def vowelCount : Nat := 21
def trailCount : Nat := 28
/-- The number of syllables. -/
def syllableCount : Nat := leadCount * vowelCount * trailCount

/-- The index of the listed decomposition of `n`, between `lo` and `hi`. -/
def decompositionSearch (n lo hi : Nat) : Nat :=
  if _ : lo + 1 < hi then
    let mid := (lo + hi) / 2
    if (decompositions.getD mid default).code ≤ n then decompositionSearch n mid hi
    else decompositionSearch n lo mid
  else lo
termination_by hi - lo

/-- The listed decomposition of a code point, one level deep. -/
def decompositionOf (n : Nat) : Option (List Nat) :=
  let d := decompositions.getD (decompositionSearch n 0 decompositions.size) default
  if d.code == n && !d.parts.isEmpty then some d.parts else none

/-- The jamo of a Hangul syllable. -/
def hangulParts (n : Nat) : List Nat :=
  let s := n - syllableBase
  let lead := leadBase + s / (vowelCount * trailCount)
  let vowel := vowelBase + (s % (vowelCount * trailCount)) / trailCount
  let trail := s % trailCount
  if trail == 0 then [lead, vowel] else [lead, vowel, trailBase + trail]

/-- **The full canonical decomposition of a code point**; decompositions nest at most a few
    levels, which `fuel` bounds. -/
def decomposeCode : Nat → Nat → List Nat
  | 0, n => [n]
  | fuel + 1, n =>
    if syllableBase ≤ n && n < syllableBase + syllableCount then hangulParts n
    else match decompositionOf n with
      | some parts => parts.flatMap (decomposeCode fuel)
      | none => [n]

/-- A run of non-starters sorted by combining class, marks of one class kept in order. -/
def sortMarks (run : List Nat) : List Nat :=
  run.mergeSort fun a b => combiningClass a ≤ combiningClass b

/-- **Canonical order**: each run of non-starters sorted by combining class; `run` holds the
    non-starters seen since the last starter, last first. -/
def canonicalOrder : List Nat → List Nat → List Nat
  | [], run => sortMarks run.reverse
  | c :: rest, run =>
    if combiningClass c == 0 then sortMarks run.reverse ++ c :: canonicalOrder rest []
    else canonicalOrder rest (c :: run)

/-- The index of the composite of `a` and `b` among the composites, between `lo` and `hi`. -/
def compositeSearch (a b lo hi : Nat) : Nat :=
  if _ : lo + 1 < hi then
    let mid := (lo + hi) / 2
    let (x, y, _) := composites.getD mid (0, 0, 0)
    if x < a || (x == a && y ≤ b) then compositeSearch a b mid hi else compositeSearch a b lo mid
  else lo
termination_by hi - lo

/-- **The primary composite of two code points**, if there is one. -/
def compose? (a b : Nat) : Option Nat :=
  if leadBase ≤ a && a < leadBase + leadCount && vowelBase ≤ b && b < vowelBase + vowelCount then
    some (syllableBase + ((a - leadBase) * vowelCount + (b - vowelBase)) * trailCount)
  else if syllableBase ≤ a && a < syllableBase + syllableCount && (a - syllableBase) % trailCount == 0
      && trailBase < b && b < trailBase + trailCount then
    some (a + (b - trailBase))
  else
    let (x, y, c) := composites.getD (compositeSearch a b 0 composites.size) (0, 0, 0)
    if x == a && y == b && composites.size > 0 then some c else none

/-- The state of composition: the text so far, where its last starter is, and the class of
    the last character after that starter, if any. -/
structure Composer where
  out : Array Nat := #[]
  starter : Option Nat := none
  lastClass : Option Nat := none

/-- Take one more character: compose it with the last starter when nothing between blocks it
    (a character of class 0 or of a class at least its own), else add it. -/
def Composer.step (st : Composer) (c : Nat) : Composer :=
  let cc := combiningClass c
  let blocked := match st.lastClass with
    | some l => l == 0 || l ≥ cc
    | none => false
  let composed := match st.starter with
    | some i => if blocked then none else (compose? (st.out.getD i 0) c).map fun p =>
        { st with out := st.out.modify i fun _ => p }
    | none => none
  match composed with
  | some next => next
  | none =>
    if cc == 0 then { out := st.out.push c, starter := some st.out.size, lastClass := none }
    else { st with out := st.out.push c, lastClass := some cc }

/-- **The composed normal form** of a sequence of code points; ASCII text, whose characters
    neither decompose nor compose, is its own normal form. -/
def nfcCodes (cs : List Nat) : List Nat :=
  if cs.all (· < 0x80) then cs
  else
    let ordered := canonicalOrder (cs.flatMap (decomposeCode 8)) []
    (ordered.foldl Composer.step {}).out.toList

/-- The composed normal form of a sequence of characters. -/
def nfc (cs : List Char) : List Char :=
  (nfcCodes (cs.map Char.toNat)).map Char.ofNat

end SmartHelmet.Unicode
