import SmartHelmet.Unicode.Table
import SmartHelmet.Unicode.Word
/-!
# Character classes

A class of characters is kept as ranges of code points, in increasing order, neither
overlapping nor touching (`canonical` brings any list of ranges to that form). Classes of
characters live below `0x10FFFF`; classes of bytes, used where Unicode is turned off, below
`0xFF`. The operations of bracketed classes are the set operations: union, intersection,
difference, symmetric difference, and the complement below the top.

Matching without regard to case adds to a class every character that folds together with one
of its own (`caseFold` for characters, `asciiCaseFold` for bytes).
-/

namespace SmartHelmet.Regex

open SmartHelmet.Unicode

/-- A class of code points, as ranges. -/
abbrev Ranges := List (Nat × Nat)

/-- **Ranges in order**, overlapping and touching ones merged. -/
def canonical (rs : Ranges) : Ranges :=
  let sorted := rs.mergeSort fun a b => a.1 ≤ b.1
  (sorted.foldl (fun (acc : Ranges) (r : Nat × Nat) =>
    match acc with
    | (lo, hi) :: rest => if r.1 ≤ hi + 1 then (lo, max hi r.2) :: rest else r :: acc
    | [] => [r]) []).reverse

/-- The union of two classes. -/
def Ranges.union (a b : Ranges) : Ranges := canonical (a ++ b)

/-- **The complement** of a class in order, up to `top`. -/
def Ranges.complement (top : Nat) (rs : Ranges) : Ranges :=
  let (out, next) := rs.foldl (fun (acc : Ranges × Nat) (r : Nat × Nat) =>
    let (out, next) := acc
    (if r.1 > next then (next, r.1 - 1) :: out else out, max next (r.2 + 1))) ([], 0)
  (if next ≤ top then (next, top) :: out else out).reverse

/-- The intersection of two classes in order, below `top`. -/
def Ranges.intersect (top : Nat) (a b : Ranges) : Ranges :=
  (Ranges.union (a.complement top) (b.complement top)).complement top

/-- The difference of two classes in order, below `top`. -/
def Ranges.difference (top : Nat) (a b : Ranges) : Ranges :=
  a.intersect top (b.complement top)

/-- The symmetric difference of two classes in order, below `top`. -/
def Ranges.symmetricDifference (top : Nat) (a b : Ranges) : Ranges :=
  (a.union b).difference top (a.intersect top b)

/-- Whether a class holds a code point. -/
def Ranges.contains (rs : Ranges) (n : Nat) : Bool :=
  rs.any fun (lo, hi) => lo ≤ n && n ≤ hi

/-- Whether a class holds only ASCII. -/
def Ranges.isAscii (rs : Ranges) : Bool := rs.all (·.2 < 0x80)

/-- The highest code point of a character class. -/
def topChar : Nat := 0x10FFFF

/-- The highest byte. -/
def topByte : Nat := 0xFF

/-- A class from the ranges of a table's text. -/
def Ranges.ofText (text : String) : Ranges :=
  canonical ((RangeMap.ofText text).entries.toList.map fun (lo, hi, _) => (lo, hi))

/-- The characters that fold together with others, each with the others, in order. -/
def foldEntries : Array (Nat × List Nat) :=
  ((foldText.splitOn " ").filter (!·.isEmpty)).toArray.map fun e =>
    match e.splitOn ":" with
    | [c, others] =>
      ((hexPrefix c.toList).1, (others.splitOn ",").map fun o => (hexPrefix o.toList).1)
    | _ => (0, [])

/-- The index of the first folding entry at or above `n`, between `lo` and `hi`. -/
def foldSearch (n lo hi : Nat) : Nat :=
  if _ : lo < hi then
    let mid := (lo + hi) / 2
    if (foldEntries.getD mid (0, [])).1 < n then foldSearch n (mid + 1) hi else foldSearch n lo mid
  else lo
termination_by hi - lo

/-- The characters that fold together with some character of a range. -/
def foldPartners (lo hi : Nat) : List Nat :=
  let start := foldSearch lo 0 foldEntries.size
  ((foldEntries.extract start foldEntries.size).toList.takeWhile (·.1 ≤ hi)).flatMap (·.2)

/-- **A class closed under simple case folding.** -/
def Ranges.caseFold (rs : Ranges) : Ranges :=
  rs.union (rs.flatMap fun (lo, hi) => (foldPartners lo hi).map fun c => (c, c))

/-- A class of bytes closed under ASCII case folding. -/
def Ranges.asciiCaseFold (rs : Ranges) : Ranges :=
  let letters := (List.range 26).flatMap fun i =>
    let upper := 0x41 + i
    let lower := 0x61 + i
    (if rs.contains upper then [(lower, lower)] else []) ++
      (if rs.contains lower then [(upper, upper)] else [])
  rs.union letters

/-- The decimal digits. -/
def digitRanges : Ranges := Ranges.ofText digitText

/-- The white space characters. -/
def whiteSpaceRanges : Ranges := Ranges.ofText whiteSpaceText

/-- The word characters. -/
def wordRanges : Ranges := Ranges.ofText wordText

end SmartHelmet.Regex
