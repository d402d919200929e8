/-!
# Code point tables

Unicode properties are kept as tables of code point ranges, written compactly as text and
read once:

* `RangeMap` — disjoint ranges in increasing order, each with a small value; code points in
  no range have the value 0;
* `RangeMap.ofText` — reads entries separated by spaces, each `lo-hi=v`, `lo=v`, `lo-hi` or
  `lo`, the bounds in lowercase hexadecimal and the value in decimal (1 when it is left out);
  tables that follow a number with a letter use uppercase letters, which no number takes;
* `RangeMap.get` — the value of a code point, found by halving the table.
-/

namespace SmartHelmet.Unicode

/-- Disjoint code point ranges in increasing order, each with a value. -/
structure RangeMap where
  entries : Array (Nat × Nat × Nat)
  deriving Inhabited

/-- The value of a lowercase hexadecimal digit. -/
def lowerHexDigit? (c : Char) : Option Nat :=
  if c.isDigit then some (c.toNat - '0'.toNat)
  else if 'a' ≤ c && c ≤ 'f' then some (c.toNat - 'a'.toNat + 10)
  else none

/-- A lowercase hexadecimal number at the start of a text, and the rest. -/
def hexPrefix (cs : List Char) : Nat × List Char :=
  let digits := cs.takeWhile fun c => (lowerHexDigit? c).isSome
  (digits.foldl (fun acc c => acc * 16 + (lowerHexDigit? c).getD 0) 0, cs.drop digits.length)

/-- A decimal number at the start of a text, and the rest. -/
def decimalPrefix (cs : List Char) : Nat × List Char :=
  let digits := cs.takeWhile Char.isDigit
  (digits.foldl (fun acc c => acc * 10 + (c.toNat - '0'.toNat)) 0, cs.drop digits.length)

/-- One entry: its bounds and value. -/
def readEntry (cs : List Char) : Nat × Nat × Nat :=
  let (lo, rest) := hexPrefix cs
  let (hi, rest) := match rest with
    | '-' :: more => hexPrefix more
    | _ => (lo, rest)
  let value := match rest with
    | '=' :: more => (decimalPrefix more).1
    | _ => 1
  (lo, hi, value)

/-- **Read a table** from its text. -/
def RangeMap.ofText (text : String) : RangeMap :=
  ⟨((text.splitOn " ").filter (!·.isEmpty)).toArray.map (readEntry ·.toList)⟩

/-- The index of the last entry that starts at or below `n`, between `lo` and `hi`. -/
def RangeMap.search (t : RangeMap) (n lo hi : Nat) : Nat :=
  if _ : lo + 1 < hi then
    let mid := (lo + hi) / 2
    if (t.entries.getD mid (0, 0, 0)).1 ≤ n then t.search n mid hi else t.search n lo mid
  else lo
termination_by hi - lo

/-- **The value of a code point**, 0 when no range holds it. -/
def RangeMap.get (t : RangeMap) (n : Nat) : Nat :=
  let (lo, hi, v) := t.entries.getD (t.search n 0 t.entries.size) (1, 0, 0)
  if lo ≤ n && n ≤ hi then v else 0

/-- Whether a code point lies in a range of the table. -/
def RangeMap.contains (t : RangeMap) (n : Nat) : Bool := t.get n != 0

end SmartHelmet.Unicode
