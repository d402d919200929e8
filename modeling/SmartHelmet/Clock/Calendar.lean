/-!
# Civil dates and the log timestamp

* `civilOfDays` — the proleptic Gregorian date of a day count from 1970-01-01, by eras of
  400 years (146097 days);
* `Stamp` — a date and time of day; `Stamp.ofUnix?` reads seconds since the epoch shifted by
  an offset of 32 bits and at most `25:59:59`, for years `-9999` to `9999` only;
* `Stamp.text` — `DD.MM.YYYY - hh:mm:ss`, the year in four digits with a minus sign when
  negative.
-/

namespace SmartHelmet.Clock

/-- Why a timestamp has no text. -/
inductive StampError where
  /-- The instant lies outside years `-9999` to `9999`. -/
  | componentRange
  /-- The offset does not fit in 32 bits. -/
  | offsetWidth
  /-- The offset is beyond `±25:59:59`. -/
  | offsetRange
  /-- The instant is in range, but its local date under the offset is not. -/
  | localRange
  deriving Repr, BEq

/-- The message of a timestamp error. -/
def StampError.message : StampError → String
  | .componentRange => "timestamp was not in range"
  | .offsetWidth => "offset out of range"
  | .offsetRange => "seconds was not in range"
  | .localRange => "local datetime out of valid range"

/-- A calendar date and a time of day. -/
structure Stamp where
  year : Int
  month : Nat
  day : Nat
  hour : Nat
  minute : Nat
  second : Nat
  deriving Repr, BEq

/-- **The civil date of a day count** from 1970-01-01 (year, month, day). -/
def civilOfDays (z : Int) : Int × Nat × Nat :=
  let z := z + 719468
  let era := Int.fdiv z 146097
  let doe := z - era * 146097
  let yoe := (doe - doe / 1460 + doe / 36524 - doe / 146096) / 365
  let y := yoe + era * 400
  let doy := doe - (365 * yoe + yoe / 4 - yoe / 100)
  let mp := (5 * doy + 2) / 153
  let d := doy - (153 * mp + 2) / 5 + 1
  let m := if mp < 10 then mp + 3 else mp - 9
  ((if m ≤ 2 then y + 1 else y), m.toNat, d.toNat)

/-- The first second of year `-9999` and the last of year `9999`, since the epoch. -/
def earliest : Int := -377705116800
def latest : Int := 253402300799

/-- The largest offset, `25:59:59`, in seconds. -/
def offsetLimit : Int := 93599

/-- The date and time of an instant, `unix` seconds since the epoch, seen at `offset`. -/
def Stamp.ofUnix? (unix offset : Int) : Except StampError Stamp :=
  if unix < earliest || unix > latest then .error .componentRange
  else if offset < -2147483648 || offset > 2147483647 then .error .offsetWidth
  else if offset < -offsetLimit || offset > offsetLimit then .error .offsetRange
  else
    let here := unix + offset
    if here < earliest || here > latest then .error .localRange
    else
      let days := Int.fdiv here 86400
      let secs := (here - days * 86400).toNat
      let (y, m, d) := civilOfDays days
      .ok ⟨y, m, d, secs / 3600, secs / 60 % 60, secs % 60⟩

/-- A number in at least `width` digits, zeros in front. -/
def padded (width n : Nat) : String :=
  let s := toString n
  "".pushn '0' (width - s.length) ++ s

/-- **`DD.MM.YYYY - hh:mm:ss`**. -/
def Stamp.text (s : Stamp) : String :=
  let year := (if s.year < 0 then "-" else "") ++ padded 4 s.year.natAbs
  padded 2 s.day ++ "." ++ padded 2 s.month ++ "." ++ year ++ " - " ++
    padded 2 s.hour ++ ":" ++ padded 2 s.minute ++ ":" ++ padded 2 s.second

end SmartHelmet.Clock
