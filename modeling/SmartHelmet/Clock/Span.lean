/-!
# Spans of time

Waits and timeouts are whole milliseconds. `spanText` writes a span as a debugging aid does:
under a second in milliseconds (`10ms`, and `0ns` for nothing), from a second up in seconds
with the fraction's trailing zeros dropped (`1.5s`, `60s`, `90061.001s`).
-/

namespace SmartHelmet.Clock

/-- A span of time in milliseconds. -/
abbrev Millis := Nat

/-- Drop trailing zeros of a digit string. -/
def dropTrailingZeros (s : String) : String :=
  String.ofList (s.toList.reverse.dropWhile (· == '0')).reverse

/-- **The text of a span.** -/
def spanText (ms : Millis) : String :=
  if ms == 0 then "0ns"
  else if ms < 1000 then toString ms ++ "ms"
  else
    let frac := toString (ms % 1000)
    let frac := dropTrailingZeros ("".pushn '0' (3 - frac.length) ++ frac)
    toString (ms / 1000) ++ (if frac.isEmpty then "" else "." ++ frac) ++ "s"

end SmartHelmet.Clock
