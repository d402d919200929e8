import SmartHelmet.Abort
/-!
# Progress

`percent done total` is the whole percentage of work done, `⌊done * 100 / total⌋`, and `100`
when there is nothing to do. It is computed in 64 bits and kept to 32, so a `done` far beyond
`total` wraps.
-/

namespace SmartHelmet.Session

/-- **Whole-percent progress.** -/
def percent (done total : Nat) : Nat :=
  if total == 0 then 100 else (done * 100 / total) % word32

end SmartHelmet.Session
