/-!
# Aborts

Some faults are not errors that a caller handles: the program stops at once with a message.
`Abort` lists those that this library can reach, and `Abort.message` their texts:

* a 32-bit product or sum that does not fit (`mulOverflow`, `addOverflow`);
* a draw from an empty range (`emptyRange`);
* a probability outside `[0, 1]` given to a coin flip (`invalidProbability`).

`word32` is the bound that the checked 32-bit operations keep.
-/

namespace SmartHelmet

/-- A fault that stops the program. -/
inductive Abort where
  | mulOverflow
  | addOverflow
  | emptyRange
  | invalidProbability
  deriving Repr, BEq, DecidableEq

/-- The text a stopped program prints for each fault. -/
def Abort.message : Abort → String
  | .mulOverflow => "attempt to multiply with overflow"
  | .addOverflow => "attempt to add with overflow"
  | .emptyRange => "cannot sample empty range"
  | .invalidProbability => "called `Result::unwrap()` on an `Err` value: InvalidProbability"

/-- Values of 32-bit counters and settings lie below this bound, `2 ^ 32`. -/
def word32 : Nat := 0x100000000

/-- A 32-bit product, or an abort when it does not fit. -/
def mul32 (a b : Nat) : Except Abort Nat :=
  if a * b < word32 then .ok (a * b) else .error .mulOverflow

/-- A 32-bit counter moved up by one, or an abort when it does not fit. -/
def succ32 (a : Nat) : Except Abort Nat :=
  if a + 1 < word32 then .ok (a + 1) else .error .addOverflow

end SmartHelmet
