/-!
# Session phases

A session goes through `bootstrapping`, then `onboarding` (a device without a baseline streams
data for one to be computed) or straight to `operating`, and ends `terminated`:

* `Phase.advance?` — the legal steps: bootstrapping to onboarding or operating, onboarding to
  operating, and any phase but `terminated` to `terminated`;
* `Phase.mode` — the device mode a phase runs in: onboarding or operating, none otherwise;
* `Phase.rank` — the order of phases; every legal step goes up in it.
-/

namespace SmartHelmet.Session

/-- The lifecycle phase of a session. -/
inductive Phase where
  | bootstrapping
  | onboarding
  | operating
  | terminated
  deriving Repr, BEq, DecidableEq

/-- The mode a device runs in while it streams. -/
inductive Mode where
  | onboarding
  | operating
  deriving Repr, BEq, DecidableEq

/-- The name of a phase. -/
def Phase.name : Phase → String
  | .bootstrapping => "Bootstrapping"
  | .onboarding => "Onboarding"
  | .operating => "Operating"
  | .terminated => "Terminated"

/-- The name of a mode. -/
def Mode.name : Mode → String
  | .onboarding => "Onboarding"
  | .operating => "Operating"

/-- The position of a phase in the lifecycle. -/
def Phase.rank : Phase → Nat
  | .bootstrapping => 0
  | .onboarding => 1
  | .operating => 2
  | .terminated => 3

/-- Whether a session may step from `src` to `dst`. -/
def Phase.legal (src dst : Phase) : Bool :=
  match src, dst with
  | .bootstrapping, .onboarding => true
  | .bootstrapping, .operating => true
  | .onboarding, .operating => true
  | .terminated, _ => false
  | _, .terminated => true
  | _, _ => false

/-- **A step of the lifecycle**: the new phase, or `none` for an illegal step. -/
def Phase.advance? (src dst : Phase) : Option Phase :=
  if Phase.legal src dst then some dst else none

/-- The device mode of a phase. -/
def Phase.mode : Phase → Option Mode
  | .onboarding => some .onboarding
  | .operating => some .operating
  | _ => none

end SmartHelmet.Session
