import SmartHelmet.Session.Settings
import SmartHelmet.Session.Error
import SmartHelmet.Link.Transport
import SmartHelmet.Status
import SmartHelmet.Command
import SmartHelmet.Log
/-!
# Session state

Everything a session holds while it runs, and the steps that change it:

* `Stats` — eight 32-bit counters of what the session did; `Counter` names them, and
  `Stats.bump` raises one, aborting when it would leave 32 bits;
* `Session` — settings, link, random source, phase and the history of phases, baseline, alert,
  counters, the virtual time slept, and the log lines so far;
* `Step` — a computation on a session that may fail with a `RunError` (the session keeps what
  happened before the failure) or abort;
* the primitive steps: `say` (log), `sleep`, `advance` (a legal phase step, recorded in the
  history), `count`, and the three link calls.

Log lines are kept only when `verbose` is set; `stamp` is how the wall clock reads in them.
-/

namespace SmartHelmet.Session

open SmartHelmet.Clock
open SmartHelmet.Link

/-- The counters of a session. -/
structure Stats where
  ppgFrames : Nat := 0
  accelSamples : Nat := 0
  baselinePublishes : Nat := 0
  onboardingCycles : Nat := 0
  operatingCycles : Nat := 0
  drowsyCycles : Nat := 0
  crashCycles : Nat := 0
  commandsReceived : Nat := 0
  deriving Repr, BEq, DecidableEq

/-- The names of the counters. -/
inductive Counter where
  | ppgFrames
  | accelSamples
  | baselinePublishes
  | onboardingCycles
  | operatingCycles
  | drowsyCycles
  | crashCycles
  | commandsReceived
  deriving Repr, BEq, DecidableEq

/-- The value of a counter. -/
def Stats.get (s : Stats) : Counter → Nat
  | .ppgFrames => s.ppgFrames
  | .accelSamples => s.accelSamples
  | .baselinePublishes => s.baselinePublishes
  | .onboardingCycles => s.onboardingCycles
  | .operatingCycles => s.operatingCycles
  | .drowsyCycles => s.drowsyCycles
  | .crashCycles => s.crashCycles
  | .commandsReceived => s.commandsReceived

/-- Set a counter. -/
def Stats.set (s : Stats) (n : Nat) : Counter → Stats
  | .ppgFrames => { s with ppgFrames := n }
  | .accelSamples => { s with accelSamples := n }
  | .baselinePublishes => { s with baselinePublishes := n }
  | .onboardingCycles => { s with onboardingCycles := n }
  | .operatingCycles => { s with operatingCycles := n }
  | .drowsyCycles => { s with drowsyCycles := n }
  | .crashCycles => { s with crashCycles := n }
  | .commandsReceived => { s with commandsReceived := n }

/-- **A counter raised by one**, or an abort when it would leave 32 bits. -/
def Stats.bump (s : Stats) (c : Counter) : Except Abort Stats :=
  (succ32 (s.get c)).map fun n => s.set n c

end SmartHelmet.Session

namespace SmartHelmet

open Session Clock in
/-- One session: its settings, link and random source, and what it did so far. -/
structure Session (τ : Type) where
  settings : Settings
  link : τ
  source : Random.Source
  phase : Phase := .bootstrapping
  history : List Phase := [.bootstrapping]
  baseline : Baseline := {}
  alert : Alert := .normal
  stats : Stats := {}
  /-- The time spent sleeping, the only time that passes in a session of its own. -/
  elapsed : Millis := 0
  /-- Whether log lines are kept. -/
  verbose : Bool := false
  /-- The wall-clock time as log lines write it. -/
  stamp : String := "<datetime>"
  logs : Array Log.Entry := #[]

end SmartHelmet

namespace SmartHelmet.Session

open SmartHelmet.Clock
open SmartHelmet.Link

/-- A step of a session: it may fail with a run error, keeping the session as it was at the
    failure, or abort. -/
abbrev Step (τ : Type) := ExceptT RunError (StateT (Session τ) (Except Abort))

/-- Run a step on a session. -/
def Step.run' {τ α : Type} (m : Step τ α) (s : Session τ) : Except Abort (Except RunError α × Session τ) :=
  (ExceptT.run m).run s

/-- Abort a step. -/
def Step.abort {τ α : Type} (e : Except Abort α) : Step τ α :=
  ExceptT.lift (StateT.lift e)

/-- Fail a step. -/
def Step.fail {τ α : Type} (e : RunError) : Step τ α := throw e

/-- Log a line with the session's target. -/
def say {τ : Type} (level : Log.Level) (message : String) : Step τ Unit :=
  modify fun s => if s.verbose then { s with logs := s.logs.push ⟨level, Log.sessionTarget, message⟩ } else s

/-- Keep log lines made elsewhere. -/
def keep {τ : Type} (lines : List Log.Entry) : Step τ Unit :=
  modify fun s => if s.verbose then { s with logs := s.logs ++ lines.toArray } else s

/-- Let time pass. -/
def sleep {τ : Type} (ms : Millis) : Step τ Unit :=
  modify fun s => { s with elapsed := s.elapsed + ms }

/-- **Step to the next phase**: a legal step is taken and recorded in the history; an illegal
    one fails and changes nothing. -/
def advance {τ : Type} (next : Phase) : Step τ Unit := do
  let s ← get
  match Phase.advance? s.phase next with
  | none => Step.fail (.illegalStep s.phase next)
  | some p =>
    set { s with phase := p, history := s.history ++ [next] }
    say .debug ("Session state -> " ++ next.name)

/-- Raise a counter. -/
def count {τ : Type} (c : Counter) : Step τ Unit := do
  let s ← get
  let stats ← Step.abort (s.stats.bump c)
  set { s with stats := stats }

/-- Draw from the session's random source. -/
def draw {τ α : Type} (f : Random.Source → α × Random.Source) : Step τ α := do
  let s ← get
  let (a, src) := f s.source
  set { s with source := src }
  pure a

/-- Draw from the session's random source by a draw that may abort. -/
def drawOrAbort {τ α : Type} (f : Random.Source → Except Abort (α × Random.Source)) : Step τ α := do
  let s ← get
  let (a, src) ← Step.abort (f s.source)
  set { s with source := src }
  pure a

/-- Make a call on the link, failing the step when the call fails. -/
def onLink {τ α : Type} (f : τ → Except Failure α × τ) : Step τ α := do
  let s ← get
  let (r, link) := f s.link
  set { s with link := link }
  match r with
  | .ok a => pure a
  | .error e => Step.fail (.link e)

/-- Publish on the session's link. -/
def publish {τ : Type} [Transport τ] (c : Channel) (d : Delivery) (payload : Bytes) : Step τ Unit :=
  onLink (Transport.publish c d payload)

/-- Receive on the session's link. -/
def receive {τ : Type} [Transport τ] (wait : Millis) : Step τ (Option Bytes) :=
  onLink (Transport.receive wait)

/-- Release the session's link. -/
def disconnect {τ : Type} [Transport τ] : Step τ Unit :=
  onLink Transport.disconnect

end SmartHelmet.Session
