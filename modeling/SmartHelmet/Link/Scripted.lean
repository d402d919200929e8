import SmartHelmet.Link.Transport
/-!
# A scripted transport

An in-memory transport for exercising sessions: it hands out a fixed queue of inbound
messages, fails the calls a script of faults names, and keeps a journal of every call.

* `Faults` — which publish fails (counted over all publishes from zero), which acknowledged
  publish times out (counted over the acknowledgements given so far, so a timeout does not
  advance the count), which receive finds the connection closed, and whether releasing fails;
* `Event` — one journal entry, with the call's arguments and its failure, if any;
* `Scripted` — the transport: its faults, the queue, the counters and the journal.

A publish refused by the script is not acknowledged; the refusal is checked first.
-/

namespace SmartHelmet.Link

open SmartHelmet.Clock

/-- The faults a scripted transport injects. -/
structure Faults where
  /-- The acknowledgement that times out, counted over those given so far. -/
  ackFailAt : Option Nat := none
  /-- The wait a timed-out acknowledgement reports. -/
  ackTimeout : Millis := 10
  /-- The publish that is refused, counted over all publishes. -/
  publishFailAt : Option Nat := none
  /-- The receive that finds the connection closed, counted over all receives. -/
  receiveCloseAt : Option Nat := none
  /-- The reason releasing the connection fails, if it does. -/
  disconnectFail : Option String := none

/-- One call made on a scripted transport. -/
inductive Event where
  /-- A publish, with its failure if it failed. -/
  | publish (channel : Channel) (delivery : Delivery) (payload : Bytes) (failure : Option Failure)
  /-- A receive: the position in the inbound queue of the message it got, none, or a failure. -/
  | receive (wait : Millis) (got : Except Failure (Option Nat))
  /-- A release, with its failure if it failed. -/
  | disconnect (failure : Option Failure)

/-- An in-memory transport with injected faults and a journal of calls. -/
structure Scripted where
  device : String
  faults : Faults := {}
  /-- Inbound messages not yet received. -/
  inbound : List Bytes := []
  /-- Inbound messages received so far. -/
  delivered : Nat := 0
  publishes : Nat := 0
  acknowledged : Nat := 0
  receives : Nat := 0
  journal : Array Event := #[]

/-- The outcome of a publish on a scripted transport, and its counters after it. -/
def Scripted.publishOutcome (t : Scripted) (c : Channel) (d : Delivery) : Option Failure × Scripted :=
  let index := t.publishes
  let t := { t with publishes := index + 1 }
  if t.faults.publishFailAt == some index then
    (some (.publish (Channel.topic t.device c) "injected"), t)
  else if d == .atLeastOnce then
    if t.faults.ackFailAt == some t.acknowledged then (some (.ackTimeout t.faults.ackTimeout), t)
    else (none, { t with acknowledged := t.acknowledged + 1 })
  else (none, t)

/-- **Publish** on a scripted transport: journal the call and its outcome. -/
def Scripted.publish (c : Channel) (d : Delivery) (payload : Bytes) (t : Scripted) :
    Except Failure Unit × Scripted :=
  let (failure, t) := t.publishOutcome c d
  let t := { t with journal := t.journal.push (.publish c d payload failure) }
  match failure with
  | some f => (.error f, t)
  | none => (.ok (), t)

/-- **Receive** on a scripted transport: the next queued message, none when the queue is
    empty, or a closed connection where the script says so. -/
def Scripted.receive (wait : Millis) (t : Scripted) : Except Failure (Option Bytes) × Scripted :=
  let index := t.receives
  let t := { t with receives := index + 1 }
  if t.faults.receiveCloseAt == some index then
    (.error .closed, { t with journal := t.journal.push (.receive wait (.error .closed)) })
  else
    match t.inbound with
    | [] => (.ok none, { t with journal := t.journal.push (.receive wait (.ok none)) })
    | m :: rest =>
      let journal := t.journal.push (.receive wait (.ok (some t.delivered)))
      (.ok (some m), { t with inbound := rest, delivered := t.delivered + 1, journal })

/-- **Release** a scripted transport, failing where the script says so. -/
def Scripted.disconnect (t : Scripted) : Except Failure Unit × Scripted :=
  match t.faults.disconnectFail with
  | some reason =>
    (.error (.disconnect reason), { t with journal := t.journal.push (.disconnect (some (.disconnect reason))) })
  | none => (.ok (), { t with journal := t.journal.push (.disconnect none) })

/-- A receive that delivers takes the message off the queue. -/
theorem Scripted.receive_shortens (w : Millis) (t : Scripted) (m : Bytes)
    (h : (t.receive w).1 = .ok (some m)) : (t.receive w).2.inbound.length < t.inbound.length := by
  unfold Scripted.receive at h ⊢
  by_cases hc : (t.faults.receiveCloseAt == some t.receives) = true
  · simp [hc] at h
  · cases hq : t.inbound with
    | nil => simp [hc, hq] at h
    | cons m' rest => simp [hc]

instance : Transport Scripted where
  publish := Scripted.publish
  receive := Scripted.receive
  disconnect := Scripted.disconnect
  backlog := fun t => t.inbound.length
  backlog_receive := Scripted.receive_shortens

end SmartHelmet.Link
