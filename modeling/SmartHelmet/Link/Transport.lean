import SmartHelmet.Link.Channel
import SmartHelmet.Link.Failure
import SmartHelmet.Text.Utf8
/-!
# Transports

A transport carries a session's messages: it publishes on a channel with a delivery guarantee,
waits a while for the next inbound command, and is released at the end. A transport is a value
that each call replaces, so a session holds it like the rest of its state.

`backlog` bounds the messages a transport can still hand out before a receive comes back
empty: each receive that delivers one uses it up (`backlog_receive`), so a session that drains
inbound commands with more tries than the backlog stops at an empty receive, never for want of
tries.
-/

namespace SmartHelmet.Link

open SmartHelmet.Clock

/-- The calls a session makes on its link. -/
class Transport (τ : Type) where
  /-- Publish a payload; with `atLeastOnce` it succeeds only once the broker acknowledged it. -/
  publish : Channel → Delivery → Bytes → τ → Except Failure Unit × τ
  /-- Wait at most the given time for the next inbound message. -/
  receive : Millis → τ → Except Failure (Option Bytes) × τ
  /-- Release the connection. -/
  disconnect : τ → Except Failure Unit × τ
  /-- How many more messages receives can deliver before one comes back empty. -/
  backlog : τ → Nat
  /-- A receive that delivers a message leaves less backlog. -/
  backlog_receive : ∀ w t m, (receive w t).1 = .ok (some m) → backlog (receive w t).2 < backlog t

end SmartHelmet.Link
