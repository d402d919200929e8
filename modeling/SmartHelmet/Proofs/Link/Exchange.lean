import SmartHelmet.Link.Transport
/-!
# What a link sees

A session talks to its broker only through the three calls of `Transport`. To speak about those
calls, a link is given a record of what it was asked and what it answered:

* `Exchange` — one call with its arguments and its answer; `Exchange.call` forgets the payload
  and keeps what the call was and whether a receive brought a message;
* `Exchange.Passed`, `Exchange.FailedWith` — a publish or receive that was answered without a
  failure, or with a given one;
* `publishes`, `received` — the publishes among exchanges, payloads included, and the messages
  that their receives brought;
* `Recorder` — a record of a link's exchanges that each call extends by its own exchange. Any
  transport can be given one by keeping its history beside its state, so a statement over every
  transport with a recorder is a statement over every transport behaviour;
* `Recorded`, `Called` — what every record of a link gained between two of its states: the
  exchanges themselves, or their shapes. Stated over every `Recorder`, they assume none;
* `Quiet` — a link that never fails: publishing and releasing succeed and receives hand out a
  queue of inbound messages, then nothing; `Inbox` is such a link.
-/

namespace SmartHelmet.Link

open SmartHelmet.Clock

/-- One call on a link, with what it answered. -/
inductive Exchange where
  | publish (channel : Channel) (delivery : Delivery) (payload : Bytes)
      (result : Except Failure Unit)
  | receive (wait : Millis) (result : Except Failure (Option Bytes))
  | disconnect (result : Except Failure Unit)

/-- The shape of a call: which call it was, on which channel and with which guarantee, how
    long a receive waited and whether it brought a message. -/
inductive Call where
  | publish (channel : Channel) (delivery : Delivery)
  | receive (wait : Millis) (got : Bool)
  | disconnect
  deriving Repr, DecidableEq

/-- Whether a receive brought a message. -/
def Exchange.brought : Except Failure (Option Bytes) → Bool
  | .ok (some _) => true
  | _ => false

/-- The shape of an exchange. -/
def Exchange.call : Exchange → Call
  | .publish c d _ _ => .publish c d
  | .receive w r => .receive w (Exchange.brought r)
  | .disconnect _ => .disconnect

/-- A publish or receive that was answered without failure. -/
def Exchange.Passed : Exchange → Prop
  | .publish _ _ _ r => r.isOk
  | .receive _ r => r.isOk
  | .disconnect _ => False

/-- A publish or receive that failed with `f`. -/
def Exchange.FailedWith (f : Failure) : Exchange → Prop
  | .publish _ _ _ r => r = .error f
  | .receive _ r => r = .error f
  | .disconnect _ => False

/-- A publish that went through on channel `c`. -/
def Exchange.publishedOn (c : Channel) : Exchange → Bool
  | .publish c' _ _ (.ok _) => c' == c
  | _ => false

/-- A receive that brought a message. -/
def Exchange.arrived : Exchange → Bool
  | .receive _ r => Exchange.brought r
  | _ => false

/-- Whether an exchange is a publish, whatever it answered. -/
def Exchange.isPublish : Exchange → Bool
  | .publish .. => true
  | _ => false

/-- The message a receive brought, if it brought one. -/
def Exchange.got : Exchange → Option Bytes
  | .receive _ (.ok m) => m
  | _ => none

/-- The publishes among exchanges, payloads and answers included, in order. -/
def publishes (E : List Exchange) : List Exchange := E.filter Exchange.isPublish

/-- The messages that the receives among exchanges brought, in order. -/
def received (E : List Exchange) : List Bytes := E.filterMap Exchange.got

@[simp] theorem publishes_nil : publishes [] = [] := rfl

@[simp] theorem received_nil : received [] = [] := rfl

@[simp] theorem publishes_append (E₁ E₂ : List Exchange) :
    publishes (E₁ ++ E₂) = publishes E₁ ++ publishes E₂ :=
  List.filter_append ..

@[simp] theorem received_append (E₁ E₂ : List Exchange) :
    received (E₁ ++ E₂) = received E₁ ++ received E₂ :=
  List.filterMap_append

@[simp] theorem publishes_publish (c : Channel) (d : Delivery) (p : Bytes)
    (r : Except Failure Unit) (E : List Exchange) :
    publishes (.publish c d p r :: E) = .publish c d p r :: publishes E := rfl

@[simp] theorem received_publish (c : Channel) (d : Delivery) (p : Bytes)
    (r : Except Failure Unit) (E : List Exchange) :
    received (.publish c d p r :: E) = received E := rfl

@[simp] theorem publishes_receive (w : Millis) (r : Except Failure (Option Bytes))
    (E : List Exchange) : publishes (.receive w r :: E) = publishes E := rfl

@[simp] theorem received_receive (w : Millis) (m : Option Bytes) (E : List Exchange) :
    received (.receive w (.ok m) :: E) = m.toList ++ received E := by
  cases m <;> rfl

@[simp] theorem publishes_disconnect (r : Except Failure Unit) (E : List Exchange) :
    publishes (.disconnect r :: E) = publishes E := rfl

@[simp] theorem received_disconnect (r : Except Failure Unit) (E : List Exchange) :
    received (.disconnect r :: E) = received E := rfl

/-- **A record of a link's exchanges**: every call adds its own exchange, answer included. -/
structure Recorder (τ : Type) [Transport τ] where
  record : τ → List Exchange
  publish_record : ∀ c d p t,
    record (Transport.publish c d p t).2 =
      record t ++ [.publish c d p (Transport.publish c d p t).1]
  receive_record : ∀ w t,
    record (Transport.receive w t).2 = record t ++ [.receive w (Transport.receive w t).1]
  disconnect_record : ∀ t,
    record (Transport.disconnect t).2 = record t ++ [.disconnect (Transport.disconnect t).1]

/-- **A link that never fails**, with `inbound` the messages it still holds: publishing and
    releasing succeed, a receive hands out the next inbound message or nothing once there is
    none, and the link's backlog covers its queue. -/
structure Quiet {τ : Type} [Transport τ] (inbound : τ → List Bytes) : Prop where
  publish_ok : ∀ c d p (t : τ), (Transport.publish c d p t).1 = .ok ()
  publish_inbound : ∀ c d p (t : τ), inbound (Transport.publish c d p t).2 = inbound t
  receive_head : ∀ w (t : τ), (Transport.receive w t).1 = .ok (inbound t).head?
  receive_inbound : ∀ w (t : τ), inbound (Transport.receive w t).2 = (inbound t).tail
  disconnect_ok : ∀ t : τ, (Transport.disconnect t).1 = .ok ()
  backlog_bound : ∀ t : τ, (inbound t).length ≤ Transport.backlog t

/-- An in-memory link that never fails: a queue of inbound messages and the record of its
    exchanges. -/
structure Inbox where
  inbound : List Bytes
  record : List Exchange := []

instance : Transport Inbox where
  publish c d p t := (.ok (), { t with record := t.record ++ [.publish c d p (.ok ())] })
  receive w t := (.ok t.inbound.head?,
    { inbound := t.inbound.tail, record := t.record ++ [.receive w (.ok t.inbound.head?)] })
  disconnect t := (.ok (), { t with record := t.record ++ [.disconnect (.ok ())] })
  backlog t := t.inbound.length
  backlog_receive _ t _ h := by
    cases hq : t.inbound with
    | nil => simp [hq] at h
    | cons m rest => simp

/-- The record an inbox keeps. -/
def Inbox.recorder : Recorder Inbox where
  record := Inbox.record
  publish_record _ _ _ _ := rfl
  receive_record _ _ := rfl
  disconnect_record _ := rfl

/-! ## What every record sees -/

section Records

variable {τ : Type} [Transport τ]

/-- The record `rec` of the link grew by exchanges of the shapes `cs` from `t` to `t'`. -/
def Recorder.Added (rec : Recorder τ) (t t' : τ) (cs : List Call) : Prop :=
  ∃ E, rec.record t' = rec.record t ++ E ∧ E.map Exchange.call = cs

/-- **Whatever record the link keeps**, it grew by the exchanges `E` from `t` to `t'`. -/
def Recorded (t t' : τ) (E : List Exchange) : Prop :=
  ∀ rec : Recorder τ, rec.record t' = rec.record t ++ E

/-- Whatever record the link keeps, it grew by exchanges of the shapes `cs` from `t` to `t'`. -/
def Called (t t' : τ) (cs : List Call) : Prop :=
  ∀ rec : Recorder τ, rec.Added t t' cs

variable {t₁ t₂ t₃ : τ}

@[simp] theorem Recorded.refl (t : τ) : Recorded t t [] :=
  fun _ => (List.append_nil _).symm

theorem Recorded.trans {E₁ E₂ : List Exchange} (h₁ : Recorded t₁ t₂ E₁) (h₂ : Recorded t₂ t₃ E₂) :
    Recorded t₁ t₃ (E₁ ++ E₂) :=
  fun rec => by rw [h₂ rec, h₁ rec, List.append_assoc]

theorem Recorded.called {E : List Exchange} (h : Recorded t₁ t₂ E) :
    Called t₁ t₂ (E.map Exchange.call) :=
  fun rec => ⟨E, h rec, rfl⟩

theorem Called.refl (t : τ) : Called t t [] :=
  fun _ => ⟨[], by simp, rfl⟩

theorem Called.trans {cs₁ cs₂ : List Call} (h₁ : Called t₁ t₂ cs₁) (h₂ : Called t₂ t₃ cs₂) :
    Called t₁ t₃ (cs₁ ++ cs₂) := by
  intro rec
  obtain ⟨E₁, e₁, c₁⟩ := h₁ rec
  obtain ⟨E₂, e₂, c₂⟩ := h₂ rec
  exact ⟨E₁ ++ E₂, by rw [e₂, e₁, List.append_assoc], by rw [List.map_append, c₁, c₂]⟩

/-- Each call is recorded with its answer. -/
theorem recorded_publish (c : Channel) (d : Delivery) (p : Bytes) (t : τ) :
    Recorded t (Transport.publish c d p t).2 [.publish c d p (Transport.publish c d p t).1] :=
  fun rec => rec.publish_record c d p t

theorem recorded_receive (w : Millis) (t : τ) :
    Recorded t (Transport.receive w t).2 [.receive w (Transport.receive w t).1] :=
  fun rec => rec.receive_record w t

theorem recorded_disconnect (t : τ) :
    Recorded t (Transport.disconnect t).2 [.disconnect (Transport.disconnect t).1] :=
  fun rec => rec.disconnect_record t

end Records

theorem Inbox.quiet : Quiet Inbox.inbound where
  publish_ok _ _ _ _ := rfl
  publish_inbound _ _ _ _ := rfl
  receive_head _ _ := rfl
  receive_inbound _ _ := rfl
  disconnect_ok _ := rfl
  backlog_bound _ := Nat.le_refl _

end SmartHelmet.Link
