import SmartHelmet.Link.Transport
/-!
# The broker client

The link a device holds to its broker: an MQTT client whose event loop is polled by two pollers
in turn. While connecting, the handshake polls it: it waits for the CONNACK, subscribes to the
device's command topic and waits for the SUBACK, passing over every other packet. Once the
handshake is done, a forwarding task polls it for good: it hands the payloads published on the
command topic to the session's inbound queue and the packet ids of acknowledgements to an ack
queue. The session meanwhile publishes, receives and releases the connection.

The two run concurrently, so the client is a machine of atomic moves taken in any order:

* `Packet` — a packet from the broker, as the event loop takes it in;
* `Client` — the client's state: how far the connection got, the two queues, the packet ids of
  acknowledged publishes the broker has not acknowledged yet, and the publish the session waits
  on;
* `Move` — one atomic move: the event loop takes in a packet, the connection breaks or the
  handshake runs out of time, or the session calls;
* `Client.step` — one move, or none where the move cannot be taken;
* `Client.run` — moves in order, with the answers of the calls.

A call is one move, except an acknowledged publish: its first move drops the stale
acknowledgements and sends the packet, its second (`Move.await`) ends the wait for the
acknowledgement. Whatever arrives while a call waits arrives before the move that ends it. The
broker conforms to MQTT 3.1.1 as far as the client relies on it: it answers CONNECT first, and
acknowledges only what was published. A packet id is chosen by the client library for each
acknowledged publish among the ids not outstanding; the moves carry it. What is published and how
long a receive waits show only in which packets arrive, so the moves leave them out. A second
release polls a finished task and stops the program: the machine has no move for it.
-/

namespace SmartHelmet.Link

open SmartHelmet.Clock

/-- The return code of a CONNACK. -/
inductive ConnectCode where
  | accepted
  | refusedProtocolVersion
  | badClientId
  | serviceUnavailable
  | badUserNamePassword
  | notAuthorized
  deriving Repr, DecidableEq

/-- The name a refused connection reports its return code by. -/
def ConnectCode.name : ConnectCode → String
  | .accepted => "Success"
  | .refusedProtocolVersion => "RefusedProtocolVersion"
  | .badClientId => "BadClientId"
  | .serviceUnavailable => "ServiceUnavailable"
  | .badUserNamePassword => "BadUserNamePassword"
  | .notAuthorized => "NotAuthorized"

/-- A packet from the broker. -/
inductive Packet where
  | connAck (code : ConnectCode)
  /-- The answer to SUBSCRIBE: per topic filter, the quality granted, or none if refused. -/
  | subAck (granted : List (Option Qos))
  | publish (topic : String) (payload : Bytes)
  | pubAck (id : Nat)
  /-- Any other packet, such as a ping response. -/
  | other
  deriving Repr, DecidableEq

/-- The payload of a packet published on `topic`. -/
def Packet.payloadOn (topic : String) : Packet → Option Bytes
  | .publish t p => if t = topic then some p else none
  | _ => none

/-- How far the connection got. -/
inductive Client.Stage where
  /-- CONNECT was sent. -/
  | awaitingConnAck
  /-- The broker accepted the connection and SUBSCRIBE was sent. -/
  | awaitingSubAck
  /-- The handshake is done and the forwarding task polls the event loop. -/
  | driving
  /-- The event loop has ended: its queues take in nothing more. -/
  | stopped
  /-- The handshake failed, so there is no connection. -/
  | failed
  deriving Repr, DecidableEq

/-- **An MQTT client** of a device, with the queues its forwarding task fills. -/
structure Client where
  device : String
  /-- How long an acknowledged publish waits for its acknowledgement. -/
  ackTimeout : Millis
  /-- The broker's host and port, as a handshake that runs out of time names them. -/
  address : String
  stage : Client.Stage := .awaitingConnAck
  /-- Payloads published on the command topic, forwarded and not yet received. -/
  inbound : List Bytes := []
  /-- Packet ids of acknowledgements, forwarded and not yet read. -/
  acks : List Nat := []
  /-- Packet ids of acknowledged publishes that the broker has not acknowledged yet. -/
  outstanding : List Nat := []
  /-- The packet id of the acknowledged publish the session waits on. -/
  awaiting : Option Nat := none
  /-- Whether the session released the connection. -/
  released : Bool := false
  deriving Repr

namespace Client

/-- One atomic move of a client. -/
inductive Move where
  /-- The event loop takes in the broker's next packet. -/
  | arrive (p : Packet)
  /-- The connection breaks: polling the event loop fails with `reason`. -/
  | drop (reason : String)
  /-- The handshake runs out of time. -/
  | expire
  /-- The session publishes on a channel; an acknowledged publish gets the packet id `id`. -/
  | publish (c : Channel) (d : Delivery) (id : Nat)
  /-- The wait of an acknowledged publish for its acknowledgement ends. -/
  | await
  /-- The session's receive: its wait ends. -/
  | receive
  /-- The session releases the connection. -/
  | disconnect
  deriving Repr, DecidableEq

/-- What a call answered. -/
inductive Reply where
  | connect (r : Except Failure Unit)
  | publish (r : Except Failure Unit)
  | receive (r : Except Failure (Option Bytes))
  | disconnect (r : Except Failure Unit)

/-- The packet a move takes in, if it takes one in. -/
def Move.packet : Move → Option Packet
  | .arrive p => some p
  | _ => none

/-- The payload a receive returned, if it returned one. -/
def Reply.got : Reply → Option Bytes
  | .receive (.ok m) => m
  | _ => none

/-- The payloads that receives returned, in order. -/
def delivered (rs : List Reply) : List Bytes := rs.filterMap Reply.got

/-- The reason a request fails once the event loop has ended. -/
def requestFailed : String := "Failed to send mqtt requests to eventloop"

/-- The reason a refused connection fails with. -/
def refusal (code : ConnectCode) : String :=
  "Connection refused, return code: `" ++ code.name ++ "`"

/-- A client that has sent CONNECT to the broker at `address`. -/
def opening (device : String) (ackTimeout : Millis) (address : String) : Client :=
  { device := device, ackTimeout := ackTimeout, address := address }

/-- The topic the device's commands come on. -/
def commandTopic (s : Client) : String := Channel.topic s.device .command

/-- Whether the handshake succeeded, so that the session holds a connection. -/
def connected (s : Client) : Bool :=
  match s.stage with
  | .driving | .stopped => true
  | _ => false

/-- Whether the session may call: it holds a connection and no publish waits. -/
def idle (s : Client) : Bool := s.connected && s.awaiting.isNone

/-- **The handshake takes in a packet**: the broker's CONNACK accepts or refuses the
    connection; once SUBSCRIBE is sent, the SUBACK completes the handshake and every other packet
    is passed over. -/
def handshake (s : Client) (p : Packet) : Option (Client × Option Reply) :=
  match s.stage, p with
  | .awaitingConnAck, .connAck .accepted => some ({ s with stage := .awaitingSubAck }, none)
  | .awaitingConnAck, .connAck code =>
    some ({ s with stage := .failed }, some (.connect (.error (.connect (refusal code)))))
  | .awaitingSubAck, .subAck _ => some ({ s with stage := .driving }, some (.connect (.ok ())))
  | .awaitingSubAck, .pubAck _ => none
  | .awaitingSubAck, _ => some (s, none)
  | _, _ => none

/-- **The forwarding task takes in a packet**: it queues command payloads and the packet ids of
    acknowledgements for the session. An acknowledgement of nothing outstanding ends the event
    loop. -/
def forward (s : Client) : Packet → Client
  | .publish topic payload =>
    if topic = s.commandTopic then { s with inbound := s.inbound ++ [payload] } else s
  | .pubAck id =>
    if id ∈ s.outstanding then
      { s with acks := s.acks ++ [id], outstanding := s.outstanding.erase id }
    else { s with stage := .stopped }
  | _ => s

/-- **The event loop takes in a packet**, polled by the handshake or by the forwarding task. -/
def take (s : Client) (p : Packet) : Option (Client × Option Reply) :=
  match s.stage with
  | .driving => some (s.forward p, none)
  | .awaitingConnAck | .awaitingSubAck => s.handshake p
  | .stopped | .failed => none

/-- **The session publishes.** An acknowledged publish first drops the acknowledgements already
    queued, as stale, then waits for the one it sends; once the event loop has ended, the request
    fails. -/
def publish (s : Client) (c : Channel) (d : Delivery) (id : Nat) : Option (Client × Option Reply) :=
  match d, s.stage with
  | .fireAndForget, .driving => some (s, some (.publish (.ok ())))
  | .fireAndForget, _ =>
    some (s, some (.publish (.error (.publish (Channel.topic s.device c) requestFailed))))
  | .atLeastOnce, .driving =>
    if id ∈ s.outstanding then none
    else some ({ s with acks := [], outstanding := s.outstanding ++ [id], awaiting := some id }, none)
  | .atLeastOnce, _ =>
    some ({ s with acks := [] },
      some (.publish (.error (.publish (Channel.topic s.device c) requestFailed))))

/-- **The wait for an acknowledgement ends**: with the next queued acknowledgement, whichever
    publish it is for, or with nothing, because the queue is closed or the time ran out. -/
def await (s : Client) : Option (Client × Option Reply) :=
  match s.awaiting, s.acks, s.stage with
  | none, _, _ => none
  | some _, _ :: rest, _ => some ({ s with acks := rest, awaiting := none }, some (.publish (.ok ())))
  | some _, [], .stopped => some ({ s with awaiting := none }, some (.publish (.error .closed)))
  | some _, [], _ =>
    some ({ s with awaiting := none }, some (.publish (.error (.ackTimeout s.ackTimeout))))

/-- **The session receives**: the next queued payload, nothing if the wait ends first, or a
    closed connection once the queue is empty and closed. -/
def receive (s : Client) : Client × Option Reply :=
  match s.inbound, s.stage with
  | m :: rest, _ => ({ s with inbound := rest }, some (.receive (.ok (some m))))
  | [], .stopped => (s, some (.receive (.error .closed)))
  | [], _ => (s, some (.receive (.ok none)))

/-- **The session releases the connection**: the request goes to the event loop, which ends. -/
def disconnect (s : Client) : Client × Option Reply :=
  ({ s with stage := .stopped, released := true },
    some (.disconnect (match s.stage with
      | .stopped => .error (.disconnect requestFailed)
      | _ => .ok ())))

/-- **One move of a client**, with the answer of the call it ends; none where it cannot be
    taken. -/
def step (s : Client) : Move → Option (Client × Option Reply)
  | .arrive p => s.take p
  | .drop reason =>
    match s.stage with
    | .awaitingConnAck | .awaitingSubAck =>
      some ({ s with stage := .failed }, some (.connect (.error (.connect reason))))
    | .driving => some ({ s with stage := .stopped }, none)
    | _ => none
  | .expire =>
    match s.stage with
    | .awaitingConnAck | .awaitingSubAck =>
      some ({ s with stage := .failed },
        some (.connect (.error (.connect (s.address ++ " did not answer")))))
    | _ => none
  | .publish c d id => if s.idle then s.publish c d id else none
  | .await => s.await
  | .receive => if s.idle then some s.receive else none
  | .disconnect => if s.idle && !s.released then some s.disconnect else none

/-- **Moves in order**, with the answers of the calls they end; none if one cannot be taken. -/
def run (s : Client) : List Move → Option (Client × List Reply)
  | [] => some (s, [])
  | m :: ms =>
    match s.step m with
    | none => none
    | some (s₁, r) => (s₁.run ms).map (Prod.map id (r.toList ++ ·))

@[simp] theorem run_nil (s : Client) : s.run [] = some (s, []) := rfl

theorem run_cons (s : Client) (m : Move) (ms : List Move) :
    s.run (m :: ms) = (s.step m).bind fun (s₁, r) => (s₁.run ms).map (Prod.map id (r.toList ++ ·)) := by
  rw [run]
  cases s.step m <;> rfl

/-- A run of two stretches of moves is the second run after the first. -/
theorem run_append (s : Client) (xs ys : List Move) :
    s.run (xs ++ ys) = (s.run xs).bind fun (s₁, rs₁) =>
      (s₁.run ys).map (Prod.map id (rs₁ ++ ·)) := by
  induction xs generalizing s with
  | nil =>
    rw [List.nil_append, run_nil, Option.bind_some]
    dsimp only
    rcases s.run ys with _ | ⟨s₁, rs⟩ <;> rfl
  | cons m xs ih =>
    rw [List.cons_append, run_cons, run_cons]
    rcases s.step m with _ | ⟨s₁, r⟩
    · rfl
    · simp only [Option.bind_some, ih]
      rcases s₁.run xs with _ | ⟨s₂, rs₂⟩
      · rfl
      · simp only [Option.bind_some, Option.map_some, Option.map_map]
        congr 1
        funext x
        simp [Prod.map, List.append_assoc]

theorem run_nil_eq_some {s s' : Client} {rs : List Reply} :
    s.run [] = some (s', rs) ↔ s' = s ∧ rs = [] := by
  simp [eq_comm]

theorem run_cons_eq_some {s s' : Client} {m : Move} {ms : List Move} {rs : List Reply} :
    s.run (m :: ms) = some (s', rs) ↔
      ∃ s₁ r rs₁, s.step m = some (s₁, r) ∧ s₁.run ms = some (s', rs₁) ∧ rs = r.toList ++ rs₁ := by
  rw [run_cons]
  constructor
  · intro h
    obtain ⟨⟨s₁, r⟩, h₁, h₂⟩ := Option.bind_eq_some_iff.1 h
    obtain ⟨⟨s₂, rs₁⟩, h₃, h₄⟩ := Option.map_eq_some_iff.1 h₂
    cases h₄
    exact ⟨s₁, r, rs₁, h₁, h₃, rfl⟩
  · rintro ⟨s₁, r, rs₁, h₁, h₂, rfl⟩
    simp [h₁, h₂, Prod.map]

theorem run_append_eq_some {s s' : Client} {xs ys : List Move} {rs : List Reply} :
    s.run (xs ++ ys) = some (s', rs) ↔
      ∃ s₁ rs₁ rs₂, s.run xs = some (s₁, rs₁) ∧ s₁.run ys = some (s', rs₂) ∧ rs = rs₁ ++ rs₂ := by
  rw [run_append]
  constructor
  · intro h
    obtain ⟨⟨s₁, rs₁⟩, h₁, h₂⟩ := Option.bind_eq_some_iff.1 h
    obtain ⟨⟨s₂, rs₂⟩, h₃, h₄⟩ := Option.map_eq_some_iff.1 h₂
    cases h₄
    exact ⟨s₁, rs₁, rs₂, h₁, h₃, rfl⟩
  · rintro ⟨s₁, rs₁, rs₂, h₁, h₂, rfl⟩
    simp [h₁, h₂, Prod.map]

/-! ## What each move does

One lemma per kind of move says all that the move can do, guards included; the theory of the
client is derived from these and never unfolds `step`. -/

section Moves

variable {s s' : Client} {r : Option Reply} {p : Packet}

theorem connected_iff : s.connected = true ↔ s.stage = .driving ∨ s.stage = .stopped := by
  unfold connected
  split <;> simp_all

theorem idle_iff : s.idle = true ↔ s.connected = true ∧ s.awaiting = none := by
  simp [idle, Option.isNone_iff_eq_none]

@[simp] theorem step_arrive : s.step (.arrive p) = s.take p := rfl

theorem take_cases (h : s.take p = some (s', r)) :
    (s.stage = .driving ∧ s' = s.forward p ∧ r = none) ∨
      ((s.stage = .awaitingConnAck ∨ s.stage = .awaitingSubAck) ∧ s.handshake p = some (s', r)) := by
  unfold take at h
  split at h
  · obtain ⟨rfl, rfl⟩ := Prod.mk.inj (Option.some.inj h)
    exact .inl ⟨‹_›, rfl, rfl⟩
  all_goals first | exact .inr ⟨by simp [*], h⟩ | cases h

/-- The handshake only moves the connection on: to the next packet it waits for, to a failure,
    or, on the SUBACK alone, to the forwarding task; it answers only the connect call. -/
theorem handshake_cases (h : s.handshake p = some (s', r)) :
    ∃ st, s' = { s with stage := st } ∧ st ≠ .stopped ∧ (st = .driving ↔ ∃ g, p = .subAck g) ∧
      ∀ x ∈ r, x.got = none := by
  unfold handshake at h
  split at h
  all_goals simp only [Option.some.injEq, Prod.mk.injEq, reduceCtorEq] at h
  all_goals obtain ⟨rfl, rfl⟩ := h
  · exact ⟨.awaitingSubAck, rfl, by decide, by simp, by simp⟩
  · exact ⟨.failed, rfl, by decide, by simp, by simp [Reply.got]⟩
  · exact ⟨.driving, rfl, by decide, by simp, by simp [Reply.got]⟩
  · rename_i hs _ _
    exact ⟨s.stage, rfl, by simp [hs], by simp_all, by simp⟩

@[simp] theorem forward_device : (s.forward p).device = s.device := by
  unfold forward
  split <;> (try split) <;> rfl

@[simp] theorem forward_awaiting : (s.forward p).awaiting = s.awaiting := by
  unfold forward
  split <;> (try split) <;> rfl

theorem forward_inbound : (s.forward p).inbound = s.inbound ++ (p.payloadOn s.commandTopic).toList := by
  unfold forward Packet.payloadOn
  split <;> (try split) <;> simp_all

theorem forward_stage : (s.forward p).stage = s.stage ∨ (s.forward p).stage = .stopped := by
  unfold forward
  split <;> (try split) <;> simp

/-- The forwarding task moves an acknowledged packet id from the outstanding ones to the ack
    queue, and otherwise leaves both alone. -/
theorem forward_queues :
    ((s.forward p).acks = s.acks ∧ (s.forward p).outstanding = s.outstanding) ∨
      ∃ id, p = .pubAck id ∧ id ∈ s.outstanding ∧ (s.forward p).acks = s.acks ++ [id] ∧
        (s.forward p).outstanding = s.outstanding.erase id := by
  unfold forward
  split <;> (try split) <;> simp_all

/-- The connection ends: the handshake fails, or the forwarding task's event loop ends. -/
theorem step_halt_cases {m : Move} (hm : m = .expire ∨ ∃ reason, m = .drop reason)
    (h : s.step m = some (s', r)) :
    (s.stage = .driving ∧ s' = { s with stage := .stopped } ∧ r = none) ∨
      ((s.stage = .awaitingConnAck ∨ s.stage = .awaitingSubAck) ∧ s' = { s with stage := .failed } ∧
        ∃ f, r = some (.connect (.error f))) := by
  rcases hm with rfl | ⟨reason, rfl⟩
  all_goals
    simp only [step] at h
    split at h
    all_goals simp only [Option.some.injEq, Prod.mk.injEq, reduceCtorEq] at h
    all_goals obtain ⟨rfl, rfl⟩ := h
  all_goals simp_all

/-- A publish is sent and waits for its acknowledgement, or is answered at once, emptying the ack
    queue at most. -/
theorem step_publish_cases {c : Channel} {d : Delivery} {id : Nat}
    (h : s.step (.publish c d id) = some (s', r)) :
    s.idle ∧
      ((s.stage = .driving ∧ d = .atLeastOnce ∧ id ∉ s.outstanding ∧
          s' = { s with acks := [], outstanding := s.outstanding ++ [id], awaiting := some id } ∧
          r = none) ∨
        ((d = .fireAndForget ∨ s.stage ≠ .driving) ∧ (∃ q ⊆ s.acks, s' = { s with acks := q }) ∧
          ∃ x, r = some (.publish x))) := by
  simp only [step] at h
  split at h
  · refine ⟨‹_›, ?_⟩
    unfold publish at h
    split at h
    all_goals first
      | (split at h
         all_goals simp only [Option.some.injEq, Prod.mk.injEq, reduceCtorEq] at h)
      | simp only [Option.some.injEq, Prod.mk.injEq] at h
    all_goals obtain ⟨rfl, rfl⟩ := h
    all_goals first
      | exact .inr ⟨.inl rfl, ⟨s.acks, List.Subset.refl _, rfl⟩, _, rfl⟩
      | exact .inr ⟨.inr ‹_›, ⟨[], List.nil_subset _, rfl⟩, _, rfl⟩
      | simp_all
  · cases h

/-- The wait of a publish ends with the next queued acknowledgement, or without one. -/
theorem step_await_cases (h : s.step .await = some (s', r)) :
    ∃ k, s.awaiting = some k ∧
      ((∃ k' rest, s.acks = k' :: rest ∧ s' = { s with acks := rest, awaiting := none } ∧
          r = some (.publish (.ok ()))) ∨
        (s.acks = [] ∧ s' = { s with awaiting := none } ∧
          r = some (.publish (.error
            (if s.stage = .stopped then .closed else .ackTimeout s.ackTimeout))))) := by
  simp only [step, await] at h
  split at h
  all_goals simp only [Option.some.injEq, Prod.mk.injEq, reduceCtorEq] at h
  all_goals obtain ⟨rfl, rfl⟩ := h
  all_goals simp_all

/-- A receive takes the next queued payload, or answers without one. -/
theorem step_receive_cases (h : s.step .receive = some (s', r)) :
    s.idle ∧
      ((∃ q rest, s.inbound = q :: rest ∧ s' = { s with inbound := rest } ∧
          r = some (.receive (.ok (some q)))) ∨
        (s.inbound = [] ∧ s' = s ∧
          r = some (.receive (if s.stage = .stopped then .error .closed else .ok none)))) := by
  simp only [step] at h
  split at h
  · refine ⟨‹_›, ?_⟩
    simp only [Option.some.injEq, receive] at h
    split at h
    all_goals simp only [Prod.mk.injEq] at h
    all_goals obtain ⟨rfl, rfl⟩ := h
    all_goals first
      | exact .inl ⟨_, _, ‹_›, rfl, rfl⟩
      | simp_all
  · cases h

/-- A release ends the event loop, once. -/
theorem step_disconnect_cases (h : s.step .disconnect = some (s', r)) :
    s.idle ∧ s.released = false ∧ s' = { s with stage := .stopped, released := true } ∧
      ∃ x, r = some (.disconnect x) := by
  simp only [step] at h
  split at h
  · simp only [Option.some.injEq, disconnect, Prod.mk.injEq] at h
    obtain ⟨rfl, rfl⟩ := h
    simp_all
  · cases h

end Moves

end Client

end SmartHelmet.Link
