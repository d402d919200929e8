import SmartHelmet.Link.Client
/-!
# Which commands reach the session

The broker may publish on the command topic as soon as it holds the subscription, before it
sends the SUBACK. The handshake polls the event loop until the SUBACK and passes over every other
packet, so a command published before the SUBACK is lost; from the SUBACK on, the forwarding task
queues every command and receives hand them out in order.

* `arrivals`, `packetsAfter`, `commands` — the packets the broker sent during a run, those after
  the first packet of a kind, and the payloads among them published on a device's command topic;
* `run_connected` — once connected, what receives return together with what is still queued is
  what was queued before and every command that arrived, in order;
* `run_opening` — from a fresh connection, it is the commands that arrived after the SUBACK;
* `receive_after_stop` — once the event loop has ended, receives hand out what is queued and
  then find the connection closed;
* `commands_delivered_after_suback` — the two together for every run;
* `publish_before_suback_is_lost` — a command the broker publishes after SUBSCRIBE but before
  the SUBACK never reaches the session.
-/

namespace SmartHelmet.Link

/-- Whether a packet is a SUBACK. -/
def Packet.isSubAck : Packet → Bool
  | .subAck _ => true
  | _ => false

/-- Whether a packet is a CONNACK that accepts the connection, after which SUBSCRIBE is sent. -/
def Packet.accepts : Packet → Bool
  | .connAck .accepted => true
  | _ => false

namespace Client

open SmartHelmet.Clock

/-- The packets the broker sent during the moves, in order. -/
def arrivals (ms : List Move) : List Packet := ms.filterMap Move.packet

/-- The packets after the first one of a kind. -/
def packetsAfter (q : Packet → Bool) : List Packet → List Packet
  | [] => []
  | p :: ps => if q p then ps else packetsAfter q ps

/-- The payloads of the packets published on the command topic of `device`. -/
def commands (device : String) (ps : List Packet) : List Bytes :=
  ps.filterMap (Packet.payloadOn (Channel.topic device .command))

@[simp] theorem arrivals_nil : arrivals [] = [] := rfl

@[simp] theorem arrivals_cons (m : Move) (ms : List Move) :
    arrivals (m :: ms) = m.packet.toList ++ arrivals ms := by
  cases m <;> rfl

@[simp] theorem commands_nil (device : String) : commands device [] = [] := rfl

@[simp] theorem commands_cons (device : String) (p : Packet) (ps : List Packet) :
    commands device (p :: ps) =
      (p.payloadOn (Channel.topic device .command)).toList ++ commands device ps := by
  unfold commands
  cases h : p.payloadOn (Channel.topic device .command) <;> simp [h]

@[simp] theorem commands_append (device : String) (ps qs : List Packet) :
    commands device (ps ++ qs) = commands device ps ++ commands device qs :=
  List.filterMap_append

@[simp] theorem delivered_append (rs qs : List Reply) :
    delivered (rs ++ qs) = delivered rs ++ delivered qs :=
  List.filterMap_append

variable {s s' : Client} {m : Move} {r : Option Reply} {ms : List Move} {rs : List Reply}

/-! ## Once connected -/

/-- **Once connected, a move keeps the commands in order**: what a receive returns, with what
    stays queued, is what was queued and the command that arrived, if one did. -/
theorem step_connected (hc : s.connected = true) (h : s.step m = some (s', r)) :
    s'.connected = true ∧ s'.device = s.device ∧
      delivered r.toList ++ s'.inbound = s.inbound ++ commands s.device m.packet.toList := by
  cases m with
  | arrive p =>
    rcases take_cases h with ⟨hs, rfl, rfl⟩ | ⟨hs, -⟩
    · refine ⟨?_, forward_device, ?_⟩
      · rcases forward_stage (s := s) (p := p) with h' | h' <;> simp [connected_iff, h', hs]
      · simp [forward_inbound, delivered, Move.packet, commandTopic]
    · rcases hs with hs | hs <;> simp [connected_iff, hs] at hc
  | drop _ | expire =>
    rcases step_halt_cases (by simp) h with ⟨-, rfl, rfl⟩ | ⟨hs, -⟩
    · simp [connected_iff, delivered, commands, Move.packet]
    · rcases hs with hs | hs <;> simp [connected_iff, hs] at hc
  | publish =>
    obtain ⟨-, ⟨-, -, -, rfl, rfl⟩ | ⟨-, ⟨q, -, rfl⟩, x, rfl⟩⟩ := step_publish_cases h
    all_goals
      refine ⟨hc, rfl, ?_⟩
      simp [delivered, commands, Move.packet, Reply.got]
  | await =>
    obtain ⟨k, -, ⟨_, _, -, rfl, rfl⟩ | ⟨-, rfl, rfl⟩⟩ := step_await_cases h
    all_goals
      refine ⟨hc, rfl, ?_⟩
      simp [delivered, commands, Move.packet, Reply.got]
  | receive =>
    rcases (step_receive_cases h).2 with ⟨q, rest, hq, rfl, rfl⟩ | ⟨hq, rfl, rfl⟩
    · refine ⟨hc, rfl, ?_⟩
      simp [hq, delivered, commands, Move.packet, Reply.got]
    · refine ⟨hc, rfl, ?_⟩
      split <;> simp [hq, delivered, commands, Move.packet, Reply.got]
  | disconnect =>
    obtain ⟨-, -, rfl, x, rfl⟩ := step_disconnect_cases h
    exact ⟨rfl, rfl, by simp [delivered, commands, Move.packet, Reply.got]⟩

/-- **Once connected, nothing is lost or repeated**: what receives return, with what is still
    queued, is what was queued and every command that arrived, in order. -/
theorem run_connected (hc : s.connected = true) (h : s.run ms = some (s', rs)) :
    delivered rs ++ s'.inbound = s.inbound ++ commands s.device (arrivals ms) := by
  induction ms generalizing s rs with
  | nil =>
    obtain ⟨rfl, rfl⟩ := run_nil_eq_some.1 h
    simp [delivered, commands]
  | cons m ms ih =>
    obtain ⟨s₁, r, rs₁, h₁, hrest, rfl⟩ := run_cons_eq_some.1 h
    obtain ⟨hc₁, hd₁, hq₁⟩ := step_connected hc h₁
    calc delivered (r.toList ++ rs₁) ++ s'.inbound
        = delivered r.toList ++ (delivered rs₁ ++ s'.inbound) := by simp
      _ = delivered r.toList ++ (s₁.inbound ++ commands s₁.device (arrivals ms)) := by
          rw [ih hc₁ hrest]
      _ = s.inbound ++ commands s.device (arrivals (m :: ms)) := by
          rw [hd₁, ← List.append_assoc, hq₁]
          simp

/-! ## During the handshake -/

/-- **The handshake delivers nothing**: it leaves the queue empty and answers no receive, and
    only the SUBACK connects the session. -/
theorem step_opening (hc : s.connected = false) (ha : s.awaiting = none) (hi : s.inbound = [])
    (h : s.step m = some (s', r)) :
    s'.device = s.device ∧ s'.awaiting = none ∧ s'.inbound = [] ∧ delivered r.toList = [] ∧
      (s'.connected = true ↔ ∃ g, m = .arrive (.subAck g)) := by
  have hbusy : s.idle = false := by simp [idle, hc]
  cases m with
  | arrive p =>
    rcases take_cases h with ⟨hs, -⟩ | ⟨hs, hh⟩
    · simp [connected, hs] at hc
    · obtain ⟨st, rfl, hst, hdrive, hr⟩ := handshake_cases hh
      refine ⟨rfl, ha, hi, ?_, ?_⟩
      · cases r with
        | none => rfl
        | some x => simp [delivered, hr x rfl]
      · simp only [connected_iff, hst, or_false, Move.arrive.injEq, hdrive]
  | drop _ | expire =>
    rcases step_halt_cases (by simp) h with ⟨hs, -⟩ | ⟨-, rfl, f, rfl⟩
    · simp [connected, hs] at hc
    · exact ⟨rfl, ha, hi, rfl, by simp [connected]⟩
  | await =>
    obtain ⟨k, hk, -⟩ := step_await_cases h
    simp [ha] at hk
  | publish => simpa [hbusy] using (step_publish_cases h).1
  | receive => simpa [hbusy] using (step_receive_cases h).1
  | disconnect => simpa [hbusy] using (step_disconnect_cases h).1

/-- **From a connection that is still being made**, what receives return, with what is still
    queued, is the commands that arrived after the SUBACK. -/
theorem run_opening (hc : s.connected = false) (ha : s.awaiting = none) (hi : s.inbound = [])
    (h : s.run ms = some (s', rs)) :
    delivered rs ++ s'.inbound = commands s.device (packetsAfter Packet.isSubAck (arrivals ms)) := by
  induction ms generalizing s rs with
  | nil =>
    obtain ⟨rfl, rfl⟩ := run_nil_eq_some.1 h
    simp [delivered, packetsAfter, commands, hi]
  | cons m ms ih =>
    obtain ⟨s₁, r, rs₁, h₁, hrest, rfl⟩ := run_cons_eq_some.1 h
    obtain ⟨hd₁, ha₁, hi₁, hr₁, hsub⟩ := step_opening hc ha hi h₁
    rw [delivered_append, hr₁, List.nil_append, arrivals_cons]
    by_cases hm : ∃ g, m = .arrive (.subAck g)
    · -- the SUBACK: from here on the forwarding task queues every command
      obtain ⟨g, rfl⟩ := hm
      rw [run_connected (hsub.2 ⟨g, rfl⟩) hrest, hi₁, hd₁]
      simp [Move.packet, packetsAfter, Packet.isSubAck]
    · -- any other move leaves the handshake waiting or failed, with nothing queued
      have hc₁ : s₁.connected = false := by
        cases hc' : s₁.connected
        · rfl
        · exact absurd (hsub.1 hc') hm
      have hskip : packetsAfter Packet.isSubAck (m.packet.toList ++ arrivals ms) =
          packetsAfter Packet.isSubAck (arrivals ms) := by
        cases m with
        | arrive p =>
          cases p <;> first | exact absurd ⟨_, rfl⟩ hm | rfl
        | _ => rfl
      rw [ih hc₁ ha₁ hi₁ hrest, hd₁, hskip]

/-! ## Once the event loop has ended -/

/-- **Once the event loop has ended**, receives hand out what is queued, in order, and then find
    the connection closed. -/
theorem receive_after_stop (hs : s.stage = .stopped) (ha : s.awaiting = none) :
    s.run (List.replicate (s.inbound.length + 1) .receive) =
      some ({ s with inbound := [] },
        s.inbound.map (fun q => .receive (.ok (some q))) ++ [.receive (.error .closed)]) := by
  obtain ⟨inbound, hq⟩ : ∃ q, s.inbound = q := ⟨_, rfl⟩
  rw [hq]
  -- on the queue, for every client whose event loop has ended and whose session waits on nothing
  induction inbound generalizing s with
  | nil =>
    have hstep : s.step .receive = some (s, some (.receive (.error .closed))) := by
      simp [step, idle, connected, receive, hs, ha, hq]
    have hempty : { s with inbound := [] } = s := by
      cases s
      cases hq
      rfl
    rw [List.length_nil, List.replicate_one, run_cons_eq_some, hempty]
    exact ⟨_, _, _, hstep, rfl, rfl⟩
  | cons x rest ih =>
    have hstep : s.step .receive =
        some ({ s with inbound := rest }, some (.receive (.ok (some x)))) := by
      simp [step, idle, connected, receive, hs, ha, hq]
    have hrest := ih (s := { s with inbound := rest }) hs ha rfl
    rw [List.length_cons, List.replicate_succ, run_cons_eq_some]
    exact ⟨_, _, _, hstep, hrest, rfl⟩

/-! ## What reaches the session -/

/-- **Every command published after the SUBACK reaches the session, in order, and no other**:
    over every run from a fresh connection, what receives returned, with what is still queued,
    is exactly the commands the broker published after the SUBACK; and once the event loop has
    ended, receives hand out what is queued and then find the connection closed. -/
theorem commands_delivered_after_suback (device : String) (wait : Millis) (address : String)
    (ms : List Move) (s : Client) (rs : List Reply)
    (hrun : (opening device wait address).run ms = some (s, rs)) :
    delivered rs ++ s.inbound = commands device (packetsAfter Packet.isSubAck (arrivals ms)) ∧
      (s.stage = .stopped → s.awaiting = none →
        s.run (List.replicate (s.inbound.length + 1) .receive) =
          some ({ s with inbound := [] },
            s.inbound.map (fun q => .receive (.ok (some q))) ++ [.receive (.error .closed)])) :=
  ⟨run_opening (s := opening device wait address) rfl rfl rfl hrun, receive_after_stop⟩

theorem commands_delivered_after_suback_reset :
    let ms : List Move :=
      [.arrive (.connAck .accepted), .arrive (.subAck [some .atLeastOnce]),
        .arrive (.publish "helmet/HELMET001/command" [1]),
        .arrive (.publish "helmet/HELMET001/accel" [9]),
        .arrive (.publish "helmet/HELMET001/command" [2]), .receive, .drop "connection reset"]
    let s : Client :=
      { device := "HELMET001", ackTimeout := 2000, address := "127.0.0.1:1883",
        stage := .stopped, inbound := [[2]] }
    let rs : List Reply := [.connect (.ok ()), .receive (.ok (some [1]))]
    (opening "HELMET001" 2000 "127.0.0.1:1883").run ms = some (s, rs) ∧
      delivered rs ++ s.inbound = commands "HELMET001" (packetsAfter Packet.isSubAck (arrivals ms)) ∧
        (s.stage = .stopped → s.awaiting = none →
          s.run (List.replicate (s.inbound.length + 1) .receive) =
            some ({ s with inbound := [] },
              s.inbound.map (fun q => .receive (.ok (some q))) ++ [.receive (.error .closed)])) := by
  intro ms s rs
  have hrun : (opening "HELMET001" 2000 "127.0.0.1:1883").run ms = some (s, rs) := rfl
  exact ⟨hrun, commands_delivered_after_suback "HELMET001" 2000 "127.0.0.1:1883" ms s rs hrun⟩

/-- **A command published before the SUBACK is lost**: the broker may publish on the command
    topic once it holds the subscription, but the handshake passes that packet over, so a command
    published after SUBSCRIBE is neither received nor queued. -/
theorem publish_before_suback_is_lost :
    ¬ ∀ (ms : List Move) (s : Client) (rs : List Reply),
        (opening "HELMET001" 2000 "127.0.0.1:1883").run ms = some (s, rs) →
          delivered rs ++ s.inbound =
            commands "HELMET001" (packetsAfter Packet.accepts (arrivals ms)) := by
  intro h
  have hlost := h [.arrive (.connAck .accepted), .arrive (.publish "helmet/HELMET001/command" [1]),
    .arrive (.subAck [some .atLeastOnce]), .receive] _ _ rfl
  exact absurd hlost (by decide)

end Client

end SmartHelmet.Link
