import SmartHelmet.Proofs.Link.Commands
/-!
# How a connection is made

Connecting sends CONNECT and waits for the CONNACK, then subscribes to the command topic and waits
for the SUBACK, passing over every other packet; only then is the forwarding task started. The
SUBACK is taken whatever return codes it carries, so a subscription the broker refused still
connects the session, which then hears no command.

* `PassedOver` — a move the handshake passes over while it waits for the SUBACK;
* `step_failed`, `run_failed` — a connection that failed takes no more moves;
* `step_connected_replies`, `run_connected_replies` — once connected, nothing answers the
  connect call again;
* `step_awaitingConnAck`, `step_awaitingSubAck` — what one move of the handshake does;
* `connect_outcome` — over every run from a fresh connection, connect answers Ok just when the
  broker accepted the connection and then sent a SUBACK, with nothing but passed-over packets
  between, and an error leaves a failed connection with no forwarding task and nothing else
  done;
* `refused_subscription_connects` — a SUBACK that refuses the subscription connects.
-/

namespace SmartHelmet.Link.Client

/-- **A move the handshake passes over** while it waits for the SUBACK: a packet that is neither
    a SUBACK nor an acknowledgement (the broker acknowledges only what was published). -/
def PassedOver : Move → Prop
  | .arrive p => p.isSubAck = false ∧ ∀ id, p ≠ .pubAck id
  | _ => False

/-- Whether a reply answers the connect call. -/
def Reply.isConnect : Reply → Bool
  | .connect _ => true
  | _ => false

variable {s s' : Client} {m : Move} {r : Option Reply} {ms : List Move} {rs : List Reply}

/-! ## 1. A failed connection -/

/-- **A connection that failed takes no move**: there is no packet to take in, no connection to
    lose and no session call to answer. -/
theorem step_failed (hs : s.stage = .failed) (ha : s.awaiting = none) : s.step m = none := by
  have hidle : s.idle = false := by simp [idle, connected, hs]
  cases m with
  | arrive p => simp [step, take, hs]
  | drop _ => simp [step, hs]
  | expire => simp [step, hs]
  | publish => simp [step, hidle]
  | await => simp [step, await, ha]
  | receive => simp [step, hidle]
  | disconnect => simp [step, hidle]

theorem run_failed (hs : s.stage = .failed) (ha : s.awaiting = none)
    (h : s.run ms = some (s', rs)) : ms = [] ∧ s' = s ∧ rs = [] := by
  cases ms with
  | nil =>
    obtain ⟨rfl, rfl⟩ := run_nil_eq_some.1 h
    exact ⟨rfl, rfl, rfl⟩
  | cons m ms =>
    obtain ⟨s₁, r, rs₁, h₁, -, -⟩ := run_cons_eq_some.1 h
    rw [step_failed hs ha] at h₁
    cases h₁

/-! ## 2. Once connected -/

/-- Once connected, a move answers a publish, a receive or a release, never the connect call. -/
theorem step_connected_replies (hc : s.connected = true) (h : s.step m = some (s', r)) :
    ∀ x ∈ r, x.isConnect = false := by
  intro x hx
  cases m with
  | arrive p =>
    rcases take_cases h with ⟨-, -, rfl⟩ | ⟨hs, -⟩
    · cases hx
    · rcases hs with hs | hs <;> simp [connected_iff, hs] at hc
  | drop _ | expire =>
    rcases step_halt_cases (by simp) h with ⟨-, -, rfl⟩ | ⟨hs, -⟩
    · cases hx
    · rcases hs with hs | hs <;> simp [connected_iff, hs] at hc
  | publish =>
    obtain ⟨-, ⟨-, -, -, -, rfl⟩ | ⟨-, -, y, rfl⟩⟩ := step_publish_cases h
    · cases hx
    · cases hx
      rfl
  | await =>
    obtain ⟨k, -, ⟨_, _, -, -, rfl⟩ | ⟨-, -, rfl⟩⟩ := step_await_cases h
    all_goals
      cases hx
      rfl
  | receive =>
    rcases (step_receive_cases h).2 with ⟨q, rest, -, -, rfl⟩ | ⟨-, -, rfl⟩
    all_goals
      cases hx
      rfl
  | disconnect =>
    obtain ⟨-, -, -, y, rfl⟩ := step_disconnect_cases h
    cases hx
    rfl

/-- **Once connected, always connected**, and the connect call is never answered again. -/
theorem run_connected_replies (hc : s.connected = true) (h : s.run ms = some (s', rs)) :
    s'.connected = true ∧ ∀ x ∈ rs, x.isConnect = false := by
  induction ms generalizing s rs with
  | nil =>
    obtain ⟨rfl, rfl⟩ := run_nil_eq_some.1 h
    simp [hc]
  | cons m ms ih =>
    obtain ⟨s₁, r, rs₁, h₁, hrest, rfl⟩ := run_cons_eq_some.1 h
    obtain ⟨hc', hquiet⟩ := ih (step_connected hc h₁).1 hrest
    refine ⟨hc', fun x hx => ?_⟩
    rcases List.mem_append.1 hx with hx | hx
    · exact step_connected_replies hc h₁ x (Option.mem_toList.1 hx)
    · exact hquiet x hx

/-! ## 3. The handshake, move by move -/

/-- **Waiting for the CONNACK**: an accepting CONNACK moves on to the SUBACK; anything else the
    handshake takes fails it, with an error for the connect call. -/
theorem step_awaitingConnAck (hs : s.stage = .awaitingConnAck) (ha : s.awaiting = none)
    (h : s.step m = some (s', r)) :
    (m = .arrive (.connAck .accepted) ∧ s' = { s with stage := .awaitingSubAck } ∧ r = none) ∨
      (m ≠ .arrive (.connAck .accepted) ∧ s' = { s with stage := .failed } ∧
        ∃ f, r = some (.connect (.error f))) := by
  have hidle : s.idle = false := by simp [idle, connected, hs]
  cases m with
  | arrive p =>
    have hh : s.handshake p = some (s', r) := by simpa [step, take, hs] using h
    cases p with
    | connAck code =>
      cases code
      all_goals simp only [handshake, hs, Option.some.injEq, Prod.mk.injEq] at hh
      all_goals obtain ⟨rfl, rfl⟩ := hh
      · exact .inl ⟨rfl, rfl, rfl⟩
      all_goals exact .inr ⟨by simp, rfl, _, rfl⟩
    | _ => simp [handshake, hs] at hh
  | drop _ | expire =>
    rcases step_halt_cases (by simp) h with ⟨hs', -⟩ | ⟨-, rfl, f, rfl⟩
    · simp [hs] at hs'
    · exact .inr ⟨by simp, rfl, f, rfl⟩
  | await => simp [step, await, ha] at h
  | publish => simp [step, hidle] at h
  | receive => simp [step, hidle] at h
  | disconnect => simp [step, hidle] at h

/-- **Waiting for the SUBACK**: a SUBACK, whatever it grants, connects the session and starts the
    forwarding task; a packet passed over changes nothing; a lost connection or the end of the
    time fails the handshake. -/
theorem step_awaitingSubAck (hs : s.stage = .awaitingSubAck) (ha : s.awaiting = none)
    (h : s.step m = some (s', r)) :
    (∃ g, m = .arrive (.subAck g) ∧ s' = { s with stage := .driving } ∧
        r = some (.connect (.ok ()))) ∨
      (PassedOver m ∧ s' = s ∧ r = none) ∨
      ((m = .expire ∨ ∃ reason, m = .drop reason) ∧ s' = { s with stage := .failed } ∧
        ∃ f, r = some (.connect (.error f))) := by
  have hidle : s.idle = false := by simp [idle, connected, hs]
  cases m with
  | arrive p =>
    have hh : s.handshake p = some (s', r) := by simpa [step, take, hs] using h
    cases p with
    | subAck g =>
      simp only [handshake, hs, Option.some.injEq, Prod.mk.injEq] at hh
      obtain ⟨rfl, rfl⟩ := hh
      exact .inl ⟨g, rfl, rfl, rfl⟩
    | pubAck id => simp [handshake, hs] at hh
    | connAck code =>
      -- a second CONNACK is passed over like any packet that is not awaited
      cases code
      all_goals simp only [handshake, hs, Option.some.injEq, Prod.mk.injEq] at hh
      all_goals obtain ⟨rfl, rfl⟩ := hh
      all_goals exact .inr (.inl ⟨⟨rfl, by simp⟩, rfl, rfl⟩)
    | publish topic payload =>
      simp only [handshake, hs, Option.some.injEq, Prod.mk.injEq] at hh
      obtain ⟨rfl, rfl⟩ := hh
      exact .inr (.inl ⟨⟨rfl, by simp⟩, rfl, rfl⟩)
    | other =>
      simp only [handshake, hs, Option.some.injEq, Prod.mk.injEq] at hh
      obtain ⟨rfl, rfl⟩ := hh
      exact .inr (.inl ⟨⟨rfl, by simp⟩, rfl, rfl⟩)
  | drop reason =>
    rcases step_halt_cases (by simp) h with ⟨hs', -⟩ | ⟨-, rfl, f, rfl⟩
    · simp [hs] at hs'
    · exact .inr (.inr ⟨.inr ⟨reason, rfl⟩, rfl, f, rfl⟩)
  | expire =>
    rcases step_halt_cases (by simp) h with ⟨hs', -⟩ | ⟨-, rfl, f, rfl⟩
    · simp [hs] at hs'
    · exact .inr (.inr ⟨.inl rfl, rfl, f, rfl⟩)
  | await => simp [step, await, ha] at h
  | publish => simp [step, hidle] at h
  | receive => simp [step, hidle] at h
  | disconnect => simp [step, hidle] at h

/-! ## 4. Whole handshakes -/

/-- **From the wait for the SUBACK**: the connect call is answered Ok just when a SUBACK comes
    after packets passed over, and the session is then connected for good; an error leaves the
    connection failed and is all that happens. -/
theorem run_awaitingSubAck (hs : s.stage = .awaitingSubAck) (ha : s.awaiting = none)
    (h : s.run ms = some (s', rs)) :
    (.connect (.ok ()) ∈ rs ↔
        ∃ mid g post, ms = mid ++ .arrive (.subAck g) :: post ∧ ∀ m ∈ mid, PassedOver m) ∧
      (.connect (.ok ()) ∈ rs → s'.connected = true) ∧
      ∀ f, .connect (.error f) ∈ rs → s'.stage = .failed ∧ rs = [.connect (.error f)] := by
  induction ms generalizing s rs with
  | nil =>
    obtain ⟨rfl, rfl⟩ := run_nil_eq_some.1 h
    refine ⟨⟨by simp, ?_⟩, by simp, by simp⟩
    rintro ⟨mid, g, post, he, -⟩
    simp at he
  | cons m ms ih =>
    obtain ⟨s₁, r, rs₁, h₁, hrest, rfl⟩ := run_cons_eq_some.1 h
    rcases step_awaitingSubAck hs ha h₁ with ⟨g, rfl, rfl, rfl⟩ | ⟨hpass, rfl, rfl⟩ |
      ⟨hm, rfl, f, rfl⟩
    · -- the SUBACK connects, and from then on nothing answers the connect call
      have hc : ({ s with stage := .driving } : Client).connected = true := by simp [connected]
      obtain ⟨hc', hquiet⟩ := run_connected_replies hc hrest
      refine ⟨⟨fun _ => ⟨[], g, ms, rfl, by simp⟩, fun _ => by simp⟩, fun _ => hc', fun f hf => ?_⟩
      rcases List.mem_append.1 hf with hf | hf
      · simp at hf
      · exact absurd (hquiet _ hf) (by simp [Reply.isConnect])
    · -- a packet passed over leaves the handshake where it was
      obtain ⟨hok, hconn, herr⟩ := ih hs ha hrest
      simp only [Option.toList_none, List.nil_append]
      refine ⟨hok.trans ⟨?_, ?_⟩, hconn, herr⟩
      · rintro ⟨mid, g, post, rfl, hmid⟩
        exact ⟨m :: mid, g, post, rfl, fun x hx => by
          rcases List.mem_cons.1 hx with rfl | hx
          · exact hpass
          · exact hmid x hx⟩
      · rintro ⟨mid, g, post, he, hmid⟩
        cases mid with
        | nil =>
          obtain ⟨rfl, -⟩ := List.cons.inj he
          simp [PassedOver, Packet.isSubAck] at hpass
        | cons x mid =>
          obtain ⟨rfl, rfl⟩ := List.cons.inj he
          exact ⟨mid, g, post, rfl, fun y hy => hmid y (.tail _ hy)⟩
    · -- the handshake failed: the run ends with its error
      obtain ⟨rfl, rfl, rfl⟩ := run_failed (s := { s with stage := .failed }) rfl (by simpa using ha)
        hrest
      refine ⟨⟨by simp, ?_⟩, by simp, fun f' hf' => ⟨rfl, by simp_all⟩⟩
      rintro ⟨mid, g, post, he, hmid⟩
      cases mid with
      | nil =>
        obtain ⟨rfl, -⟩ := List.cons.inj he
        rcases hm with he' | ⟨reason, he'⟩ <;> cases he'
      | cons x mid =>
        obtain ⟨-, he⟩ := List.cons.inj he
        simp at he

/-- **How connecting ends**: over every run from a fresh connection, the connect call is answered
    Ok just when the broker accepted the connection and then sent a SUBACK, whatever it granted,
    with nothing but passed-over packets between (no lost connection, no end of the time), and
    the session is then connected; an error leaves the connection failed, with no forwarding
    task, and is all that happens. -/
theorem connect_outcome (device : String) (wait : Clock.Millis) (address : String)
    (ms : List Move) (s : Client) (rs : List Reply)
    (hrun : (opening device wait address).run ms = some (s, rs)) :
    (.connect (.ok ()) ∈ rs ↔
        ∃ mid g post, ms = .arrive (.connAck .accepted) :: mid ++ .arrive (.subAck g) :: post ∧
          ∀ m ∈ mid, PassedOver m) ∧
      (.connect (.ok ()) ∈ rs → s.connected = true) ∧
      ∀ f, .connect (.error f) ∈ rs → s.stage = .failed ∧ rs = [.connect (.error f)] := by
  cases ms with
  | nil =>
    obtain ⟨rfl, rfl⟩ := run_nil_eq_some.1 hrun
    refine ⟨⟨by simp, ?_⟩, by simp, by simp⟩
    rintro ⟨mid, g, post, he, -⟩
    cases he
  | cons m ms =>
    obtain ⟨s₁, r, rs₁, h₁, hrest, rfl⟩ := run_cons_eq_some.1 hrun
    rcases step_awaitingConnAck rfl rfl h₁ with ⟨rfl, rfl, rfl⟩ | ⟨hm, rfl, f, rfl⟩
    · -- accepted: the rest is the wait for the SUBACK
      obtain ⟨hok, hconn, herr⟩ := run_awaitingSubAck rfl rfl hrest
      simp only [Option.toList_none, List.nil_append]
      refine ⟨hok.trans ⟨?_, ?_⟩, hconn, herr⟩
      · rintro ⟨mid, g, post, rfl, hmid⟩
        exact ⟨mid, g, post, rfl, hmid⟩
      · rintro ⟨mid, g, post, he, hmid⟩
        exact ⟨mid, g, post, (List.cons.inj he).2, hmid⟩
    · -- refused, lost or out of time: the run ends with the error
      obtain ⟨rfl, rfl, rfl⟩ :=
        run_failed (s := { opening device wait address with stage := .failed }) rfl rfl hrest
      refine ⟨⟨by simp, ?_⟩, by simp, fun f' hf' => ⟨rfl, by simp_all⟩⟩
      rintro ⟨mid, g, post, he, -⟩
      exact absurd (List.cons.inj he).1 hm

/-- A broker that accepts, publishes a command before the SUBACK and then grants the
    subscription connects the session. -/
theorem connect_outcome_granted :
    (opening "HELMET001" 2000 "127.0.0.1:1883").run
        [.arrive (.connAck .accepted), .arrive (.publish "helmet/HELMET001/command" [1]),
          .arrive (.subAck [some .atLeastOnce])] =
      some ({ opening "HELMET001" 2000 "127.0.0.1:1883" with stage := .driving },
        [.connect (.ok ())]) ∧
    ((.connect (.ok ()) ∈ [Reply.connect (.ok ())] ↔
        ∃ mid g post, [Move.arrive (.connAck .accepted),
            .arrive (.publish "helmet/HELMET001/command" [1]),
            .arrive (.subAck [some .atLeastOnce])] =
          .arrive (.connAck .accepted) :: mid ++ .arrive (.subAck g) :: post ∧
          ∀ m ∈ mid, PassedOver m) ∧
      (.connect (.ok ()) ∈ [Reply.connect (.ok ())] →
        ({ opening "HELMET001" 2000 "127.0.0.1:1883" with stage := .driving } : Client).connected =
          true) ∧
      ∀ f, .connect (.error f) ∈ [Reply.connect (.ok ())] →
        ({ opening "HELMET001" 2000 "127.0.0.1:1883" with stage := .driving } : Client).stage =
            .failed ∧ [Reply.connect (.ok ())] = [.connect (.error f)]) :=
  ⟨rfl, connect_outcome _ _ _ _ _ _ rfl⟩

/-- **A refused subscription connects**: the broker accepts the connection and refuses the
    subscription (SUBACK return code `0x80`), and connect answers Ok and starts the forwarding
    task, on a topic the session is not subscribed to. -/
theorem refused_subscription_connects :
    ¬ ∀ (ms : List Move) (s : Client) (rs : List Reply),
        (opening "HELMET001" 2000 "127.0.0.1:1883").run ms = some (s, rs) →
          .connect (.ok ()) ∈ rs → ∀ g, .arrive (.subAck g) ∈ ms → none ∉ g := by
  intro h
  exact h [.arrive (.connAck .accepted), .arrive (.subAck [none])] _ _ rfl (by simp) [none]
    (by simp) (by simp)

end SmartHelmet.Link.Client
