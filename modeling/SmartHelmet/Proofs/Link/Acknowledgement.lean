import SmartHelmet.Link.Client
/-!
# Whose acknowledgement confirms a publish

An acknowledged publish drops the acknowledgements already queued, sends its packet, and is
confirmed by the next acknowledgement the forwarding task queues, whatever packet id it carries.
A publish whose wait ran out leaves its packet id outstanding: its acknowledgement can still
arrive, during the wait of a later publish, and confirm that one.

* `run_while_awaiting` — while a publish waits, only the event loop and the network move; an
  acknowledgement queued meanwhile arrived meanwhile, for a packet id that was outstanding when
  the wait began;
* `run_outstanding` — an outstanding packet id is that of an acknowledged publish of the run;
* `Accounted` — as long as no acknowledged publish has timed out, the waiting publish's packet
  id is the only one queued or outstanding;
* `publish_ok_reads_arrived_ack` — a publish answered Ok read an acknowledgement that arrived
  during its wait, for itself or for an earlier acknowledged publish, and for itself when no
  earlier one timed out;
* `late_ack_confirms_next_publish` — the acknowledgement of a timed-out publish confirms the next
  one, whose own acknowledgement never came.
-/

namespace SmartHelmet.Link.Client

open SmartHelmet.Clock

variable {s s' : Client} {m : Move} {r : Option Reply} {ms : List Move} {rs : List Reply}
  {k j : Nat}

/-! ## While a publish waits -/

/-- **While a publish waits**, a move other than the end of its wait is the event loop's or the
    network's: the wait goes on, nothing becomes outstanding, and an acknowledgement queued now
    was queued before or has just arrived for an outstanding packet id. -/
theorem step_while_awaiting (ha : s.awaiting = some k) (hm : m ≠ .await)
    (h : s.step m = some (s', r)) :
    s'.awaiting = some k ∧ s'.outstanding ⊆ s.outstanding ∧
      ∀ j ∈ s'.acks, j ∈ s.acks ∨ (m = .arrive (.pubAck j) ∧ j ∈ s.outstanding) := by
  have hbusy : s.idle = false := by simp [idle, ha]
  cases m with
  | arrive p =>
    rcases take_cases h with ⟨-, rfl, -⟩ | ⟨-, hh⟩
    · rcases forward_queues (s := s) (p := p) with ⟨hq, ho⟩ | ⟨id, rfl, hid, hq, ho⟩
      · rw [hq, ho, forward_awaiting]
        exact ⟨ha, List.Subset.refl _, fun j hj => .inl hj⟩
      · rw [hq, ho, forward_awaiting]
        refine ⟨ha, List.erase_subset, fun j hj => ?_⟩
        rcases List.mem_append.1 hj with hj | hj
        · exact .inl hj
        · rw [List.mem_singleton.1 hj]
          exact .inr ⟨rfl, hid⟩
    · obtain ⟨st, rfl, -⟩ := handshake_cases hh
      exact ⟨ha, List.Subset.refl _, fun j hj => .inl hj⟩
  | drop _ | expire =>
    rcases step_halt_cases (by simp) h with ⟨-, rfl, -⟩ | ⟨-, rfl, -⟩ <;>
      exact ⟨ha, List.Subset.refl _, fun j hj => .inl hj⟩
  | await => exact absurd rfl hm
  | publish => simpa [hbusy] using (step_publish_cases h).1
  | receive => simpa [hbusy] using (step_receive_cases h).1
  | disconnect => simpa [hbusy] using (step_disconnect_cases h).1

/-- **A wait goes on over moves that do not end it**, and every acknowledgement it can then read
    was queued when it began or arrived meanwhile for a packet id then outstanding. -/
theorem run_while_awaiting (ha : s.awaiting = some k) (hm : .await ∉ ms)
    (h : s.run ms = some (s', rs)) :
    s'.awaiting = some k ∧ s'.outstanding ⊆ s.outstanding ∧
      ∀ j ∈ s'.acks, j ∈ s.acks ∨ (.arrive (.pubAck j) ∈ ms ∧ j ∈ s.outstanding) := by
  induction ms generalizing s rs with
  | nil =>
    obtain ⟨rfl, -⟩ := run_nil_eq_some.1 h
    exact ⟨ha, List.Subset.refl _, fun j hj => .inl hj⟩
  | cons m ms ih =>
    obtain ⟨s₁, r, rs₁, h₁, hrest, -⟩ := run_cons_eq_some.1 h
    obtain ⟨ha₁, ho₁, hq₁⟩ := step_while_awaiting ha (fun he => hm (he ▸ .head _)) h₁
    obtain ⟨ha', ho', hq'⟩ := ih ha₁ (fun he => hm (.tail _ he)) hrest
    refine ⟨ha', List.Subset.trans ho' ho₁, fun j hj => ?_⟩
    rcases hq' j hj with hj | ⟨hin, hout⟩
    · rcases hq₁ j hj with hj | ⟨rfl, hout⟩
      · exact .inl hj
      · exact .inr ⟨.head _, hout⟩
    · exact .inr ⟨.tail _ hin, ho₁ hout⟩

/-! ## Where outstanding packet ids come from -/

/-- A packet id becomes outstanding only when an acknowledged publish is sent with it. -/
theorem step_outstanding (h : s.step m = some (s', r)) (hj : j ∈ s'.outstanding) :
    j ∈ s.outstanding ∨ ∃ c, m = .publish c .atLeastOnce j := by
  cases m with
  | arrive p =>
    rcases take_cases h with ⟨-, rfl, -⟩ | ⟨-, hh⟩
    · rcases forward_queues (s := s) (p := p) with ⟨-, ho⟩ | ⟨id, -, -, -, ho⟩
      · exact .inl (ho ▸ hj)
      · exact .inl (List.erase_subset (ho ▸ hj))
    · obtain ⟨st, rfl, -⟩ := handshake_cases hh
      exact .inl hj
  | drop _ | expire =>
    rcases step_halt_cases (by simp) h with ⟨-, rfl, -⟩ | ⟨-, rfl, -⟩ <;> exact .inl hj
  | publish c d id =>
    rcases (step_publish_cases h).2 with ⟨-, rfl, -, rfl, -⟩ | ⟨-, ⟨q, -, rfl⟩, -⟩
    · rcases List.mem_append.1 hj with hj | hj
      · exact .inl hj
      · exact .inr ⟨c, by rw [List.mem_singleton.1 hj]⟩
    · exact .inl hj
  | await =>
    obtain ⟨k, -, ⟨_, _, -, rfl, -⟩ | ⟨-, rfl, -⟩⟩ := step_await_cases h <;> exact .inl hj
  | receive =>
    rcases (step_receive_cases h).2 with ⟨_, _, -, rfl, -⟩ | ⟨-, rfl, -⟩ <;> exact .inl hj
  | disconnect =>
    obtain ⟨-, -, rfl, -⟩ := step_disconnect_cases h
    exact .inl hj

/-- **An outstanding packet id is that of an acknowledged publish** made before or during the
    run. -/
theorem run_outstanding (h : s.run ms = some (s', rs)) (hj : j ∈ s'.outstanding) :
    j ∈ s.outstanding ∨ ∃ c, .publish c .atLeastOnce j ∈ ms := by
  induction ms generalizing s rs with
  | nil =>
    obtain ⟨rfl, -⟩ := run_nil_eq_some.1 h
    exact .inl hj
  | cons m ms ih =>
    obtain ⟨s₁, r, rs₁, h₁, hrest, -⟩ := run_cons_eq_some.1 h
    rcases ih hrest with hj₁ | ⟨c, hc⟩
    · rcases step_outstanding h₁ hj₁ with hj | ⟨c, rfl⟩
      · exact .inl hj
      · exact .inr ⟨c, .head _⟩
    · exact .inr ⟨c, .tail _ hc⟩

/-! ## Once the event loop has ended -/

/-- Once the event loop has ended, a session that waits on nothing never waits again. -/
theorem step_stopped (hs : s.stage = .stopped) (ha : s.awaiting = none)
    (h : s.step m = some (s', r)) : s'.stage = .stopped ∧ s'.awaiting = none := by
  cases m with
  | arrive =>
    rcases take_cases h with ⟨hd, -⟩ | ⟨hd, -⟩ <;> simp_all
  | drop _ | expire =>
    rcases step_halt_cases (by simp) h with ⟨hd, -⟩ | ⟨hd, -⟩ <;> simp_all
  | publish =>
    rcases (step_publish_cases h).2 with ⟨hd, -⟩ | ⟨-, ⟨q, -, rfl⟩, -⟩
    · simp_all
    · exact ⟨hs, ha⟩
  | await =>
    obtain ⟨k, hk, -⟩ := step_await_cases h
    simp_all
  | receive =>
    rcases (step_receive_cases h).2 with ⟨_, _, -, rfl, -⟩ | ⟨-, rfl, -⟩ <;> exact ⟨hs, ha⟩
  | disconnect =>
    obtain ⟨-, -, rfl, -⟩ := step_disconnect_cases h
    exact ⟨rfl, ha⟩

theorem run_stopped (hs : s.stage = .stopped) (ha : s.awaiting = none)
    (h : s.run ms = some (s', rs)) : s'.stage = .stopped ∧ s'.awaiting = none := by
  induction ms generalizing s rs with
  | nil =>
    obtain ⟨rfl, -⟩ := run_nil_eq_some.1 h
    exact ⟨hs, ha⟩
  | cons m ms ih =>
    obtain ⟨s₁, r, rs₁, h₁, hrest, -⟩ := run_cons_eq_some.1 h
    obtain ⟨hs₁, ha₁⟩ := step_stopped hs ha h₁
    exact ih hs₁ ha₁ hrest

/-! ## Acknowledgements accounted for -/

/-- **The acknowledgements are accounted for**: with no publish waiting, no acknowledgement is
    queued, and none is outstanding unless the event loop has ended; with a publish waiting, its
    packet id is the only one queued or outstanding. -/
def Accounted (s : Client) : Prop :=
  match s.awaiting with
  | none => s.acks = [] ∧ (s.outstanding = [] ∨ s.stage = .stopped)
  | some k => s.acks ++ s.outstanding = [k]

theorem accounted_opening (device address : String) (wait : Millis) :
    Accounted (opening device wait address) :=
  ⟨rfl, .inl rfl⟩

namespace Accounted

/-- A move that leaves the wait and both queues alone, and keeps an ended event loop ended,
    keeps the acknowledgements accounted for. -/
theorem frame (hI : Accounted s) (ha : s'.awaiting = s.awaiting) (hq : s'.acks = s.acks)
    (ho : s'.outstanding = s.outstanding) (hs : s.stage = .stopped → s'.stage = .stopped) :
    Accounted s' := by
  unfold Accounted at hI ⊢
  rw [ha, hq, ho]
  cases hw : s.awaiting with
  | none =>
    rw [hw] at hI
    exact ⟨hI.1, hI.2.imp_right hs⟩
  | some k =>
    rw [hw] at hI
    exact hI

/-- The forwarding task queues an acknowledgement only for the waiting publish. -/
theorem forward (hI : Accounted s) (hs : s.stage = .driving) (p : Packet) :
    Accounted (s.forward p) := by
  rcases forward_queues (s := s) (p := p) with ⟨hq, ho⟩ | ⟨id, rfl, hid, hq, ho⟩
  · refine hI.frame (by simp) hq ho fun h => ?_
    rw [hs] at h
    cases h
  · unfold Accounted at hI ⊢
    rw [forward_awaiting, hq, ho]
    cases hw : s.awaiting with
    | none =>
      rw [hw] at hI
      rcases hI.2 with h0 | h0
      · rw [h0] at hid
        cases hid
      · rw [hs] at h0
        cases h0
    | some k =>
      rw [hw] at hI
      -- the acknowledged id is outstanding, so it is the waiting publish's and nothing is queued
      rcases List.append_eq_singleton_iff.1 hI with ⟨h1, h2⟩ | ⟨-, h2⟩
      · rw [h2, List.mem_singleton] at hid
        rw [h1, h2, hid]
        simp
      · rw [h2] at hid
        cases hid

/-- Sending an acknowledged publish makes its packet id the only one outstanding. -/
theorem send (hI : Accounted s) (hidle : s.idle = true) (hs : s.stage = .driving) (id : Nat) :
    Accounted { s with acks := [], outstanding := s.outstanding ++ [id], awaiting := some id } := by
  have ha : s.awaiting = none := (idle_iff.1 hidle).2
  unfold Accounted at hI ⊢
  rw [ha] at hI
  rcases hI.2 with h0 | h0
  · simp [h0]
  · rw [hs] at h0
    cases h0

/-- The wait of a publish ends with its own acknowledgement, or without one once the event loop
    has ended; only a timeout leaves its packet id outstanding with the event loop running. -/
theorem settle (hI : Accounted s) (h : s.step .await = some (s', r))
    (hr : ∀ w, r ≠ some (.publish (.error (.ackTimeout w)))) : Accounted s' := by
  obtain ⟨k, hk, ⟨k', rest, hq, rfl, -⟩ | ⟨hq, rfl, rfl⟩⟩ := step_await_cases h
  · unfold Accounted at hI ⊢
    rw [hk, hq] at hI
    simp only [List.cons_append, List.cons.injEq, List.append_eq_nil_iff] at hI
    exact ⟨hI.2.1, .inl hI.2.2⟩
  · unfold Accounted
    refine ⟨hq, .inr ?_⟩
    show s.stage = .stopped
    exact Decidable.byContradiction fun hs => hr s.ackTimeout (by simp [hs])

/-- **Every move but a timeout keeps the acknowledgements accounted for.** -/
theorem step (hI : Accounted s) (h : s.step m = some (s', r))
    (hr : ∀ w, r ≠ some (.publish (.error (.ackTimeout w)))) : Accounted s' := by
  cases m with
  | arrive p =>
    rcases take_cases h with ⟨hs, rfl, -⟩ | ⟨hs, hh⟩
    · exact hI.forward hs p
    · obtain ⟨st, rfl, -⟩ := handshake_cases hh
      refine hI.frame rfl rfl rfl fun h' => ?_
      rcases hs with hs | hs <;> rw [hs] at h' <;> cases h'
  | drop _ | expire =>
    rcases step_halt_cases (by simp) h with ⟨-, rfl, -⟩ | ⟨hs, rfl, -⟩
    · exact hI.frame rfl rfl rfl fun _ => rfl
    · refine hI.frame rfl rfl rfl fun h' => ?_
      rcases hs with hs | hs <;> rw [hs] at h' <;> cases h'
  | publish c d n =>
    obtain ⟨hidle, ⟨hs, -, -, rfl, -⟩ | ⟨-, ⟨q, hsub, rfl⟩, -⟩⟩ := step_publish_cases h
    · exact hI.send hidle hs n
    · -- a publish answered at once empties the ack queue at most, and it is empty already
      have hq : s.acks = [] := by
        unfold Accounted at hI
        rw [(idle_iff.1 hidle).2] at hI
        exact hI.1
      exact hI.frame rfl ((List.subset_nil.1 (hq ▸ hsub)).trans hq.symm) rfl id
  | await => exact hI.settle h hr
  | receive =>
    rcases (step_receive_cases h).2 with ⟨_, _, -, rfl, -⟩ | ⟨-, rfl, -⟩
    · exact hI.frame rfl rfl rfl id
    · exact hI
  | disconnect =>
    obtain ⟨-, -, rfl, -⟩ := step_disconnect_cases h
    exact hI.frame rfl rfl rfl fun _ => rfl

/-- **As long as no acknowledged publish times out**, the acknowledgements stay accounted for. -/
theorem run (hI : Accounted s) (h : s.run ms = some (s', rs))
    (ht : ∀ w, .publish (.error (.ackTimeout w)) ∉ rs) : Accounted s' := by
  induction ms generalizing s rs with
  | nil =>
    obtain ⟨rfl, -⟩ := run_nil_eq_some.1 h
    exact hI
  | cons m ms ih =>
    obtain ⟨s₁, r, rs₁, h₁, hrest, rfl⟩ := run_cons_eq_some.1 h
    refine ih (hI.step h₁ fun w hw => ht w ?_) hrest fun w hw => ht w (List.mem_append_right _ hw)
    simp [hw]

end Accounted

/-! ## What confirms a publish -/

/-- **A wait that ends with Ok read a queued acknowledgement** that arrived during the wait, for
    a packet id outstanding when the publish was sent: the publish found the event loop running,
    since one answered at once finds it ended and nothing waits after that. -/
theorem wait_ok_reads_arrived_ack {s₀ : Client} {pre mid : List Move} {c : Channel}
    (hrun : s₀.run (pre ++ .publish c .atLeastOnce k :: mid ++ [.await]) =
      some (s, rs ++ [.publish (.ok ())]))
    (hmid : .await ∉ mid) :
    ∃ s₁ rs₁ s₃ k' rest, s₀.run pre = some (s₁, rs₁) ∧
      s₀.run (pre ++ .publish c .atLeastOnce k :: mid) = some (s₃, rs) ∧
      s₃.awaiting = some k ∧ s₃.acks = k' :: rest ∧
      .arrive (.pubAck k') ∈ mid ∧ k' ∈ s₁.outstanding ++ [k] := by
  -- the run in pieces: before the publish, the publish, its wait, the end of its wait
  obtain ⟨s₃, rs₃, rs₄, h₃, hend, hrs⟩ := run_append_eq_some.1 hrun
  obtain ⟨s₁, rs₁, rs₂, hpre, h₂, rfl⟩ := run_append_eq_some.1 h₃
  obtain ⟨s₂, r₂, rs₂', hpub, hwait, rfl⟩ := run_cons_eq_some.1 h₂
  obtain ⟨s₄, r₄, rs₅, hawait, hnil, rfl⟩ := run_cons_eq_some.1 hend
  obtain ⟨rfl, rfl⟩ := run_nil_eq_some.1 hnil
  -- the wait ended with Ok, so it read the acknowledgement at the head of the queue
  obtain ⟨k₀, hk₀, k', rest, hq, rfl⟩ : ∃ k₀, s₃.awaiting = some k₀ ∧
      ∃ k' rest, s₃.acks = k' :: rest ∧ r₄ = some (.publish (.ok ())) := by
    obtain ⟨k₀, hk₀, ⟨k', rest, hq, -, hr⟩ | ⟨-, -, rfl⟩⟩ := step_await_cases hawait
    · exact ⟨k₀, hk₀, k', rest, hq, hr⟩
    · have hlast := (List.append_inj' hrs rfl).2
      simp at hlast
  rw [Option.toList_some, List.append_nil] at hrs
  obtain rfl := List.append_cancel_right hrs
  obtain ⟨hidle, hsent⟩ := step_publish_cases hpub
  have hsent := hsent.resolve_right fun ⟨hd, ⟨q, _, hs₂⟩, _⟩ => by
    -- a publish answered at once found the event loop ended, and then nothing waits again
    have hs₁ : s₁.stage = .stopped := by
      rcases connected_iff.1 (idle_iff.1 hidle).1 with hs | hs
      · rcases hd with hd | hd
        · cases hd
        · exact absurd hs hd
      · exact hs
    have ha₂ : s₂.awaiting = none := by rw [hs₂]; exact (idle_iff.1 hidle).2
    have hst₂ : s₂.stage = .stopped := by rw [hs₂]; exact hs₁
    simp [(run_stopped hst₂ ha₂ hwait).2] at hk₀
  obtain ⟨-, -, -, rfl, rfl⟩ := hsent
  obtain ⟨ha₃, -, hacks⟩ := run_while_awaiting rfl hmid hwait
  rcases hacks k' (by simp [hq]) with hnone | ⟨hin, hout⟩
  · cases hnone
  exact ⟨s₁, rs₁, s₃, k', rest, hpre, h₃, ha₃, hq, hin, hout⟩

/-- **A publish answered Ok read an acknowledgement that arrived during its wait**, for the
    packet id of this publish or of an earlier acknowledged one, and for its own when no earlier
    acknowledged publish of the connection timed out. The connection starts fresh, the publish is
    sent with packet id `k` after the moves `pre`, and its wait ends at the first end of a wait
    after it. -/
theorem publish_ok_reads_arrived_ack (device : String) (wait : Millis) (address : String)
    (pre mid : List Move) (c : Channel) (k : Nat) (s : Client) (rs : List Reply)
    (hrun : (opening device wait address).run (pre ++ .publish c .atLeastOnce k :: mid ++ [.await]) =
      some (s, rs ++ [.publish (.ok ())]))
    (hmid : .await ∉ mid) :
    ∃ k', .arrive (.pubAck k') ∈ mid ∧ (k' = k ∨ ∃ c', .publish c' .atLeastOnce k' ∈ pre) ∧
      ((∀ w, .publish (.error (.ackTimeout w)) ∉ rs) → k' = k) := by
  obtain ⟨s₁, rs₁, s₃, k', rest, hpre, h₃, ha₃, hq, hin, hout⟩ := wait_ok_reads_arrived_ack hrun hmid
  refine ⟨k', hin, ?_, fun ht => ?_⟩
  · -- a packet id outstanding before the publish is that of an earlier acknowledged publish
    rcases List.mem_append.1 hout with hout | hout
    · rcases run_outstanding hpre hout with hnone | hc
      · cases hnone
      · exact .inr hc
    · exact .inl (List.mem_singleton.1 hout)
  · -- with no timeout, the waiting publish's id is the only one queued or outstanding
    have hI := (accounted_opening device address wait).run h₃ ht
    unfold Accounted at hI
    rw [ha₃, hq] at hI
    simp only [List.cons_append, List.cons.injEq] at hI
    exact hI.1

theorem publish_ok_reads_arrived_ack_late :
    let pre : List Move :=
      [.arrive (.connAck .accepted), .arrive (.subAck [some .atLeastOnce]),
        .publish .telemetry .atLeastOnce 2, .await]
    let mid : List Move := [.arrive (.pubAck 2)]
    let s : Client :=
      { device := "HELMET001", ackTimeout := 20, address := "127.0.0.1:1883",
        stage := .driving, outstanding := [3] }
    let rs : List Reply := [.connect (.ok ()), .publish (.error (.ackTimeout 20))]
    (opening "HELMET001" 20 "127.0.0.1:1883").run
        (pre ++ .publish .telemetry .atLeastOnce 3 :: mid ++ [.await]) =
        some (s, rs ++ [.publish (.ok ())]) ∧
      .await ∉ mid ∧
      ∃ k', .arrive (.pubAck k') ∈ mid ∧ (k' = 3 ∨ ∃ c', .publish c' .atLeastOnce k' ∈ pre) ∧
        ((∀ w, .publish (.error (.ackTimeout w)) ∉ rs) → k' = 3) := by
  intro pre mid s rs
  have hrun : (opening "HELMET001" 20 "127.0.0.1:1883").run
      (pre ++ .publish .telemetry .atLeastOnce 3 :: mid ++ [.await]) =
      some (s, rs ++ [.publish (.ok ())]) := rfl
  have hmid : .await ∉ mid := by decide
  exact ⟨hrun, hmid,
    publish_ok_reads_arrived_ack "HELMET001" 20 "127.0.0.1:1883" pre mid .telemetry 3 s rs hrun hmid⟩

/-- **The acknowledgement of a timed-out publish confirms the next publish**: the first
    publish's wait runs out, its acknowledgement arrives while the second waits, and the second
    is answered Ok though the broker never acknowledged it. -/
theorem late_ack_confirms_next_publish :
    ¬ ∀ (pre mid : List Move) (c : Channel) (k : Nat) (s : Client) (rs : List Reply),
        (opening "HELMET001" 20 "127.0.0.1:1883").run
            (pre ++ .publish c .atLeastOnce k :: mid ++ [.await]) =
          some (s, rs ++ [.publish (.ok ())]) →
        .await ∉ mid → .arrive (.pubAck k) ∈ mid := by
  intro h
  have hown := h [.arrive (.connAck .accepted), .arrive (.subAck [some .atLeastOnce]),
      .publish .telemetry .atLeastOnce 2, .await] [.arrive (.pubAck 2)] .telemetry 3 _
    [.connect (.ok ()), .publish (.error (.ackTimeout 20))] rfl (by decide)
  exact absurd hown (by decide)

end SmartHelmet.Link.Client
