import SmartHelmet.Proofs.Link.Commands
import SmartHelmet.Proofs.Session.Overflow
/-!
# Each device has topics of its own

A device's topics are `helmet/<device>/<channel>`. Two of them are equal only for the same device
and the same channel, whatever the device ids hold: the channel is the last level of the topic,
since no channel's name holds a `/`, and what stands before it is the device's levels. The device
subscribes to its command topic. An accepted device id holds no `/`, `+` or `#`, so that topic is
a filter without wildcards, and under MQTT's matching such a filter matches one topic name:
itself. The forwarding task compares topics for equality, so it queues exactly what the broker
routes to the subscription, and of all devices' topics that is the device's own command topic.

* `levels`, `levelsMatch`, `topicMatches` — topic-filter matching of MQTT 3.1.1 (4.7): filter
  and name split into levels at `/`; `+` matches one level, `#` as the last level any rest, any
  other level only itself; a filter that starts with a wildcard matches no name that starts with
  `$`;
* `topicMatches_literal` — a filter with no wildcard level matches exactly itself;
* `levels_topic`, `Channel.topic_inj` — the levels of a topic, and why topics of different
  devices or channels differ;
* `Config.ofLookup_deviceId` — an accepted device id holds no `/`, `+` or `#`;
* `Client.forward_publish_inbound` — the forwarding task queues a payload just when it comes on
  the command topic;
* `accepted_device_topics_isolated` — for an accepted device id, all of it together.
-/

namespace SmartHelmet.Link

/-! ## 1. Topic filters -/

/-- The levels of a topic name or filter: its characters split at every `/`. -/
def levels (s : String) : List (List Char) := s.toList.splitOn '/'

/-- Whether the levels of a topic filter match those of a topic name: `+` matches any one
    level, `#` as the last level any rest (none included), any other level only itself. -/
def levelsMatch : List (List Char) → List (List Char) → Bool
  | [['#']], _ => true
  | ['+'] :: fs, _ :: ns => levelsMatch fs ns
  | f :: fs, n :: ns => f == n && levelsMatch fs ns
  | [], [] => true
  | _, _ => false

/-- **Topic-filter matching** (MQTT 3.1.1, 4.7): level by level, except that a filter that
    starts with a wildcard matches no topic name that starts with `$`. -/
def topicMatches (filter name : String) : Bool :=
  !(name.toList.head? == some '$' &&
      (filter.toList.head? == some '+' || filter.toList.head? == some '#')) &&
    levelsMatch (levels filter) (levels name)

/-- Levels none of which is a wildcard. -/
def Literal (fs : List (List Char)) : Prop := ∀ f ∈ fs, f ≠ ['+'] ∧ f ≠ ['#']

/-- Literal levels match only themselves. -/
theorem levelsMatch_literal : ∀ {fs ns : List (List Char)}, Literal fs →
    (levelsMatch fs ns = true ↔ fs = ns)
  | [], [], _ => by simp [levelsMatch]
  | [], _ :: _, _ => by simp [levelsMatch]
  | f :: fs, [], h => by
    have hh := (h f (by simp)).2
    rw [levelsMatch.eq_5 _ _ (by simp [hh]) (by simp) (by simp) (by simp)]
    simp
  | f :: fs, n :: ns, h => by
    obtain ⟨hp, hh⟩ := h f (by simp)
    have ih : levelsMatch fs ns = true ↔ fs = ns :=
      levelsMatch_literal fun g hg => h g (List.mem_cons_of_mem f hg)
    rw [levelsMatch.eq_3 _ _ _ _ (fun hf _ => hh hf) hp]
    simp [ih]

/-- A text is its levels joined by `/`, so different texts have different levels. -/
theorem levels_inj {a b : String} : levels a = levels b ↔ a = b := by
  constructor
  · intro h
    have ha : ['/'].intercalate (levels a) = a.toList := List.intercalate_splitOn _
    have hb : ['/'].intercalate (levels b) = b.toList := List.intercalate_splitOn _
    rw [← String.toList_inj, ← ha, ← hb, h]
  · rintro rfl
    rfl

/-- **A filter with no wildcard level matches exactly itself.** -/
theorem topicMatches_literal {filter name : String} (h : Literal (levels filter)) :
    topicMatches filter name = true ↔ filter = name := by
  unfold topicMatches
  constructor
  · intro hm
    have hl : levelsMatch (levels filter) (levels name) = true := (Bool.and_eq_true _ _ ▸ hm).2
    exact levels_inj.1 ((levelsMatch_literal h).1 hl)
  · rintro rfl
    -- the `$` rule cannot apply: a name starts with `$` or with a wildcard, not both
    have hl : levelsMatch (levels filter) (levels filter) = true := (levelsMatch_literal h).2 rfl
    cases filter.toList.head? with
    | none => simp [hl]
    | some c => by_cases hc : c = '$' <;> simp [hc, hl]

/-! ## 2. The topics of a device -/

/-- No channel's name holds a `/`. -/
theorem Channel.slash_not_mem_suffix (c : Channel) : '/' ∉ c.suffix.toList := by
  cases c <;> decide

theorem Channel.suffix_injective {c₁ c₂ : Channel} (h : c₁.suffix = c₂.suffix) : c₁ = c₂ := by
  cases c₁ <;> cases c₂ <;> first | rfl | simp [Channel.suffix] at h

/-- The levels of a topic: `helmet`, the levels of the device id, and the channel's name. -/
theorem levels_topic (device : String) (c : Channel) :
    levels (Channel.topic device c) = "helmet".toList :: (levels device ++ [c.suffix.toList]) := by
  have ht : (Channel.topic device c).toList =
      "helmet".toList ++ '/' :: (device.toList ++ '/' :: c.suffix.toList) := by
    simp [Channel.topic]
  have hh : '/' ∉ "helmet".toList := by decide
  rw [levels, ht, List.splitOn_append_cons_self, List.splitOn_append_cons_self,
    List.splitOn_eq_singleton hh, List.splitOn_eq_singleton (Channel.slash_not_mem_suffix c)]
  rfl

/-- **Topics of different devices or channels differ**, whatever the device ids hold: the
    channel is the last level, and the levels before it are the device's. -/
theorem Channel.topic_inj {d₁ d₂ : String} {c₁ c₂ : Channel} :
    Channel.topic d₁ c₁ = Channel.topic d₂ c₂ ↔ d₁ = d₂ ∧ c₁ = c₂ := by
  constructor
  · intro h
    have hl := congrArg levels h
    rw [levels_topic, levels_topic, List.cons.injEq] at hl
    obtain ⟨hd, hc⟩ := List.append_inj' hl.2 rfl
    refine ⟨levels_inj.1 hd, Channel.suffix_injective ?_⟩
    exact String.toList_inj.1 (List.singleton_inj.1 hc)
  · rintro ⟨rfl, rfl⟩
    rfl

/-- The levels of the topic of a device id without `/`: `helmet`, the id, the channel. -/
theorem levels_topic_of_slash_not_mem {device : String} (hd : '/' ∉ device.toList)
    (c : Channel) : levels (Channel.topic device c) =
      ["helmet".toList, device.toList, c.suffix.toList] := by
  rw [levels_topic, levels, List.splitOn_eq_singleton hd]
  rfl

end SmartHelmet.Link

namespace SmartHelmet.Config

/-- A text leaves its topic level just when it holds `/`, `+` or `#`. -/
theorem leavesTopic_eq_false {s : String} :
    leavesTopic s = false ↔ '/' ∉ s.toList ∧ '+' ∉ s.toList ∧ '#' ∉ s.toList := by
  simp only [leavesTopic, String.any, String.contains_bool_eq, List.any_eq_false]
  constructor
  · intro h
    exact ⟨fun hm => by simpa using h _ hm, fun hm => by simpa using h _ hm,
      fun hm => by simpa using h _ hm⟩
  · rintro ⟨h₁, h₂, h₃⟩ c hc
    have : c ≠ '/' ∧ c ≠ '+' ∧ c ≠ '#' :=
      ⟨fun e => h₁ (e ▸ hc), fun e => h₂ (e ▸ hc), fun e => h₃ (e ▸ hc)⟩
    simp [this.1, this.2.1, this.2.2]

/-- **An accepted device id stays in its topic level**: it holds no `/`, `+` or `#`. -/
theorem ofLookup_deviceId {lookup : Lookup} {cfg : Config} (h : ofLookup lookup = .ok cfg) :
    leavesTopic cfg.session.deviceId = false := by
  simp only [ofLookup, except_bind_eq_ok, ite_eq_iff, except_throw_eq_ok, false_and, exists_false, and_false,
    false_or] at h
  -- the device id is checked first; the reads after it only build the rest
  obtain ⟨hd, -, _, -, -, _, -, _, -, _, -, _, -, _, -, _, -, _, -, _, -, _, -, _, -, _, -,
    _, -, _, -, _, -, _, -, _, -, h⟩ := h
  cases h
  simpa using hd

end SmartHelmet.Config

namespace SmartHelmet.Link

/-- The command topic of an accepted device id is a filter without wildcards. -/
theorem literal_commandTopic {device : String} (hd : Config.leavesTopic device = false) :
    Literal (levels (Channel.topic device .command)) := by
  obtain ⟨hs, hp, hh⟩ := Config.leavesTopic_eq_false.1 hd
  rw [levels_topic_of_slash_not_mem hs]
  have hdev : device.toList ≠ ['+'] ∧ device.toList ≠ ['#'] :=
    ⟨fun e => hp (by simp [e]), fun e => hh (by simp [e])⟩
  intro f hf
  simp only [List.mem_cons, List.not_mem_nil, or_false] at hf
  rcases hf with rfl | rfl | rfl
  · decide
  · exact hdev
  · decide

/-- **The forwarding task queues a payload just when it comes on the command topic.** -/
theorem Client.forward_publish_inbound (s : Client) (name : String) (payload : Bytes) :
    (s.forward (.publish name payload)).inbound =
      s.inbound ++ if name = s.commandTopic then [payload] else [] := by
  rw [Client.forward_inbound]
  by_cases hn : name = s.commandTopic <;> simp [Packet.payloadOn, hn]

/-- **An accepted device's topics are its own.** For the device id of an accepted
    configuration: its topics equal another device's only for the same id and channel; its
    command subscription matches, among all devices' topics, only its own command topic; and the
    forwarding task of a client of that device queues a published payload just when the
    subscription matches its topic. -/
theorem accepted_device_topics_isolated {lookup : Config.Lookup} {cfg : Config}
    (h : Config.ofLookup lookup = .ok cfg) :
    (∀ (d₂ : String) (c c₂ : Channel),
      Channel.topic cfg.session.deviceId c = Channel.topic d₂ c₂ ↔
        cfg.session.deviceId = d₂ ∧ c = c₂) ∧
    (∀ (d₂ : String) (c₂ : Channel),
      topicMatches (Channel.topic cfg.session.deviceId .command) (Channel.topic d₂ c₂) = true ↔
        d₂ = cfg.session.deviceId ∧ c₂ = .command) ∧
    ∀ (s : Client) (name : String) (payload : Bytes), s.device = cfg.session.deviceId →
      (s.forward (.publish name payload)).inbound = s.inbound ++
        if topicMatches (Channel.topic cfg.session.deviceId .command) name then [payload]
        else [] := by
  have hlit := literal_commandTopic (Config.ofLookup_deviceId h)
  refine ⟨fun _ _ _ => Channel.topic_inj, fun d₂ c₂ => ?_, fun s name payload hs => ?_⟩
  · rw [topicMatches_literal hlit, Channel.topic_inj]
    exact ⟨fun ⟨hd, hc⟩ => ⟨hd.symm, hc.symm⟩, fun ⟨hd, hc⟩ => ⟨hd.symm, hc.symm⟩⟩
  · -- drive's equality test and the broker's matching agree on a literal filter
    have hm : topicMatches (Channel.topic cfg.session.deviceId .command) name = true ↔
        name = s.commandTopic := by
      rw [topicMatches_literal hlit, Client.commandTopic, hs, eq_comm]
    rw [Client.forward_publish_inbound]
    by_cases hn : name = s.commandTopic
    · rw [if_pos hn, if_pos (hm.2 hn)]
    · rw [if_neg hn, if_neg (mt hm.1 hn)]

/-- The default device id, `HELMET001`, accepted from a lookup that sets only the onboarding
    cycles. -/
theorem accepted_device_topics_isolated_manyCycles :
    Config.ofLookup Session.manyCycles = .ok { session := { onboardingCycles := 1000000000 } } ∧
      ((∀ (d₂ : String) (c c₂ : Channel),
        Channel.topic "HELMET001" c = Channel.topic d₂ c₂ ↔ "HELMET001" = d₂ ∧ c = c₂) ∧
      (∀ (d₂ : String) (c₂ : Channel),
        topicMatches (Channel.topic "HELMET001" .command) (Channel.topic d₂ c₂) = true ↔
          d₂ = "HELMET001" ∧ c₂ = .command) ∧
      ∀ (s : Client) (name : String) (payload : Bytes), s.device = "HELMET001" →
        (s.forward (.publish name payload)).inbound = s.inbound ++
          if topicMatches (Channel.topic "HELMET001" .command) name then [payload] else []) := by
  with_reducible exact
    ⟨Session.ofLookup_manyCycles, accepted_device_topics_isolated Session.ofLookup_manyCycles⟩

end SmartHelmet.Link
