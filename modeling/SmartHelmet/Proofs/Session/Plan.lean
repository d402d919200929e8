import SmartHelmet.Session.Plan
import Mathlib
/-!
# Drawing cycle plans

A cycle plan draws two coins and, for a crashing cycle, a tick. The draws abort only on a
probability outside `[0, 1]` (NaN included) or on a crash with no tick to land on:

* `Float.beq_of_le_of_not_lt` — of two doubles, one at most the other and not below it equals it;
* `coin_ok`, `below_ok` — a coin with a probability in `[0, 1]` and a draw from a non-empty range
  always give a value; `coin_zero`, `coin_one` — a coin of probability zero (of either sign)
  lands false, one of probability one lands true without drawing;
* `Settings.Drawable` — settings with at least one tick per frame and both probabilities in
  `[0, 1]`; `Settings.plan_ok` — their plans are always drawn;
* `Source.between_mem`, `Source.below_lt` — the widening multiply keeps a draw in its range;
* `Settings.plan_cases` — what drawing a plan does, draw by draw;
* `Settings.plan_facts` — a drawn plan's heart rate is below 65 just when the rider is drowsy
  (the two bands do not meet), and its impact falls on a tick of the frame;
* `Plan.Drawn`, `Settings.plan_drawn` — for every stream of words, the plan of drawable settings
  is drawn, with its draws in order, its heart rate a whole number of its band, its position
  within a hundredth of a degree of the anchor, and the coins of probability zero and one
  decided.
-/

namespace SmartHelmet

open SmartHelmet.Random

/-- IEEE comparison: a double at most another and not below it is equal to it. -/
theorem Float.beq_of_le_of_not_lt {p q : Float} (hle : p ≤ q) (hlt : ¬p < q) : (p == q) = true := by
  have hle' : p.toModel.le q.toModel = true := by simpa [LE.le, Float.le] using hle
  have hlt' : p.toModel.lt q.toModel = false := by simpa [LT.lt, Float.lt] using hlt
  show p.toModel.beq q.toModel = true
  revert hle' hlt'
  simp only [Float.Model.le, Float.Model.lt, Float.Model.beq, Float.Model.UnpackedFloat.le,
    Float.Model.UnpackedFloat.lt, Float.Model.UnpackedFloat.beq]
  rcases p.toModel.unpack.compare q.toModel.unpack with _ | _ | _ | _ <;> decide

namespace Random

theorem coinThreshold_ok {p : Float} (h0 : 0.0 ≤ p) (h1 : p ≤ 1.0) :
    ∃ t, coinThreshold p = .ok t := by
  unfold coinThreshold
  by_cases hlt : p < 1.0
  · simp [h0, hlt]
  · simp [hlt, Float.beq_of_le_of_not_lt h1 hlt]

/-- A coin with a probability in `[0, 1]` lands. -/
theorem coin_ok {p : Float} (h0 : 0.0 ≤ p) (h1 : p ≤ 1.0) (s : Source) :
    ∃ b s', s.coin p = .ok (b, s') := by
  obtain ⟨t, ht⟩ := coinThreshold_ok h0 h1
  unfold Source.coin
  rw [ht]
  cases t with
  | none => exact ⟨_, _, rfl⟩
  | some t => exact ⟨_, _, rfl⟩

/-- A draw from a non-empty range gives a value. -/
theorem below_ok {n : Nat} (hn : 0 < n) (s : Source) : ∃ k s', s.below n = .ok (k, s') := by
  have : (n == 0) = false := by simp; omega
  exact ⟨_, _, by simp only [Source.below, this]; rfl⟩

/-- A coin of probability zero, of either sign, lands false; it draws one word. -/
theorem coin_zero {p : Float} (hp : p = 0.0 ∨ p = -0.0) (s : Source) :
    s.coin p = .ok (false, s.next64.2) := by
  -- both zeros lie in `[0, 1)` and scale to the threshold `0`, which no word stays below
  have ht : coinThreshold p = .ok (some 0) := by
    rcases hp with rfl | rfl <;> rfl
  simp only [Source.coin, ht]
  simp

/-- A coin of probability one lands true without drawing. -/
theorem coin_one (s : Source) : s.coin 1.0 = .ok (true, s) := by
  have ht : coinThreshold 1.0 = .ok none := rfl
  simp only [Source.coin, ht]

/-- The rejection loop of a draw from `[low, low + range)` answers within it. -/
theorem Source.between_loop_mem (low range : Nat) (hr : 0 < range) (hh : low + range ≤ word32)
    (z fuel : Nat) (s : Source) :
    low ≤ (Source.between.loop low range z fuel s).1 ∧
      (Source.between.loop low range z fuel s).1 < low + range := by
  induction fuel generalizing s with
  | zero => simp [Source.between.loop]; omega
  | succ fuel ih =>
    simp only [Source.between.loop]
    split
    · -- an accepted word `v` gives the high half of `v * range`, below `range`
      have hv : (s.next32.1).toNat < word32 := UInt32.toNat_lt _
      have hq : (s.next32.1).toNat * range / word32 < range :=
        Nat.div_lt_of_lt_mul (Nat.mul_lt_mul_of_pos_right hv hr)
      rw [Nat.mod_eq_of_lt (by omega)]
      exact ⟨Nat.le_add_right _ _, by omega⟩
    · exact ih _

/-- **A draw from `[low, high]` lies there**, for a range of 32-bit numbers. -/
theorem Source.between_mem {low high : Nat} (hlh : low ≤ high) (hh : high < word32) (s : Source) :
    low ≤ (s.between low high).1 ∧ (s.between low high).1 ≤ high := by
  unfold Source.between
  by_cases h0 : (high - low + 1) % word32 = 0
  · -- only the whole 32-bit range wraps to zero, and then a word is the answer as it is
    have hfull : low = 0 ∧ high + 1 = word32 := by
      have : high - low + 1 = word32 := by
        rcases Nat.lt_or_ge (high - low + 1) word32 with h | h
        · rw [Nat.mod_eq_of_lt h] at h0; omega
        · omega
      omega
    have hv : (s.next32.1).toNat < word32 := UInt32.toNat_lt _
    simp only [h0, BEq.rfl, if_true]
    omega
  · have hr : (high - low + 1) % word32 = high - low + 1 := Nat.mod_eq_of_lt (by
      rcases Nat.lt_or_ge (high - low + 1) word32 with h | h
      · exact h
      · have : high - low + 1 = word32 := by omega
        simp [this] at h0)
    have hne : ((high - low + 1) % word32 == 0) = false := by simpa using h0
    simp only [hne, Bool.false_eq_true, if_false]
    have := Source.between_loop_mem low ((high - low + 1) % word32) (by omega)
      (by omega) (zone ((high - low + 1) % word32)) s.patience s
    omega

/-- The rejection loop of a draw from `[0, range)` answers a 32-bit number. -/
theorem Source.between_loop_zero_lt (range z fuel : Nat) (s : Source) :
    (Source.between.loop 0 range z fuel s).1 < word32 := by
  induction fuel generalizing s with
  | zero => simp [Source.between.loop, word32]
  | succ fuel ih =>
    simp only [Source.between.loop]
    split
    · exact Nat.mod_lt _ (by simp [word32])
    · exact ih _

/-- A draw from `[0, high]` is a 32-bit number, whatever `high` is. -/
theorem Source.between_zero_lt (high : Nat) (s : Source) : (s.between 0 high).1 < word32 := by
  unfold Source.between
  by_cases h0 : (high - 0 + 1) % word32 = 0
  · simp only [h0, BEq.rfl, if_true]
    exact UInt32.toNat_lt _
  · have hne : ((high - 0 + 1) % word32 == 0) = false := by simpa using h0
    simp only [hne, Bool.false_eq_true, if_false]
    exact Source.between_loop_zero_lt _ _ _ s

/-- A draw from `[0, n)` lies there. -/
theorem Source.below_lt {n k : Nat} {s s' : Source} (h : s.below n = .ok (k, s')) : k < n := by
  have hn : n ≠ 0 := by
    rintro rfl
    simp [Source.below] at h
  have hne : (n == 0) = false := by simpa using hn
  rw [Source.below, hne] at h
  obtain ⟨rfl, -⟩ := Prod.mk.inj (Except.ok.inj h)
  by_cases hw : n - 1 < word32
  · exact Nat.lt_of_le_of_lt (Source.between_mem (Nat.zero_le _) hw s).2 (by omega)
  · exact Nat.lt_of_lt_of_le (Source.between_zero_lt (n - 1) s) (by omega)

end Random

namespace Session

/-- **Settings whose plans can always be drawn**: a frame has a tick for a crash to land on, and
    both probabilities lie in `[0, 1]`. -/
structure Settings.Drawable (cfg : Settings) : Prop where
  ticks_pos : 0 < cfg.ticksPerFrame
  drowsy_nonneg : 0.0 ≤ cfg.drowsyProbability
  drowsy_le_one : cfg.drowsyProbability ≤ 1.0
  crash_nonneg : 0.0 ≤ cfg.crashProbability
  crash_le_one : cfg.crashProbability ≤ 1.0

/-- The plan of drawable settings is always drawn. -/
theorem Settings.plan_ok {cfg : Settings} (h : cfg.Drawable) (s : Source) :
    ∃ p s', cfg.plan s = .ok (p, s') := by
  obtain ⟨drowsy, s₁, h₁⟩ := coin_ok h.drowsy_nonneg h.drowsy_le_one s
  obtain ⟨crash, s₂, h₂⟩ := coin_ok h.crash_nonneg h.crash_le_one s₁
  unfold Settings.plan
  rw [h₁]
  simp only [bind, Except.bind, h₂]
  cases crash with
  | false => exact ⟨_, _, rfl⟩
  | true =>
    obtain ⟨k, s₃, h₃⟩ := below_ok h.ticks_pos
      (cfg.anchor.jitter (s₂.between (if drowsy = true then drowsyBand else normalBand).1
        (if drowsy = true then drowsyBand else normalBand).2).2).2
    simp only [h₃, ite_true]
    exact ⟨_, _, rfl⟩

/-- The heart-rate band a drowsy coin picks. -/
def Plan.band (drowsy : Bool) : Nat × Nat := if drowsy then drowsyBand else normalBand

/-- **What drawing a plan does**: the drowsy coin, the crash coin, the heart rate from the band
    the first coin picked, the position, and for a crashing cycle the tick of the impact. -/
theorem Settings.plan_cases {cfg : Settings} {src src' : Source} {p : Plan}
    (h : cfg.plan src = .ok (p, src')) :
    ∃ crash s₁ s₂ n s₃ s₄, src.coin cfg.drowsyProbability = .ok (p.drowsy, s₁) ∧
      s₁.coin cfg.crashProbability = .ok (crash, s₂) ∧
      s₂.between (Plan.band p.drowsy).1 (Plan.band p.drowsy).2 = (n, s₃) ∧
      p.heartRate = n.toFloat ∧ cfg.anchor.jitter s₃ = (p.location, s₄) ∧
      (crash = true → ∃ t, p.crashTick = some t ∧ ∃ s₅, s₄.below cfg.ticksPerFrame = .ok (t, s₅)) ∧
      (crash = false → p.crashTick = none) := by
  unfold Settings.plan at h
  cases h₁ : src.coin cfg.drowsyProbability with
  | error e => simp [h₁, bind, Except.bind] at h
  | ok x =>
    obtain ⟨drowsy, s₁⟩ := x
    cases h₂ : s₁.coin cfg.crashProbability with
    | error e => simp [h₁, h₂, bind, Except.bind] at h
    | ok y =>
      obtain ⟨crash, s₂⟩ := y
      simp only [h₁, h₂, bind, Except.bind] at h
      cases crash with
      | false =>
        simp only [Bool.false_eq_true, if_false, pure, Except.pure, Except.ok.injEq,
          Prod.mk.injEq] at h
        obtain ⟨rfl, -⟩ := h
        exact ⟨false, s₁, s₂, _, _, _, rfl, h₂, rfl, rfl, rfl, by simp, fun _ => rfl⟩
      | true =>
        simp only [if_true] at h
        -- the tick is drawn last, from what the position left
        split at h
        · simp at h
        · rename_i v hv
          simp only [pure, Except.pure, Except.ok.injEq, Prod.mk.injEq] at h
          obtain ⟨rfl, -⟩ := h
          exact ⟨true, s₁, s₂, _, _, _, rfl, h₂, rfl, rfl, rfl, fun _ => ⟨_, rfl, _, hv⟩, by simp⟩

/-- A heart rate drawn from the band of a drowsy rider lies in `55..=64`, one of an alert rider
    in `65..=84`. -/
theorem Plan.band_rate (drowsy : Bool) (s : Source) :
    if drowsy then 55 ≤ (s.between (Plan.band drowsy).1 (Plan.band drowsy).2).1 ∧
        (s.between (Plan.band drowsy).1 (Plan.band drowsy).2).1 ≤ 64
    else 65 ≤ (s.between (Plan.band drowsy).1 (Plan.band drowsy).2).1 ∧
        (s.between (Plan.band drowsy).1 (Plan.band drowsy).2).1 ≤ 84 := by
  cases drowsy with
  | false => exact Source.between_mem (by decide) (by decide) s
  | true => exact Source.between_mem (by decide) (by decide) s

/-- A whole number of beats in the drowsy or the normal band is below 65 as a double just when it
    is below 65. -/
theorem toFloat_lt_65_iff {n : Nat} (h₁ : 55 ≤ n) (h₂ : n ≤ 84) : n.toFloat < 65.0 ↔ n < 65 := by
  have key : ∀ k < 30, ((k + 55).toFloat < 65.0 ↔ k + 55 < 65) := by decide
  have := key (n - 55) (by omega)
  rwa [Nat.sub_add_cancel h₁] at this

/-- The heart rate drawn from the band a drowsy coin picks is below 65 just when the coin said
    drowsy: the two bands do not meet. -/
theorem band_rate_lt_65_iff (drowsy : Bool) (s : Source) :
    (s.between (Plan.band drowsy).1 (Plan.band drowsy).2).1.toFloat < 65.0 ↔ drowsy = true := by
  have hband := Plan.band_rate drowsy s
  cases drowsy with
  | false =>
    simp only [Bool.false_eq_true, if_false, iff_false] at hband ⊢
    rw [toFloat_lt_65_iff (by omega) (by omega)]
    omega
  | true =>
    simp only [if_true, iff_true] at hband ⊢
    rw [toFloat_lt_65_iff (by omega) (by omega)]
    omega

/-- **What a drawn plan holds**: its heart rate is below 65 beats a minute just when the rider
    is drowsy, and a planned impact falls on one of the frame's ticks. -/
theorem Settings.plan_facts {cfg : Settings} {src src' : Source} {p : Plan}
    (h : cfg.plan src = .ok (p, src')) :
    (p.heartRate < 65.0 ↔ p.drowsy = true) ∧
      ∀ t, p.crashTick = some t → t < cfg.ticksPerFrame := by
  obtain ⟨crash, s₁, s₂, n, s₃, s₄, -, -, hn, hrate, -, hcrash, hcalm⟩ := Settings.plan_cases h
  refine ⟨?_, fun t ht => ?_⟩
  · have hlt := band_rate_lt_65_iff p.drowsy s₂
    rwa [hn, ← hrate] at hlt
  · cases crash with
    | false => simp [hcalm rfl] at ht
    | true =>
      obtain ⟨t', ht', s₅, hb⟩ := hcrash rfl
      rw [ht'] at ht
      cases ht
      exact Source.below_lt hb

/-! ## Plans over every word stream -/

/-- **What a plan drawn under `cfg` from `src` holds.** -/
structure Plan.Drawn (p : Plan) (cfg : Settings) (src : Source) : Prop where
  /-- The draws come in order: the drowsy coin, the crash coin, the heart rate from the band the
      first coin picked, then the latitude's offset and the longitude's. -/
  order : ∃ crash s₁ s₂ n s₃, src.coin cfg.drowsyProbability = .ok (p.drowsy, s₁) ∧
    s₁.coin cfg.crashProbability = .ok (crash, s₂) ∧ crash = p.crashTick.isSome ∧
    s₂.between (Plan.band p.drowsy).1 (Plan.band p.drowsy).2 = (n, s₃) ∧ p.heartRate = n.toFloat ∧
    p.location = ⟨cfg.anchor.lat + (s₃.between 0 99).1.toFloat / 10000.0,
      cfg.anchor.lon + ((s₃.between 0 99).2.between 0 99).1.toFloat / 10000.0⟩
  /-- The heart rate is a whole number of beats, in `55..=64` for a drowsy rider and in `65..=84`
      otherwise. -/
  rate : ∃ n : Nat, p.heartRate = n.toFloat ∧
    if p.drowsy then 55 ≤ n ∧ n ≤ 64 else 65 ≤ n ∧ n ≤ 84
  drowsy_iff : p.heartRate < 65.0 ↔ p.drowsy = true
  tick_lt : ∀ t, p.crashTick = some t → t < cfg.ticksPerFrame
  /-- Each coordinate is moved by a whole number of ten-thousandths of a degree below 100. -/
  offsets : ∃ k₁ k₂ : Nat, k₁ < 100 ∧ k₂ < 100 ∧
    p.location = ⟨cfg.anchor.lat + k₁.toFloat / 10000.0, cfg.anchor.lon + k₂.toFloat / 10000.0⟩
  never_drowsy : cfg.drowsyProbability = 0.0 ∨ cfg.drowsyProbability = -0.0 → p.drowsy = false
  always_drowsy : cfg.drowsyProbability = 1.0 → p.drowsy = true
  never_crash : cfg.crashProbability = 0.0 ∨ cfg.crashProbability = -0.0 → p.crashTick = none
  always_crash : cfg.crashProbability = 1.0 → p.crashTick.isSome = true

/-- The position of a plan: the anchor moved by two consecutive draws, the latitude's first. -/
theorem GeoPoint.jitter_fst (a : GeoPoint) (s : Source) :
    (a.jitter s).1 = ⟨a.lat + (s.between 0 99).1.toFloat / 10000.0,
      a.lon + ((s.between 0 99).2.between 0 99).1.toFloat / 10000.0⟩ := rfl

/-- **Every plan of drawable settings is drawn, whatever the words**, and holds what
    `Plan.Drawn` says: its draws in order, its heart rate in the band of its coin, its impact on
    a tick of the frame, its position within a hundredth of a degree above the anchor, and the
    coins of probability zero and one decided. -/
theorem Settings.plan_drawn {cfg : Settings} (h : cfg.Drawable) (src : Source) :
    ∃ p src', cfg.plan src = .ok (p, src') ∧ p.Drawn cfg src := by
  obtain ⟨p, src', hp⟩ := Settings.plan_ok h src
  obtain ⟨crash, s₁, s₂, n, s₃, s₄, h₁, h₂, hn, hrate, hloc, hcrash, hcalm⟩ :=
    Settings.plan_cases hp
  -- the crash coin's outcome is whether an impact was planned
  have hsome : crash = p.crashTick.isSome := by
    cases crash with
    | false => simp [hcalm rfl]
    | true =>
      obtain ⟨t, ht, -⟩ := hcrash rfl
      simp [ht]
  have hplace : p.location = ⟨cfg.anchor.lat + (s₃.between 0 99).1.toFloat / 10000.0,
      cfg.anchor.lon + ((s₃.between 0 99).2.between 0 99).1.toFloat / 10000.0⟩ := by
    rw [← GeoPoint.jitter_fst, hloc]
  have hband : if p.drowsy then 55 ≤ n ∧ n ≤ 64 else 65 ≤ n ∧ n ≤ 84 := by
    have := Plan.band_rate p.drowsy s₂
    rwa [hn] at this
  have hlat := Source.between_mem (by decide : 0 ≤ 99) (by decide) s₃
  have hlon := Source.between_mem (by decide : 0 ≤ 99) (by decide) (s₃.between 0 99).2
  refine ⟨p, src', hp, ⟨⟨crash, s₁, s₂, n, s₃, h₁, h₂, hsome, hn, hrate, hplace⟩,
    ⟨n, hrate, hband⟩, (Settings.plan_facts hp).1, (Settings.plan_facts hp).2,
    ⟨_, _, by omega, by omega, hplace⟩, ?_, ?_, ?_, ?_⟩⟩
  · intro hp0
    rw [coin_zero hp0] at h₁
    exact (Prod.mk.inj (Except.ok.inj h₁)).1.symm
  · intro hp1
    rw [hp1, coin_one] at h₁
    exact (Prod.mk.inj (Except.ok.inj h₁)).1.symm
  · intro hp0
    rw [coin_zero hp0] at h₂
    exact hcalm (Prod.mk.inj (Except.ok.inj h₂)).1.symm
  · intro hp1
    rw [hp1, coin_one] at h₂
    rw [← hsome]
    exact (Prod.mk.inj (Except.ok.inj h₂)).1.symm

/-- The default settings draw a plan from the zero words of an empty script. -/
theorem plan_drawn_default :
    Settings.Drawable {} ∧ ∃ p src', ({} : Settings).plan (Source.ofWords []) = .ok (p, src') ∧
      p.Drawn {} (Source.ofWords []) := by
  have hdraw : Settings.Drawable {} := ⟨by decide, by decide, by decide, by decide, by decide⟩
  exact ⟨hdraw, Settings.plan_drawn hdraw _⟩

end Session

end SmartHelmet
