import SmartHelmet.Status
import SmartHelmet.Proofs.Json.Kept
/-!
# The metrics of a status reply

The six heart-rate-variability metrics stand in a reply twice over: inside `baseline_metrics`,
and at the reply's top level among the members it keeps. Either way each metric may be named at
most once, with a number or `null`. This module says so declaratively, writes out the texts of
the nested metrics, and proves that the readers take these texts and nothing else:

* `valuesAt`, `metricAt`, `metricsOf` — the values named a key; the metric named values give, or
  `none` when it is named twice; the six of them;
* `Content.metric?`, `topMetrics` — a kept value as a metric, and the metrics among a reply's
  kept members;
* `absorbMetric`, `foldlM_absorbMetric` — the step both metric readers take per member, and that
  the members folded through it give `metricsOf`;
* `MetricText`, `MetricMemberText`, `NestedText` — the text of a metric's value (`null`, or a
  number with its sign, read as the nearest double), of a member of a metrics object (a metric,
  or any other name with any value, skipped), and of `baseline_metrics`: `null`, an array of
  exactly six metric values, or an object of members;
* `metricValue_ok`, `metricItems_ok`, `metricMembers_ok`, `nested_ok` — a success took these
  texts;
* `metricValue_reads`, `metricItems_reads`, `metricMembers_reads`, `nested_reads` — and they are
  read;
* `inlineMetrics_outcome` — the top-level metrics are read as `topMetrics` says.
-/

namespace SmartHelmet

open Json

/-! ## 1. What named values say about the metrics -/

/-- The values of the entries named `key`, in their order. -/
def valuesAt {β : Type} (xs : List (String × β)) (key : String) : List β :=
  (xs.filter fun x => x.1 == key).map Prod.snd

/-- The metric named `name` among named values: absent, or its one value. It is `none` when the
    name stands twice or more. -/
def metricAt (xs : List (String × Option Float)) (name : String) : Option (Option Float) :=
  match valuesAt xs name with
  | [] => some none
  | [v] => some v
  | _ => none

/-- **The six metrics among named values**, when each is named at most once. -/
def metricsOf (xs : List (String × Option Float)) : Option Metrics :=
  if metricNames.all fun name => (metricAt xs name).isSome then
    some (metricNames.map fun name => (metricAt xs name).join)
  else none

/-- A kept value as a metric: a number, read as a double, or `null` for absent. Any other value
    is no metric. -/
def Json.Content.metric? : Content → Option (Option Float)
  | .null => some none
  | .number n => some (some n.toFloat)
  | _ => none

/-- The kept members named for a metric, as named metrics, when each holds one. -/
def metricEntries (others : List (String × Content)) : Option (List (String × Option Float)) :=
  (others.filter fun m => m.1 ∈ metricNames).mapM fun m => m.2.metric?.map (m.1, ·)

/-- **The top-level metrics among a reply's kept members**: each member named for a metric must
    hold one, and each metric be named at most once. -/
def topMetrics (others : List (String × Content)) : Option Metrics :=
  (metricEntries others).bind metricsOf

@[simp] theorem valuesAt_nil {β : Type} (key : String) : valuesAt ([] : List (String × β)) key = [] :=
  rfl

theorem valuesAt_append {β : Type} (xs : List (String × β)) (k : String) (v : β) (key : String) :
    valuesAt (xs ++ [(k, v)]) key = valuesAt xs key ++ if k = key then [v] else [] := by
  by_cases h : k = key <;> simp [valuesAt, h]

theorem metricAt_of_values {xs xs' : List (String × Option Float)} {name : String}
    (h : valuesAt xs' name = valuesAt xs name) : metricAt xs' name = metricAt xs name := by
  unfold metricAt
  rw [h]

theorem metricNames_nodup : metricNames.Nodup := by decide

theorem metricIndex_some {key : String} {i : Nat} (h : metricIndex key = some i) :
    ∃ hi : i < metricNames.length, metricNames[i] = key := by
  obtain ⟨hi, he, -⟩ := List.idxOf?_eq_some_iff.1 h
  exact ⟨hi, he⟩

theorem metricIndex_none {key : String} (h : metricIndex key = none) : key ∉ metricNames :=
  List.idxOf?_eq_none_iff.1 h

theorem metricIndex_isSome {key : String} : (metricIndex key).isSome ↔ key ∈ metricNames := by
  cases h : metricIndex key with
  | none => simpa using metricIndex_none h
  | some i =>
    obtain ⟨hi, he⟩ := metricIndex_some h
    simp only [Option.isSome_some, true_iff]
    exact he ▸ List.getElem_mem hi

/-- Over a list without repeats, changing a function at one entry sets that entry of its map. -/
theorem map_eq_set_of_nodup {α β : Type} {l : List α} (hl : l.Nodup) {i : Nat}
    (hi : i < l.length) {f g : α → β} (h : ∀ a ∈ l, a ≠ l[i] → g a = f a) :
    l.map g = (l.map f).set i (g l[i]) := by
  refine List.ext_getElem (by simp) fun j h₁ h₂ => ?_
  simp only [List.getElem_set, List.getElem_map]
  split
  · next hij => subst hij; rfl
  · next hij =>
    simp only [List.length_map] at h₁
    exact h _ (List.getElem_mem h₁) fun e => hij ((hl.getElem_inj_iff).1 e).symm

/-- Values that give every metric name the same metric give the same metrics. -/
theorem metricsOf_congr {xs xs' : List (String × Option Float)}
    (h : ∀ name ∈ metricNames, metricAt xs' name = metricAt xs name) :
    metricsOf xs' = metricsOf xs := by
  have hall : (metricNames.all fun name => (metricAt xs' name).isSome) =
      metricNames.all fun name => (metricAt xs name).isSome := by
    apply Bool.eq_iff_iff.2
    rw [List.all_eq_true, List.all_eq_true]
    exact ⟨fun H n hn => h n hn ▸ H n hn, fun H n hn => (h n hn).symm ▸ H n hn⟩
  unfold metricsOf
  rw [hall, List.map_congr_left fun n hn => by rw [h n hn]]

/-- **One metric changed**: values that differ from others only in the metric at `i` give the
    others' metrics with entry `i` set, or nothing when that metric is refused. -/
theorem metricsOf_update {xs xs' : List (String × Option Float)} {i : Nat}
    (hi : i < metricNames.length) {o : Option (Option Float)} {m : Metrics}
    (h : ∀ name ∈ metricNames,
      metricAt xs' name = if name = metricNames[i] then o else metricAt xs name)
    (hm : metricsOf xs = some m) : metricsOf xs' = o.map fun v => m.set i v := by
  unfold metricsOf at hm ⊢
  split at hm
  · next hall =>
    obtain rfl := Option.some.inj hm
    rw [List.all_eq_true] at hall
    cases o with
    | none =>
      -- metric `i` is refused
      have hnot : (metricAt xs' metricNames[i]).isSome = false := by
        rw [h _ (List.getElem_mem hi), if_pos rfl]; rfl
      rw [if_neg fun H => by simp [List.all_eq_true.1 H _ (List.getElem_mem hi)] at hnot]
      rfl
    | some v =>
      have hall' : (metricNames.all fun name => (metricAt xs' name).isSome) = true := by
        refine List.all_eq_true.2 fun n hn => ?_
        rw [h n hn]
        split
        · rfl
        · exact hall n hn
      rw [if_pos hall', Option.map_some]
      congr 1
      have hset := map_eq_set_of_nodup metricNames_nodup hi
        (f := fun name => (metricAt xs name).join) (g := fun name => (metricAt xs' name).join)
        fun n hn hne => by simp only [h n hn, if_neg hne]
      rw [hset, h _ (List.getElem_mem hi), if_pos rfl]
      rfl
  · cases hm

/-! ## 2. The metric step -/

/-- Before any member: no metric met, all absent. -/
def metricStart : List Bool × Metrics :=
  ([false, false, false, false, false, false], Metrics.absent)

/-- **One named value through the metric readers**: a metric named before is refused, one named
    for the first time marked and kept; any other name changes nothing. -/
def absorbMetric (st : List Bool × Metrics) (x : String × Option Float) :
    Option (List Bool × Metrics) :=
  match metricIndex x.1 with
  | some i => if st.1.getD i false then none else some (st.1.set i true, st.2.put i x.2)
  | none => some st

/-- Which metrics the values name. -/
def seenOf (xs : List (String × Option Float)) : List Bool :=
  metricNames.map fun name => !(valuesAt xs name).isEmpty

/-- What the metric readers hold after some named values. -/
def metricState (xs : List (String × Option Float)) : Option (List Bool × Metrics) :=
  (metricsOf xs).map fun m => (seenOf xs, m)

theorem metricState_nil : metricState [] = some metricStart := by
  decide

theorem metricState_snd (xs : List (String × Option Float)) :
    (metricState xs).map Prod.snd = metricsOf xs := by
  unfold metricState
  cases metricsOf xs <;> rfl

/-- A value that names no metric changes no metric. -/
theorem valuesAt_append_other (xs : List (String × Option Float)) {k : String} (v : Option Float)
    (hk : k ∉ metricNames) {name : String} (hn : name ∈ metricNames) :
    valuesAt (xs ++ [(k, v)]) name = valuesAt xs name := by
  have hne : k ≠ name := fun e => hk (by rw [e]; exact hn)
  rw [valuesAt_append, if_neg hne, List.append_nil]

/-- **The metric step keeps the readers' record**: after one more named value, what the step
    makes of the record of the values before is the record of them all. -/
theorem metricState_append (xs : List (String × Option Float)) (k : String) (x : Option Float) :
    (metricState xs).bind (absorbMetric · (k, x)) = metricState (xs ++ [(k, x)]) := by
  unfold metricState
  cases hidx : metricIndex k with
  | none =>
    -- another name: every metric name keeps its values
    have hk := metricIndex_none hidx
    have hsame := fun name (hn : name ∈ metricNames) => valuesAt_append_other xs x hk hn
    have hseen : seenOf (xs ++ [(k, x)]) = seenOf xs :=
      List.map_congr_left fun n hn => by rw [hsame n hn]
    rw [metricsOf_congr fun n hn => metricAt_of_values (hsame n hn), hseen]
    cases metricsOf xs <;> simp [absorbMetric, hidx]
  | some i =>
    obtain ⟨hi, hname⟩ := metricIndex_some hidx
    -- the metric `i` gets the value; the others keep theirs
    have hother : ∀ name ∈ metricNames, name ≠ metricNames[i] →
        valuesAt (xs ++ [(k, x)]) name = valuesAt xs name := by
      intro name _ hne
      rw [valuesAt_append, if_neg (hname ▸ Ne.symm hne), List.append_nil]
    have hthis : valuesAt (xs ++ [(k, x)]) metricNames[i] = valuesAt xs metricNames[i] ++ [x] := by
      rw [valuesAt_append, if_pos hname.symm]
    have hseenGet : (seenOf xs).getD i false = !(valuesAt xs metricNames[i]).isEmpty := by
      simp [seenOf, List.getD_eq_getElem?_getD, hi]
    cases hv : valuesAt xs metricNames[i] with
    | nil =>
      -- named for the first time
      have hupd : ∀ name ∈ metricNames, metricAt (xs ++ [(k, x)]) name =
          if name = metricNames[i] then some x else metricAt xs name := by
        intro name hn
        split
        · next he => subst he; unfold metricAt; rw [hthis, hv]; rfl
        · next hne => exact metricAt_of_values (hother name hn hne)
      have hseen : seenOf (xs ++ [(k, x)]) = (seenOf xs).set i true := by
        have h := map_eq_set_of_nodup metricNames_nodup hi
          (f := fun name => !(valuesAt xs name).isEmpty)
          (g := fun name => !(valuesAt (xs ++ [(k, x)]) name).isEmpty)
          fun n hn hne => by rw [hother n hn hne]
        rw [seenOf, h, hthis, hv]
        rfl
      cases hm : metricsOf xs with
      | none =>
        -- a metric before was refused, and stays refused
        have hnone : metricsOf (xs ++ [(k, x)]) = none := by
          unfold metricsOf at hm ⊢
          split at hm
          · cases hm
          · next hall =>
            rw [if_neg]
            intro H
            refine hall (List.all_eq_true.2 fun n hn => ?_)
            have := List.all_eq_true.1 H n hn
            rw [hupd n hn] at this
            split at this
            · next he => subst he; simp [metricAt, hv]
            · exact this
        simp [hnone]
      | some m =>
        rw [metricsOf_update hi hupd hm, hseen]
        simp only [Option.map_some, Option.bind_some, absorbMetric, hidx, hseenGet, hv,
          List.isEmpty_nil, Bool.not_true, Bool.false_eq_true, if_false]
        rfl
    | cons v vs =>
      -- named before: a second naming is refused
      have hnone : metricsOf (xs ++ [(k, x)]) = none := by
        unfold metricsOf
        rw [if_neg]
        intro H
        have := List.all_eq_true.1 H _ (List.getElem_mem hi)
        simp [metricAt, hthis, hv] at this
      rw [hnone]
      cases metricsOf xs with
      | none => rfl
      | some m =>
        simp only [Option.map_some, Option.bind_some, absorbMetric]
        rw [hidx]
        simp only [hseenGet, hv, List.isEmpty_cons, Bool.not_false, if_true]
        rfl

/-- **A record of prefixes that each step carries one entry further is what the fold gives**:
    from the record of a prefix, folding the rest gives the record of them all. -/
theorem foldlM_eq_of_snoc {α σ : Type} {step : σ → α → Option σ}
    {state : List α → Option σ}
    (h : ∀ pre a, (state pre).bind (step · a) = state (pre ++ [a])) :
    ∀ (xs pre : List α), (state pre).bind (fun s => xs.foldlM step s) = state (pre ++ xs)
  | [], pre => by
    rw [List.append_nil]
    cases state pre <;> rfl
  | a :: xs, pre => by
    calc (state pre).bind (fun s => (a :: xs).foldlM step s)
        = ((state pre).bind (step · a)).bind (fun s => xs.foldlM step s) := by
          cases state pre <;> rfl
      _ = state (pre ++ a :: xs) := by
          rw [h, foldlM_eq_of_snoc h xs, List.append_assoc, List.singleton_append]

/-- **The metric step over all named values gives `metricsOf`**, with the names met. -/
theorem foldlM_absorbMetric (xs : List (String × Option Float)) :
    xs.foldlM absorbMetric metricStart = metricState xs := by
  have h := foldlM_eq_of_snoc (fun pre x => metricState_append pre x.1 x.2) xs []
  rwa [metricState_nil, Option.bind_some, List.nil_append] at h

/-! ## 3. The texts of the nested metrics -/

/-- **The text of a metric's value**: `null` for absent, or a number with its sign, read as the
    nearest double. -/
inductive MetricText : Bytes → Option Float → Prop
  | null : MetricText [110, 117, 108, 108] none
  | number {t : Bytes} {n : Number} : SignedNumber t n → MetricText t (some n.toFloat)

/-- **A member of a metrics object**: a quoted key, blanks, the colon, blanks, then a metric's
    value under a metric's name, or any value under any other name, skipped. It gives the
    metric's name and value, or nothing. -/
inductive MetricMemberText : Bytes → Option (String × Option Float) → Prop
  | metric {k w w' t : Bytes} {name : String} {x : Option Float} : KeyString k name →
      name ∈ metricNames → Blanks w → Blanks w' → MetricText t x →
      MetricMemberText (34 :: k ++ w ++ 58 :: w' ++ t) (some (name, x))
  | other {k w w' v : Bytes} {name : String} : KeyString k name → name ∉ metricNames →
      Blanks w → Blanks w' → Skips .value v → MetricMemberText (34 :: k ++ w ++ 58 :: w' ++ v) none

/-- **The text of `baseline_metrics`** with `n` levels left, from its first byte: `null`; an
    array of exactly six metric values, in order; or an object of members whose metrics, each
    named at most once, are the metrics. -/
inductive NestedText (n : Nat) : Bytes → Option Metrics → Prop
  | null : NestedText n [110, 117, 108, 108] none
  | array {r e : Bytes} {xs : Metrics} : 1 < n → Separated MetricText true r xs →
      xs.length = 6 → Blanks e → NestedText n (91 :: (r ++ e ++ [93])) (some xs)
  | object {r e : Bytes} {ms : List (Option (String × Option Float))} {m : Metrics} : 1 < n →
      Separated MetricMemberText true r ms → Blanks e → metricsOf (ms.filterMap id) = some m →
      NestedText n (123 :: (r ++ e ++ [125])) (some m)

/-- A metric's value starts with a byte that is no blank and closes no array. -/
theorem MetricText.head {t : Bytes} {x : Option Float} (h : MetricText t x) :
    ∃ b t', t = b :: t' ∧ isBlankByte b = false ∧ b ≠ 93 := by
  cases h with
  | null => exact ⟨110, _, rfl, rfl, by decide⟩
  | number hn =>
    obtain ⟨b, t, rfl, hb, -, h93, -⟩ := hn.head
    exact ⟨b, t, rfl, hb, h93⟩

/-! ## 4. What a success took -/

variable {c c' : Cursor} {d : Nat} {rest : Bytes}

/-- **A double's success** took blanks and a number with its sign, before what ends a number. -/
theorem readDouble_ok {x : Float} (h : readDouble.run c = .ok x c') (hend : Ends c'.rest) :
    ∃ w t n, Blanks w ∧ SignedNumber t n ∧ x = n.toFloat ∧ Consumed c c' (w ++ t) := by
  unfold readDouble at h
  obtain ⟨o, c₁, h₁, h⟩ := run_bind_ok (positioned_run_ok h)
  obtain ⟨w, hc₁, hw, -, rfl⟩ := skipBlanks_ok h₁
  split at h
  · exact absurd h (Refused.run_ne_ok (failAhead_refused _))
  · next h45 =>
    obtain ⟨t, ht⟩ := List.head?_eq_some_iff.1 h45
    obtain ⟨_, c₂, h₂, h⟩ := run_bind_ok h
    cases bump_ok h₂
    obtain ⟨n, c₃, h₃, h⟩ := run_bind_ok h
    obtain ⟨rfl, rfl⟩ := run_pure_ok h
    obtain ⟨u, hu, hcu, hval⟩ := readNumber_value h₃ hend
    exact ⟨w, 45 :: u, n, hw, .inr ⟨u, rfl, hu, hval⟩, rfl,
      hc₁.trans ((Consumed.bump ht).trans hcu)⟩
  · next b _ hb =>
    by_cases hd : isDigitByte b = true
    · rw [if_pos hd] at h
      obtain ⟨n, c₃, h₃, h⟩ := run_bind_ok h
      obtain ⟨rfl, rfl⟩ := run_pure_ok h
      obtain ⟨u, hu, hcu, hval⟩ := readNumber_value h₃ hend
      exact ⟨w, u, n, hw, .inl ⟨hu, hval⟩, rfl, hc₁.trans hcu⟩
    · rw [if_neg hd] at h
      exact absurd h (Refused.run_ne_ok (wrongKind_refused _))

/-- **A metric value's success** took blanks and a metric's value. -/
theorem metricValue_ok {x : Option Float} (h : metricValue.run c = .ok x c')
    (hend : Ends c'.rest) : ∃ w t, Blanks w ∧ MetricText t x ∧ Consumed c c' (w ++ t) := by
  unfold metricValue readOption at h
  obtain ⟨o, c₁, h₁, h⟩ := run_bind_ok h
  obtain ⟨w, hc₁, hw, -, rfl⟩ := skipBlanks_ok h₁
  split at h
  · next hn =>
    obtain ⟨t, hn⟩ := List.head?_eq_some_iff.1 hn
    obtain ⟨rfl, hx⟩ := bump_keyword_ok hn h
    exact ⟨w, _, hw, .null, hc₁.trans hx⟩
  · obtain ⟨y, hy, rfl⟩ := run_map_ok h
    obtain ⟨w', t, n, hw', ht, rfl, hc⟩ := readDouble_ok hy hend
    exact ⟨w ++ w', t, blanks_append.2 ⟨hw, hw'⟩, .number ht, by simpa using hc₁.trans hc⟩

/-- **An array item's success**: none before the closing bracket, or a separator and the
    item. -/
theorem element_ok {α : Type} {first : Bool} {inner : Reader α} {o : Option α}
    (h : (element first inner).run c = .ok o c') :
    o = none ∧ c'.rest.head? = some 93 ∨
      ∃ s c₀ a, o = some a ∧ Sep first s ∧ Consumed c c₀ s ∧ inner.run c₀ = .ok a c' := by
  unfold element at h
  obtain ⟨more, c₁, h₁, h⟩ := run_bind_ok h
  obtain ⟨s, hcs, hs⟩ := nextItem_ok h₁
  rcases hs with ⟨rfl, -, hend⟩ | ⟨rfl, hs⟩
  · rw [if_neg Bool.false_ne_true] at h
    obtain ⟨rfl, rfl⟩ := run_pure_ok h
    exact .inl ⟨rfl, hend⟩
  · rw [if_pos rfl] at h
    obtain ⟨a, ha, rfl⟩ := run_map_ok h
    exact .inr ⟨s, c₁, a, rfl, hs, hcs, ha⟩

/-- The items of a metrics array after the first are read up to what ends a number: so is the
    item before them. -/
theorem metricItems_ends {fuel i : Nat} {m r : Metrics}
    (h : (metricItems fuel (i + 1) m).run c = .ok r c') (hend : Ends c'.rest) : Ends c.rest := by
  cases fuel with
  | zero =>
    simp only [metricItems] at h
    obtain ⟨-, rfl⟩ := run_pure_ok h
    exact hend
  | succ fuel =>
    simp only [metricItems] at h
    split at h
    · obtain ⟨-, rfl⟩ := run_pure_ok h
      exact hend
    · obtain ⟨o, c₁, h₁, h⟩ := run_bind_ok h
      unfold element at h₁
      obtain ⟨more, c₂, h₂, h₁⟩ := run_bind_ok h₁
      refine nextItem_ends (by simpa using h₂) fun hm => ?_
      -- no item where one is due: refused
      subst hm
      rw [if_neg Bool.false_ne_true] at h₁
      obtain ⟨rfl, rfl⟩ := run_pure_ok h₁
      exact absurd h (Refused.run_ne_ok (failShape_refused _))

/-- Setting an entry and keeping the entries up to it. -/
theorem take_set_succ {α : Type} (l : List α) {i : Nat} (v : α) (hi : i < l.length) :
    (l.set i v).take (i + 1) = l.take i ++ [v] := by
  rw [List.take_add_one, List.take_set_of_le (Nat.le_refl i), List.getElem?_set_self hi]
  rfl

/-- **The items of a metrics array from item `i` to the sixth**, given fuel for each and one
    more: metric values, each put into its entry. -/
theorem metricItems_ok : ∀ (fuel i : Nat) (m : Metrics) {r : Metrics} {c c' : Cursor},
    i + fuel = 7 → i ≤ 6 → m.length = 6 → (metricItems fuel i m).run c = .ok r c' →
      Ends c'.rest → ∃ t xs, Separated MetricText (i == 0) t xs ∧ i + xs.length = 6 ∧
        r = m.take i ++ xs ∧ Consumed c c' t
  | 0, i, m, r, c, c', hf, hi, _, _, _ => by omega
  | fuel + 1, i, m, r, c, c', hf, hi, hm, h, hend => by
    simp only [metricItems] at h
    split at h
    · -- the sixth item was the last
      next h6 =>
      obtain ⟨hr, rfl⟩ := run_pure_ok h
      have htake : m.take i = m := List.take_of_length_le (by omega)
      exact ⟨[], [], .nil, by simp; omega, by simp [hr, htake], Consumed.nil⟩
    · obtain ⟨o, c₁, h₁, h⟩ := run_bind_ok h
      rcases element_ok h₁ with ⟨rfl, -⟩ | ⟨s, c₀, x, rfl, hs, hcs, hx⟩
      · exact absurd h (Refused.run_ne_ok (failShape_refused _))
      · obtain ⟨w, t, hw, ht, hct⟩ := metricValue_ok hx (metricItems_ends h hend)
        obtain ⟨t', xs, hrest, hlen, rfl, hc'⟩ :=
          metricItems_ok fuel (i + 1) (m.put i x) (by omega) (by omega)
            (by simp [Metrics.put, hm]) h hend
        have hfalse : (i + 1 == 0) = false := by simp
        rw [hfalse] at hrest
        refine ⟨s ++ w ++ t ++ t', x :: xs, .cons (hs.append_blanks hw) ht hrest,
          by simp; omega, ?_, by simpa using (hcs.trans hct).trans hc'⟩
        simp [Metrics.put, take_set_succ m x (by omega : i < m.length)]

/-- The members after a member of a metrics object are read up to what ends a number: so is the
    member before them. -/
theorem metricMembers_ends {fuel : Nat} {seen : List Bool} {m r : Metrics}
    (h : (metricMembers fuel false seen m).run c = .ok r c') (hend : Ends c'.rest) :
    Ends c.rest := by
  cases fuel with
  | zero =>
    simp only [metricMembers] at h
    obtain ⟨-, rfl⟩ := run_pure_ok h
    exact hend
  | succ fuel =>
    simp only [metricMembers] at h
    exact nextKey_bind_ends h hend

/-- **What the members of a metrics object took**: members, each after its separator, then the
    blanks before the closing brace; the metrics are what their metrics, folded through the
    metric step, make of those read before. -/
theorem metricMembers_ok (fuel : Nat) {first : Bool} {seen : List Bool} {m r : Metrics}
    (h : (metricMembers fuel first seen m).run c = .ok r c') (hend : Ends c'.rest) :
    ∃ t e ms, Separated MetricMemberText first t ms ∧ Blanks e ∧ Consumed c c' (t ++ e) ∧
      ((ms.filterMap id).foldlM absorbMetric (seen, m)).map Prod.snd = some r := by
  induction fuel generalizing first seen m c with
  | zero =>
    simp only [metricMembers] at h
    obtain ⟨rfl, rfl⟩ := run_pure_ok h
    exact ⟨[], [], [], .nil, blanks_nil, Consumed.nil, rfl⟩
  | succ fuel ih =>
    simp only [metricMembers] at h
    rcases nextKey_member_ok h with ⟨rfl, s, hs, hcs⟩ | ⟨s, k, key, c₂, hs, hk, hkey, h⟩
    · -- the closing brace
      exact ⟨[], s, [], .nil, hs, by simpa using hcs, rfl⟩
    split at h
    · -- a metric's name, met for the first time, then its value
      next i hidx =>
      obtain ⟨hi, hname⟩ := metricIndex_some hidx
      by_cases hseen : seen.getD i false = true
      · rw [if_pos hseen] at h
        exact absurd h (Refused.run_ne_ok (failShape_refused _).bind)
      rw [if_neg hseen] at h
      obtain ⟨_, c₃, h₃, h⟩ := run_bind_ok h
      obtain ⟨w, hw, hcw⟩ := colon_ok h₃
      obtain ⟨x, c₄, h₄, h⟩ := run_bind_ok h
      obtain ⟨w', t, hw', ht, hct⟩ := metricValue_ok h₄ (metricMembers_ends h hend)
      obtain ⟨t', e, ms, hrest, he, hc', hfold⟩ := ih h
      have hstep : absorbMetric (seen, m) (key, x) = some (seen.set i true, m.put i x) := by
        simp only [absorbMetric, hidx]
        rw [if_neg hseen]
      refine ⟨s ++ (34 :: k ++ w ++ 58 :: w' ++ t) ++ t', e, some (key, x) :: ms,
        .cons hs (.metric hk (hname ▸ List.getElem_mem hi) hw hw' ht) hrest, he,
        by simpa using ((hkey.trans hcw).trans hct).trans hc', ?_⟩
      simpa [List.foldlM_cons, hstep] using hfold
    · -- any other name: its value is skipped
      next hidx =>
      obtain ⟨_, c₃, h₃, h⟩ := run_bind_ok h
      obtain ⟨w, hw, hcw⟩ := colon_ok h₃
      obtain ⟨_, c₄, h₄, h⟩ := run_bind_ok h
      obtain ⟨w', v, hw', hv, hcv⟩ := skipValue_ok h₄
      obtain ⟨t', e, ms, hrest, he, hc', hfold⟩ := ih h
      refine ⟨s ++ (34 :: k ++ w ++ 58 :: w' ++ v) ++ t', e, none :: ms,
        .cons hs (.other hk (metricIndex_none hidx) hw hw' hv) hrest, he,
        by simpa using ((hkey.trans hcw).trans hcv).trans hc', by simpa using hfold⟩

/-- **What the nested metrics reader took**: blanks, then an array of six metric values or an
    object of members, whose metrics it gives. -/
theorem readMetrics_ok {m : Metrics} (h : readMetrics.run c = .ok m c') :
    ∃ w t, Blanks w ∧ NestedText c.depth t (some m) ∧ Consumed c c' (w ++ t) := by
  unfold readMetrics at h
  obtain ⟨o, c₁, h₁, h⟩ := run_bind_ok (positioned_run_ok h)
  obtain ⟨w, hc₁, hw, -, rfl⟩ := skipBlanks_ok h₁
  split at h
  · exact absurd h (Refused.run_ne_ok (failAhead_refused _))
  · -- an array: exactly six items, then the closing bracket
    next hb =>
    obtain ⟨hdep, c₂, h₂, h₃⟩ := within_ok h
    obtain ⟨e, he, hce⟩ := closeArray_ok h₃
    have hend : Ends c₂.rest := by
      rw [show c₂.rest = e ++ 93 :: c'.rest by simpa using hce.1]
      exact ends_blanks_before he (.inr (.inl rfl)) _
    obtain ⟨t, xs, hsep, hlen, hm, hct⟩ :=
      metricItems_ok 7 0 Metrics.absent (by rfl) (by omega) rfl h₂ hend
    obtain rfl : m = xs := by simpa using hm
    refine ⟨w, 91 :: (t ++ e ++ [93]), hw,
      .array (by rw [← hc₁.2]; exact hdep) hsep (by simpa using hlen) he, ?_⟩
    simpa using hc₁.trans (Consumed.within hdep hb hct hce)
  · -- an object: its members, then the closing brace
    next hb =>
    obtain ⟨hdep, c₂, h₂, h₃⟩ := within_ok (get_bind_run_ok h)
    obtain ⟨e', he', hce⟩ := closeObject_ok h₃
    have hend : Ends c₂.rest := by
      rw [show c₂.rest = e' ++ 125 :: c'.rest by simpa using hce.1]
      exact ends_blanks_before he' (.inr (.inr rfl)) _
    obtain ⟨t, e, ms, hsep, he, hct, hfold⟩ := metricMembers_ok _ h₂ hend
    have hm : metricsOf (ms.filterMap id) = some m := by
      rw [← metricState_snd, ← foldlM_absorbMetric]
      exact hfold
    refine ⟨w, 123 :: (t ++ (e ++ e') ++ [125]), hw,
      .object (by rw [← hc₁.2]; exact hdep) hsep (blanks_append.2 ⟨he, he'⟩) hm, ?_⟩
    simpa using hc₁.trans (Consumed.within hdep hb hct hce)
  · exact absurd h (Refused.run_ne_ok (wrongKind_refused _))

/-- **What `baseline_metrics` took**: blanks and its text. -/
theorem nested_ok {o : Option Metrics} (h : (readOption readMetrics).run c = .ok o c') :
    ∃ w t, Blanks w ∧ NestedText c.depth t o ∧ Consumed c c' (w ++ t) := by
  unfold readOption at h
  obtain ⟨p, c₁, h₁, h⟩ := run_bind_ok h
  obtain ⟨w, hc₁, hw, -, rfl⟩ := skipBlanks_ok h₁
  split at h
  · next hn =>
    obtain ⟨t, hn⟩ := List.head?_eq_some_iff.1 hn
    obtain ⟨rfl, hx⟩ := bump_keyword_ok hn h
    exact ⟨w, _, hw, .null, hc₁.trans hx⟩
  · obtain ⟨m, hm, rfl⟩ := run_map_ok h
    obtain ⟨w', t, hw', ht, hc⟩ := readMetrics_ok hm
    rw [hc₁.2] at ht
    exact ⟨w ++ w', t, blanks_append.2 ⟨hw, hw'⟩, ht, by simpa using hc₁.trans hc⟩

/-! ## 5. Every text of the nested metrics is read -/

/-- **A number with its sign is read as a double**, after blanks. -/
theorem readDouble_reads {w t : Bytes} {n : Number} (hw : Blanks w) (ht : SignedNumber t n)
    (hr : Ends rest) : Reads readDouble d (w ++ t) rest n.toFloat := by
  unfold readDouble
  refine Reads.positioned ?_
  rcases ht with ⟨hu, hval⟩ | ⟨u, rfl, hu, hval⟩
  · obtain ⟨b, t', rfl, hb⟩ := hu.head
    have hread : Reads (readNumber false) d (b :: t') rest n := by
      have h : Outcome (readNumber false) d (b :: t') rest (numberValue false (b :: t')) :=
        readNumber_outcome hu hr
      rwa [hval] at h
    refine (skipBlanks_upto hw (digit_not_blank hb)).bind ?_ rfl
    split
    · next heq => cases heq
    · next heq => exact absurd (Option.some.inj heq) (ne_of_digit hb rfl)
    · next heq =>
      obtain rfl := Option.some.inj heq
      rw [if_pos hb]
      exact (hread.bind (Reads.pure n.toFloat) rfl).congr (List.append_nil _)
  · have hread : Reads (readNumber true) d u rest n := by
      have h : Outcome (readNumber true) d u rest (numberValue true u) := readNumber_outcome hu hr
      rwa [hval] at h
    refine (skipBlanks_upto hw rfl).bind ((bump_reads 45).bind ?_ rfl) rfl
    exact (hread.bind (Reads.pure n.toFloat) rfl).congr (List.append_nil _)

/-- **A metric's value is read**, after blanks, before what ends a number. -/
theorem metricValue_reads {w t : Bytes} {x : Option Float} (hw : Blanks w) (ht : MetricText t x)
    (hr : Ends rest) : Reads metricValue d (w ++ t) rest x := by
  unfold metricValue readOption
  cases ht with
  | null =>
    refine (skipBlanks_upto hw rfl).bind ((bump_reads 110).bind ?_ rfl) rfl
    exact (keyword_reads [117, 108, 108]).bind (Reads.pure none) rfl
  | number hn =>
    obtain ⟨b, t', rfl, hbl, h110, -⟩ := hn.head
    refine (skipBlanks_upto hw hbl).bind ?_ rfl
    split
    · next heq => exact absurd (Option.some.inj heq) h110
    · exact (readDouble_reads blanks_nil hn hr).map some

/-- **The items of a metrics array from item `i` to the sixth are read**, given fuel for each
    and one more, each metric value put into its entry. -/
theorem metricItems_reads : ∀ (fuel i : Nat) (m : Metrics) {t : Bytes} {xs : Metrics},
    Separated MetricText (i == 0) t xs → i + xs.length = 6 → 6 - i < fuel → m.length = 6 →
      Ends rest → Reads (metricItems fuel i m) d t rest (m.take i ++ xs)
  | 0, i, m, t, xs, _, _, hfuel, _, _ => absurd hfuel (Nat.not_lt_zero _)
  | fuel + 1, i, m, t, xs, hsep, hlen, hfuel, hm, hr => by
    simp only [metricItems]
    by_cases hi : i ≥ 6
    · -- the sixth item was the last
      rw [if_pos hi]
      obtain rfl : xs = [] := List.eq_nil_of_length_eq_zero (by omega)
      cases hsep
      have htake : m.take i = m := List.take_of_length_le (by omega)
      rw [htake, List.append_nil]
      exact Reads.pure m
    · rw [if_neg hi]
      cases hsep with
      | nil => simp at hlen; omega
      | @cons _ s u r x xs hs hx hrest =>
        obtain ⟨b, u', rfl, hbl, h93⟩ := hx.head
        have hitem : Reads (element (i == 0) metricValue) d (s ++ b :: u') (r ++ rest) (some x) := by
          unfold element
          exact (nextItem_sep hs h93 hbl).bind
            ((metricValue_reads blanks_nil hx (hrest.ends_after hr)).map some) rfl
        have hrest' : Separated MetricText (i + 1 == 0) r xs := by simpa using hrest
        have hnext := metricItems_reads fuel (i + 1) (m.put i x) hrest' (by simp at hlen; omega)
          (by omega) (by simp [Metrics.put, hm]) hr
        rw [show m.take i ++ x :: xs = (m.put i x).take (i + 1) ++ xs by
          simp [Metrics.put, take_set_succ m x (by omega : i < m.length)]]
        exact hitem.bind hnext rfl

/-- **The members of a metrics object are read**, given fuel for each of their bytes, up to the
    closing brace: the metrics are what their metrics, folded through the metric step, make of
    those read before. -/
theorem metricMembers_reads {first : Bool} {t : Bytes} {ms : List (Option (String × Option Float))}
    (ht : Separated MetricMemberText first t ms) :
    ∀ {fuel : Nat} {seen : List Bool} {m r : Metrics} {e : Bytes}, t.length < fuel → Blanks e →
      ((ms.filterMap id).foldlM absorbMetric (seen, m)).map Prod.snd = some r →
      Reads (metricMembers fuel first seen m) d (t ++ e) (125 :: rest) r := by
  induction ht with
  | nil =>
    intro fuel seen m r e hlen he hfold
    obtain ⟨fuel, rfl⟩ : ∃ f, fuel = f + 1 := ⟨fuel - 1, by simp at hlen; omega⟩
    obtain rfl : r = m := by simpa using hfold.symm
    simp only [metricMembers, List.nil_append]
    exact nextKey_close_reads he
  | @cons first s tm r' mm ms hs hm hrest ih =>
    intro fuel seen m r e hlen he hfold
    obtain ⟨fuel, rfl⟩ : ∃ f, fuel = f + 1 := ⟨fuel - 1, by simp at hlen; omega⟩
    have hends : Ends (r' ++ (e ++ 125 :: rest)) :=
      hrest.ends_after (ends_blanks_before he (.inr (.inr rfl)) rest)
    simp only [metricMembers]
    cases hm with
    | @metric k w w' tv name x hk hname hw hw' hx =>
      obtain ⟨i, hidx⟩ := Option.isSome_iff_exists.1 (metricIndex_isSome.2 hname)
      have hstep : absorbMetric (seen, m) (name, x) =
          if seen.getD i false then none else some (seen.set i true, m.put i x) := by
        simp only [absorbMetric, hidx]
      cases hseen : seen.getD i false with
      | true =>
        -- named before: the fold refuses it
        rw [hseen] at hstep
        simp [List.foldlM_cons, hstep] at hfold
      | false =>
        rw [hseen] at hstep
        simp only [List.length_append, List.length_cons] at hlen
        rw [show s ++ (34 :: k ++ w ++ 58 :: w' ++ tv) ++ r' ++ e =
          s ++ ((34 :: k) ++ ((w ++ [58]) ++ ((w' ++ tv) ++ (r' ++ e)))) by simp]
        refine nextKey_member_reads hs hk ?_
        simp only [hidx, hseen, Bool.false_eq_true, if_false]
        refine (colon_after hw).bind ?_ rfl
        refine (metricValue_reads hw' hx hends).bind ?_ (List.append_assoc _ _ _).symm
        exact ih (by omega) he (by simpa [List.foldlM_cons, hstep] using hfold)
    | @other k w w' v name hk hname hw hw' hv =>
      have hidx : metricIndex name = none := by
        cases h : metricIndex name with
        | none => rfl
        | some i => exact absurd (metricIndex_isSome.1 (by simp [h])) hname
      simp only [List.length_append, List.length_cons] at hlen
      rw [show s ++ (34 :: k ++ w ++ 58 :: w' ++ v) ++ r' ++ e =
        s ++ ((34 :: k) ++ ((w ++ [58]) ++ ((w' ++ v) ++ (r' ++ e)))) by simp]
      refine nextKey_member_reads hs hk ?_
      simp only [hidx]
      refine (colon_after hw).bind ?_ rfl
      refine (skipValue_reads hw' hv hends).bind ?_ (List.append_assoc _ _ _).symm
      exact ih (by omega) he (by simpa using hfold)

/-- **The nested metrics are read** from an array or an object's text, after blanks. -/
theorem readMetrics_reads {n : Nat} {w t : Bytes} {m : Metrics} (hw : Blanks w)
    (ht : NestedText n t (some m)) : Reads readMetrics n (w ++ t) rest m := by
  unfold readMetrics
  refine Reads.positioned ?_
  cases ht with
  | @array r e _ hd hsep hlen he =>
    have hitems : Reads (metricItems 7 0 Metrics.absent) (n - 1) r ((e ++ [93]) ++ rest) m := by
      have h := metricItems_reads (d := n - 1) 7 0 Metrics.absent (by simpa using hsep)
        (by simpa using hlen) (by omega) rfl
        (by simpa using ends_blanks_before he (.inr (.inl rfl)) rest)
      simpa using h
    rw [show r ++ e ++ [93] = r ++ (e ++ [93]) by simp]
    refine (skipBlanks_upto hw rfl).bind ?_ rfl
    exact within_reads 91 hd hitems (closeArray_after he)
  | @object r e ms _ hd hsep he hm =>
    refine (skipBlanks_upto hw rfl).bind ?_ rfl
    refine Reads.get_bind fun c hc => ?_
    have hfold : ((ms.filterMap id).foldlM absorbMetric
        ([false, false, false, false, false, false], Metrics.absent)).map Prod.snd = some m := by
      rw [show ([false, false, false, false, false, false], Metrics.absent) = metricStart from rfl,
        foldlM_absorbMetric, metricState_snd, hm]
    have hlen : r.length < c.rest.length + 1 := by
      rw [hc]
      simp
      omega
    exact within_reads 123 hd (metricMembers_reads hsep hlen he hfold) closeObject_reads

/-- **`baseline_metrics` is read** from its text, after blanks. -/
theorem nested_reads {n : Nat} {w t : Bytes} {o : Option Metrics} (hw : Blanks w)
    (ht : NestedText n t o) : Reads (readOption readMetrics) n (w ++ t) rest o := by
  unfold readOption
  cases o with
  | none =>
    cases ht
    refine (skipBlanks_upto hw rfl).bind ((bump_reads 110).bind ?_ rfl) rfl
    exact (keyword_reads [117, 108, 108]).bind (Reads.pure none) rfl
  | some m =>
    have hhead : ∃ b t', t = b :: t' ∧ (b = 91 ∨ b = 123) := by
      cases ht with
      | array => exact ⟨91, _, rfl, .inl rfl⟩
      | object => exact ⟨123, _, rfl, .inr rfl⟩
    obtain ⟨b, t', rfl, hb⟩ := hhead
    have hbl : isBlankByte b = false := by rcases hb with rfl | rfl <;> rfl
    refine (skipBlanks_upto hw hbl).bind ?_ rfl
    split
    · next heq => rcases hb with rfl | rfl <;> cases heq
    · exact (readMetrics_reads blanks_nil ht).map some

/-! ## 6. The top-level metrics -/

/-- **One kept member through the top-level metric reader**: a metric named before is refused,
    one named for the first time must hold a metric; any other member changes nothing. -/
def absorbContent (st : List Bool × Metrics) (x : String × Content) :
    Option (List Bool × Metrics) :=
  match metricIndex x.1 with
  | some i =>
    if st.1.getD i false then none
    else x.2.metric?.map fun v => (st.1.set i true, st.2.put i v)
  | none => some st

/-- **The kept members through the top-level step** are their metrics through the metric
    step. -/
theorem foldlM_absorbContent : ∀ (others : List (String × Content)) (st : List Bool × Metrics),
    others.foldlM absorbContent st =
      (metricEntries others).bind fun xs => xs.foldlM absorbMetric st
  | [], st => rfl
  | (k, v) :: others, st => by
    rw [List.foldlM_cons]
    cases hidx : metricIndex k with
    | none =>
      -- not a metric: dropped on both sides
      have hk := metricIndex_none hidx
      have he : metricEntries ((k, v) :: others) = metricEntries others := by
        simp [metricEntries, hk]
      simp only [absorbContent, hidx, he]
      exact foldlM_absorbContent others st
    | some i =>
      have hk : k ∈ metricNames := metricIndex_isSome.1 (by simp [hidx])
      have he : metricEntries ((k, v) :: others) =
          v.metric?.bind fun x => (metricEntries others).map ((k, x) :: ·) := by
        simp only [metricEntries, List.filter_cons, hk, decide_true, if_true, List.mapM_cons]
        cases v.metric? <;> cases (others.filter fun m => m.1 ∈ metricNames).mapM
          (fun m => m.2.metric?.map (m.1, ·)) <;> rfl
      rw [he]
      cases hv : v.metric? with
      | none => simp [absorbContent, hidx, hv]
      | some x =>
        have hstep : absorbContent st (k, v) = absorbMetric st (k, x) := by
          simp [absorbContent, absorbMetric, hidx, hv]
        rw [hstep]
        cases hm : metricEntries others with
        | none => cases absorbMetric st (k, x) <;> simp [foldlM_absorbContent others, hm]
        | some xs => simp [foldlM_absorbContent others, hm, List.foldlM_cons]

/-- The top-level step over the kept members gives `topMetrics`. -/
theorem foldlM_absorbContent_start (others : List (String × Content)) :
    (others.foldlM absorbContent metricStart).map Prod.snd = topMetrics others := by
  rw [foldlM_absorbContent, topMetrics]
  cases metricEntries others with
  | none => rfl
  | some xs => simp [foldlM_absorbMetric, metricState_snd]

/-- A kept member's value as a metric. -/
theorem metricOfContent_outcome (v : Content) :
    Outcome (metricOfContent v) d [] rest v.metric? := by
  cases v with
  | null => exact Reads.pure none
  | number n => exact Reads.pure _
  | bool _ | str _ | seq _ | map _ => exact (failShape_refused _).fails

/-- **The top-level metrics are read as `topMetrics` says**, from the kept members. -/
theorem inlineMetrics_outcome (others : List (String × Content)) :
    Outcome (inlineMetrics others) d [] rest (topMetrics others) := by
  rw [← foldlM_absorbContent_start]
  unfold inlineMetrics
  dsimp only
  change Outcome (forIn _ metricStart _ >>= _) d [] rest _
  -- the loop, from any record of the members before
  generalize metricStart = st
  induction others generalizing st with
  | nil => exact Reads.pure st.2
  | cons x xs ih =>
    obtain ⟨k, v⟩ := x
    rw [List.forIn_cons, bind_assoc, List.foldlM_cons]
    have e : Option.map Prod.snd (absorbContent st (k, v) >>= fun s => xs.foldlM absorbContent s) =
        ((absorbContent st (k, v)).map ForInStep.yield).bind fun a =>
          (xs.foldlM absorbContent a.value).map Prod.snd := by
      cases absorbContent st (k, v) <;> rfl
    rw [e]
    refine Outcome.bind_look ?_ (fun a ha => ?_) rfl
    · -- the member through the step
      dsimp only
      cases hidx : metricIndex k with
      | none =>
        simp only [absorbContent, hidx, Option.map_some]
        exact Reads.pure _
      | some i =>
        cases hseen : st.1.getD i false with
        | true =>
          simp only [absorbContent, hidx, hseen, if_true, Option.map_none]
          exact (failShape_refused _).bind.fails
        | false =>
          have e2 : (absorbContent st (k, v)).map ForInStep.yield =
              v.metric?.bind fun x => some (.yield (st.1.set i true, st.2.put i x)) := by
            simp only [absorbContent, hidx, hseen]
            cases v.metric? <;> rfl
          dsimp only
          rw [e2, hseen, if_neg Bool.false_ne_true]
          refine Outcome.bind_look (metricOfContent_outcome v) (fun x _ => ?_) rfl
          exact Reads.pure _
    · obtain ⟨st', -, rfl⟩ := Option.map_eq_some_iff.1 ha
      exact ih st'

end SmartHelmet
