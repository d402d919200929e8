import SmartHelmet.Proofs.Status.Metrics
/-!
# The status a reply body gives

A status reply is one JSON object between blanks, and the reader takes its members one by one:
the flag `onboarded`, once, with a boolean; `baseline_metrics`, at most once, with a text
`NestedText` describes; and every other member kept whole, as `KeptText` describes, with the 127
levels of nesting the reply object leaves. After the closing brace, the status is made from the
flag, the nested metrics and the metrics among the kept members. This module writes out the
texts of a reply and proves that the reader accepts them, with their status, and nothing else:

* `ReplyMember`, `statusWith`, `replyStatus` — a member as the reader takes it; the status of a
  flag and the metrics; the status the members of a reply give, declaratively;
* `ReplyValue`, `ReplyMemberText`, `ReplyText` — the text of a member's value by its name, of a
  member, and of a whole body with its status;
* `absorbReply`, `replyState`, `foldlM_absorbReply` — the step the member reader takes per
  member, and that the members folded through it give `replyState`;
* `replyMember_ok`, `replyMembers_ok`, `readStatus_ok` — a success took these texts;
* `replyMember_reads`, `replyMembers_reads`, `readStatus_reads` — and they are read;
* `ofBody_eq_ok_iff_replyText` — **a body gives a status exactly when it is the text of a reply
  with that status**;
* `deepText_fails`, `deep_member_refused` — a reply whose kept member opens as many arrays as the
  object leaves levels is refused: the document may nest 127 containers, not 128.
-/

namespace SmartHelmet

open Json

variable {c c' : Cursor} {d : Nat} {rest : Bytes}

/-! ## 1. What the members say -/

/-- A member of a reply object as the reply reader takes it: the flag, the nested metrics, or
    any other member, kept whole. -/
inductive ReplyMember where
  | onboarded (b : Bool)
  | nested (m : Option Metrics)
  | other (name : String) (v : Content)

/-- The flag a member gives. -/
@[simp] def ReplyMember.flag? : ReplyMember → Option Bool
  | .onboarded b => some b
  | .nested _ => none
  | .other _ _ => none

/-- The nested metrics a member gives. -/
@[simp] def ReplyMember.nested? : ReplyMember → Option (Option Metrics)
  | .onboarded _ => none
  | .nested m => some m
  | .other _ _ => none

/-- The member kept, with its name. -/
@[simp] def ReplyMember.kept? : ReplyMember → Option (String × Content)
  | .onboarded _ => none
  | .nested _ => none
  | .other name v => some (name, v)

/-- **The status of a flag and the metrics of a reply**: the nested metrics are chosen when they
    hold a number, the top-level ones otherwise; the device has a baseline when it is onboarded
    and the chosen metrics hold a number, absent ones reading as zero. -/
def statusWith (b : Bool) (nested : Option (Option Metrics)) (top : Metrics) : DeviceStatus :=
  let chosen := match nested with
    | some (some m) => if m.empty then top else m
    | _ => top
  ⟨b, if b && !chosen.empty then some chosen.baseline else none⟩

/-- **The status the members of a reply give**, or `none` when the reply is refused: the flag
    exactly once, the nested metrics at most once, and the metrics among the kept members as
    `topMetrics` says. -/
def replyStatus (ms : List ReplyMember) : Option DeviceStatus :=
  match ms.filterMap ReplyMember.flag?, ms.filterMap ReplyMember.nested? with
  | [b], nested =>
    if nested.length ≤ 1 then
      (topMetrics (ms.filterMap ReplyMember.kept?)).map (statusWith b nested.head?)
    else none
  | _, _ => none

/-! ## 2. The texts -/

/-- **The value of a reply member named `name`**, with `n` levels of nesting left: a boolean for
    the flag, the nested metrics' text for `baseline_metrics`, and for any other name a value
    kept whole. -/
inductive ReplyValue (n : Nat) : String → Bytes → ReplyMember → Prop
  | onboarded (b : Bool) : ReplyValue n "onboarded" (boolBytes b) (.onboarded b)
  | nested {t : Bytes} {m : Option Metrics} : NestedText n t m →
      ReplyValue n "baseline_metrics" t (.nested m)
  | other {name : String} {t : Bytes} {v : Content} : name ≠ "onboarded" →
      name ≠ "baseline_metrics" → KeptText n t v → ReplyValue n name t (.other name v)

/-- **The text of a reply member**: a quoted key, blanks, the colon, blanks and the value its
    name calls for. -/
inductive ReplyMemberText (n : Nat) : Bytes → ReplyMember → Prop
  | mk {k w w' t : Bytes} {name : String} {x : ReplyMember} : KeyString k name → Blanks w →
      Blanks w' → ReplyValue n name t x → ReplyMemberText n (34 :: k ++ w ++ 58 :: w' ++ t) x

/-- **The text of a reply body with its status**: blanks, an object whose members, with the 127
    levels of nesting the object leaves, give that status, and blanks. -/
def ReplyText (bs : Bytes) (s : DeviceStatus) : Prop :=
  ∃ w t e w' ms, bs = w ++ 123 :: (t ++ e ++ 125 :: w') ∧ Blanks w ∧ Blanks e ∧ Blanks w' ∧
    Separated (ReplyMemberText 127) true t ms ∧ replyStatus ms = some s

/-! ## 3. The member step -/

/-- **One member through the reply reader**: the flag and the nested metrics are each refused
    when met before; any other member is kept. -/
def absorbReply (r : Reply) : ReplyMember → Option Reply
  | .onboarded b => if r.onboarded.isSome then none else some { r with onboarded := some b }
  | .nested m => if r.nested.isSome then none else some { r with nested := some m }
  | .other name v => some { r with others := r.others ++ [(name, v)] }

/-- What the reply reader holds after some members: their flag and nested metrics, each met at
    most once, and the members kept. -/
def replyState (ms : List ReplyMember) : Option Reply :=
  let flags := ms.filterMap ReplyMember.flag?
  let nested := ms.filterMap ReplyMember.nested?
  if flags.length ≤ 1 ∧ nested.length ≤ 1 then
    some { onboarded := flags.head?
           nested := nested.head?
           others := ms.filterMap ReplyMember.kept? }
  else none

/-- The status a finished reply record gives: the flag must be there, and the top-level metrics
    are read from the kept members. -/
def Reply.status? (r : Reply) : Option DeviceStatus :=
  r.onboarded.bind fun b => (topMetrics r.others).map (statusWith b r.nested)

theorem replyState_nil : replyState [] = some {} := rfl

/-- A list met at most once, then once more: at most once exactly when it was empty. -/
theorem atMostOnce_append {α : Type} (l : List α) (a : α) :
    (l ++ [a]).length ≤ 1 ↔ l = [] := by
  cases l <;> simp

/-- **The member step keeps the reader's record**: after one more member, what the step makes of
    the record of the members before is the record of them all. -/
theorem replyState_append (ms : List ReplyMember) (x : ReplyMember) :
    (replyState ms).bind (absorbReply · x) = replyState (ms ++ [x]) := by
  unfold replyState
  simp only [List.filterMap_append]
  generalize hf : ms.filterMap ReplyMember.flag? = flags
  generalize hn : ms.filterMap ReplyMember.nested? = nested
  -- the member adds to one of the three lists, and the step checks the list it adds to
  cases x with
  | onboarded b =>
    by_cases hl : flags.length ≤ 1 ∧ nested.length ≤ 1
    · rcases flags with _ | ⟨a, _ | ⟨a', flags⟩⟩
      · simp [hl, absorbReply, List.filterMap_cons]
      · simp [absorbReply]
      · simp at hl
    · rw [if_neg hl, Option.bind_none, if_neg]
      simp only [ReplyMember.flag?, ReplyMember.nested?, List.filterMap_cons,
        List.filterMap_nil, List.append_nil, atMostOnce_append]
      rintro ⟨rfl, hn'⟩
      exact hl ⟨by simp, hn'⟩
  | nested m =>
    by_cases hl : flags.length ≤ 1 ∧ nested.length ≤ 1
    · rcases nested with _ | ⟨a, _ | ⟨a', nested⟩⟩
      · simp [hl, absorbReply, List.filterMap_cons]
      · simp [absorbReply]
      · simp at hl
    · rw [if_neg hl, Option.bind_none, if_neg]
      simp only [ReplyMember.flag?, ReplyMember.nested?, List.filterMap_cons,
        List.filterMap_nil, List.append_nil, atMostOnce_append]
      rintro ⟨hf', rfl⟩
      exact hl ⟨hf', by simp⟩
  | other name v =>
    simp only [ReplyMember.flag?, ReplyMember.nested?, ReplyMember.kept?, List.filterMap_cons,
      List.filterMap_nil, List.append_nil]
    split <;> simp [absorbReply]

/-- **The member step over all members gives `replyState`.** -/
theorem foldlM_absorbReply (ms : List ReplyMember) : ms.foldlM absorbReply {} = replyState ms := by
  have h := foldlM_eq_of_snoc replyState_append ms []
  rwa [replyState_nil, Option.bind_some, List.nil_append] at h

/-- **The status is what the reader's record gives.** -/
theorem replyStatus_eq_bind (ms : List ReplyMember) :
    replyStatus ms = (replyState ms).bind Reply.status? := by
  unfold replyStatus replyState Reply.status?
  generalize ms.filterMap ReplyMember.flag? = flags
  generalize ms.filterMap ReplyMember.nested? = nested
  rcases flags with _ | ⟨b, _ | ⟨b', flags⟩⟩ <;> by_cases hn : nested.length ≤ 1 <;> simp [hn]

/-! ## 4. What a success took -/

/-- **The status of a finished reply record** is read as `Reply.status?` says, reading nothing. -/
theorem Reply.status_outcome (r : Reply) : Outcome r.status d [] rest r.status? := by
  unfold Reply.status Reply.status?
  cases r.onboarded with
  | none => exact (failShape_refused _).bind.fails
  | some b =>
    dsimp only
    refine Outcome.look_bind (Reads.pure b) ?_ rfl
    have e : ((some b).bind fun b => (topMetrics r.others).map (statusWith b r.nested)) =
        (topMetrics r.others).bind fun top => some (statusWith b r.nested top) := by
      cases topMetrics r.others <;> rfl
    rw [e]
    refine Outcome.bind_look (inlineMetrics_outcome r.others) (fun top _ => ?_) rfl
    exact Reads.pure _

/-- **What one member's value took**, after its key: blanks, the colon, blanks and the value its
    name calls for, which the member step takes into the record. -/
theorem replyMember_ok {fuel : Nat} {key : String} {r r' : Reply}
    (h : (replyMember fuel key r).run c = .ok r' c') (hend : Ends c'.rest) :
    ∃ w w' t x, Blanks w ∧ Blanks w' ∧ ReplyValue c.depth key t x ∧
      Consumed c c' (w ++ 58 :: w' ++ t) ∧ absorbReply r x = some r' := by
  unfold replyMember at h
  by_cases hon : (key == "onboarded") = true
  · -- the flag, met for the first time, then a boolean
    rw [if_pos hon] at h
    cases beq_iff_eq.1 hon
    by_cases hseen : r.onboarded.isSome = true
    · rw [if_pos hseen] at h
      exact absurd h (Refused.run_ne_ok (failShape_refused _).bind)
    rw [if_neg hseen] at h
    obtain ⟨_, c₁, h₁, h⟩ := run_bind_ok h
    obtain ⟨w, hw, hcw⟩ := colon_ok h₁
    obtain ⟨b, c₂, h₂, h⟩ := run_bind_ok h
    obtain ⟨w', hw', hcb⟩ := readBool_ok h₂
    obtain ⟨rfl, rfl⟩ := run_pure_ok h
    exact ⟨w, w', _, _, hw, hw', .onboarded b, by simpa using hcw.trans hcb,
      by simp [absorbReply, hseen]⟩
  rw [if_neg hon] at h
  by_cases hnest : (key == "baseline_metrics") = true
  · -- the nested metrics, met for the first time
    rw [if_pos hnest] at h
    cases beq_iff_eq.1 hnest
    by_cases hseen : r.nested.isSome = true
    · rw [if_pos hseen] at h
      exact absurd h (Refused.run_ne_ok (failShape_refused _).bind)
    rw [if_neg hseen] at h
    obtain ⟨_, c₁, h₁, h⟩ := run_bind_ok h
    obtain ⟨w, hw, hcw⟩ := colon_ok h₁
    obtain ⟨m, c₂, h₂, h⟩ := run_bind_ok h
    obtain ⟨w', t, hw', ht, hct⟩ := nested_ok h₂
    obtain ⟨rfl, rfl⟩ := run_pure_ok h
    rw [hcw.2] at ht
    exact ⟨w, w', t, _, hw, hw', .nested ht, by simpa using hcw.trans hct,
      by simp [absorbReply, hseen]⟩
  -- any other member, kept whole
  rw [if_neg hnest] at h
  obtain ⟨_, c₁, h₁, h⟩ := run_bind_ok h
  obtain ⟨w, hw, hcw⟩ := colon_ok h₁
  obtain ⟨v, c₂, h₂, h⟩ := run_bind_ok h
  obtain ⟨rfl, rfl⟩ := run_pure_ok h
  obtain ⟨w', t, hw', ht, hct⟩ := readContent_ok h₂ hend
  rw [hcw.2] at ht
  exact ⟨w, w', t, _, hw, hw', .other (by simpa using hon) (by simpa using hnest) ht,
    by simpa using hcw.trans hct, rfl⟩

/-- The members after a member of the reply are read up to what ends a number: so is the member
    before them. -/
theorem replyMembers_ends {fuel : Nat} {r r' : Reply}
    (h : (replyMembers fuel false r).run c = .ok r' c') (hend : Ends c'.rest) : Ends c.rest := by
  cases fuel with
  | zero =>
    simp only [replyMembers] at h
    obtain ⟨-, rfl⟩ := run_pure_ok h
    exact hend
  | succ fuel =>
    simp only [replyMembers] at h
    exact nextKey_bind_ends h hend

/-- **What the members of the reply took**: members, each after its separator, then the blanks
    before the closing brace; the record is what the members, folded through the member step,
    make of the one before. -/
theorem replyMembers_ok (fuel : Nat) {first : Bool} {r r' : Reply}
    (h : (replyMembers fuel first r).run c = .ok r' c') (hend : Ends c'.rest) :
    ∃ t e ms, Separated (ReplyMemberText c.depth) first t ms ∧ Blanks e ∧
      Consumed c c' (t ++ e) ∧ ms.foldlM absorbReply r = some r' := by
  induction fuel generalizing first r c with
  | zero =>
    simp only [replyMembers] at h
    obtain ⟨rfl, rfl⟩ := run_pure_ok h
    exact ⟨[], [], [], .nil, blanks_nil, Consumed.nil, rfl⟩
  | succ fuel ih =>
    simp only [replyMembers] at h
    rcases nextKey_member_ok h with ⟨rfl, s, hs, hcs⟩ | ⟨s, k, key, c₂, hs, hk, hkey, h⟩
    · -- the closing brace
      exact ⟨[], s, [], .nil, hs, by simpa using hcs, rfl⟩
    obtain ⟨r₁, c₃, h₃, h⟩ := run_bind_ok h
    obtain ⟨w, w', t, x, hw, hw', hv, hcv, hstep⟩ := replyMember_ok h₃ (replyMembers_ends h hend)
    obtain ⟨t', e, ms, hrest, he, hc', hfold⟩ := ih h
    have hpre := hkey.trans hcv
    rw [hkey.2] at hv
    rw [hpre.2] at hrest
    refine ⟨s ++ (34 :: k ++ w ++ 58 :: w' ++ t) ++ t', e, x :: ms,
      .cons hs (.mk hk hw hw' hv) hrest, he, by simpa using hpre.trans hc', ?_⟩
    rw [List.foldlM_cons, hstep]
    exact hfold

/-- **What the reply reader took**: blanks, then an object whose members, a level down, give the
    status read. -/
theorem readStatus_ok {s : DeviceStatus} (h : readStatus.run c = .ok s c') :
    ∃ w t e ms, Blanks w ∧ Blanks e ∧ Separated (ReplyMemberText (c.depth - 1)) true t ms ∧
      replyStatus ms = some s ∧ Consumed c c' (w ++ 123 :: (t ++ e ++ [125])) := by
  unfold readStatus at h
  obtain ⟨o, c₁, h₁, h⟩ := run_bind_ok (positioned_run_ok h)
  obtain ⟨w, hc₁, hw, -, rfl⟩ := skipBlanks_ok h₁
  split at h
  · exact absurd h (Refused.run_ne_ok (failAhead_refused _))
  · next hb =>
    obtain ⟨hdep, c₂, h₂, h₃⟩ := within_ok (get_bind_run_ok h)
    obtain ⟨e', he', hce⟩ := closeObject_ok h₃
    obtain ⟨r, c₄, h₄, h₅⟩ := run_bind_ok h₂
    -- the status reads nothing: what follows the members is what closes the object
    obtain ⟨hs, hc₅⟩ := (Reply.status_outcome r).run_ok (List.nil_append _).symm rfl h₅
    have hend : Ends c₄.rest := by
      have hrest : c₂.rest = e' ++ 125 :: c'.rest := by simpa using hce.1
      rw [hc₅.1, List.nil_append, hrest]
      exact ends_blanks_before he' (.inr (.inr rfl)) _
    obtain ⟨t, e, ms, ht, he, hct, hfold⟩ := replyMembers_ok _ h₄ hend
    rw [foldlM_absorbReply] at hfold
    simp only [Cursor.bump_depth, hc₁.2] at ht hdep
    refine ⟨w, t, e ++ e', ms, hw, blanks_append.2 ⟨he, he'⟩, ht, ?_, ?_⟩
    · rw [replyStatus_eq_bind, hfold]
      exact hs
    · have hcon := Consumed.within (by simpa [hc₁.2] using hdep) hb (hct.trans hc₅) hce
      simpa using hc₁.trans hcon
  · exact absurd h (Refused.run_ne_ok (wrongKind_refused _))

/-- **What a body's success took**: the text of a reply with the status read. -/
theorem replyBody_ok {bs : Bytes} {s : DeviceStatus}
    (h : (do let s ← readStatus; finish; pure s : Reader DeviceStatus).run' bs = .ok s) :
    ReplyText bs s := by
  obtain ⟨c', hrun⟩ := run'_ok h
  obtain ⟨s', c₁, h₁, h⟩ := run_bind_ok hrun
  obtain ⟨_, c₂, h₂, h⟩ := run_bind_ok h
  obtain ⟨rfl, rfl⟩ := run_pure_ok h
  obtain ⟨w, t, e, ms, hw, he, ht, hs, hc⟩ := readStatus_ok h₁
  exact ⟨w, t, e, c₁.rest, ms, by simpa [Cursor.start] using hc.1, hw, he, finish_ok h₂,
    by simpa [Cursor.start] using ht, hs⟩

/-! ## 5. Every reply text is read -/

/-- **One member's value is read**, after its key, with fuel for each of its bytes: the record
    becomes what the member step makes of it. -/
theorem replyMember_reads {fuel : Nat} {key : String} {w w' t : Bytes} {x : ReplyMember}
    {r r' : Reply} (hv : ReplyValue d key t x) (hw : Blanks w) (hw' : Blanks w')
    (hstep : absorbReply r x = some r') (hlen : t.length ≤ fuel) (hr : Ends rest) :
    Reads (replyMember fuel key r) d (w ++ 58 :: w' ++ t) rest r' := by
  unfold replyMember
  rw [show w ++ 58 :: w' ++ t = (w ++ [58]) ++ ((w' ++ t) ++ []) by simp]
  cases hv with
  | onboarded b =>
    cases hseen : r.onboarded.isSome with
    | true => simp [absorbReply, hseen] at hstep
    | false =>
      simp only [absorbReply, hseen, Bool.false_eq_true, if_false, Option.some.injEq] at hstep
      subst hstep
      simp only [beq_self_eq_true, if_true, Bool.false_eq_true, if_false]
      exact (colon_after hw).bind ((readBool_after hw' b).bind (Reads.pure _) rfl) rfl
  | @nested t m ht =>
    cases hseen : r.nested.isSome with
    | true => simp [absorbReply, hseen] at hstep
    | false =>
      simp only [absorbReply, hseen, Bool.false_eq_true, if_false, Option.some.injEq] at hstep
      subst hstep
      have hne : ("baseline_metrics" == "onboarded") = false := by decide
      simp only [hne, beq_self_eq_true, if_true, Bool.false_eq_true, if_false]
      exact (colon_after hw).bind ((nested_reads hw' ht).bind (Reads.pure _) rfl) rfl
  | @other name t v hon hnest ht =>
    simp only [absorbReply, Option.some.injEq] at hstep
    subst hstep
    simp only [beq_false_of_ne hon, beq_false_of_ne hnest, Bool.false_eq_true, if_false]
    exact (colon_after hw).bind ((readContent_reads hw' ht hlen hr).bind (Reads.pure _) rfl) rfl

/-- **The members of the reply are read**, given fuel for each of their bytes, up to the closing
    brace: the record is what the members, folded through the member step, make of the one
    before. -/
theorem replyMembers_reads {n : Nat} {first : Bool} {t : Bytes} {ms : List ReplyMember}
    (ht : Separated (ReplyMemberText n) first t ms) :
    ∀ {fuel : Nat} {r r' : Reply} {e : Bytes}, t.length < fuel → Blanks e →
      ms.foldlM absorbReply r = some r' →
      Reads (replyMembers fuel first r) n (t ++ e) (125 :: rest) r' := by
  induction ht with
  | nil =>
    intro fuel r r' e hlen he hfold
    obtain ⟨fuel, rfl⟩ : ∃ f, fuel = f + 1 := ⟨fuel - 1, by simp at hlen; omega⟩
    obtain rfl : r' = r := by simpa using hfold.symm
    simp only [replyMembers, List.nil_append]
    exact nextKey_close_reads he
  | @cons first s tm t' x ms hs hm hrest ih =>
    intro fuel r r' e hlen he hfold
    obtain ⟨fuel, rfl⟩ : ∃ f, fuel = f + 1 := ⟨fuel - 1, by simp at hlen; omega⟩
    rw [List.foldlM_cons] at hfold
    obtain ⟨r₁, hstep, hfold⟩ := Option.bind_eq_some_iff.1 hfold
    cases hm with
    | @mk k w w' tv name _ hk hw hw' hv =>
      simp only [List.length_append, List.length_cons] at hlen
      -- the value, before the separator of the next member or the closing brace
      have hends : Ends (t' ++ (e ++ 125 :: rest)) :=
        hrest.ends_after (ends_blanks_before he (.inr (.inr rfl)) rest)
      rw [show s ++ (34 :: k ++ w ++ 58 :: w' ++ tv) ++ t' ++ e =
        s ++ ((34 :: k) ++ ((w ++ 58 :: w' ++ tv) ++ (t' ++ e))) by simp]
      simp only [replyMembers]
      refine nextKey_member_reads hs hk ((replyMember_reads hv hw hw' hstep (by omega) hends).bind ?_
        (List.append_assoc _ _ _).symm)
      exact ih (by omega) he hfold

/-- **The text of a reply object is read**, after blanks, with its status. -/
theorem readStatus_reads {w t e : Bytes} {ms : List ReplyMember} {s : DeviceStatus}
    (hw : Blanks w) (he : Blanks e) (ht : Separated (ReplyMemberText 127) true t ms)
    (hs : replyStatus ms = some s) :
    Reads readStatus 128 (w ++ 123 :: (t ++ e ++ [125])) rest s := by
  rw [replyStatus_eq_bind] at hs
  obtain ⟨r, hr, hrs⟩ := Option.bind_eq_some_iff.1 hs
  unfold readStatus
  refine Reads.positioned ?_
  refine (skipBlanks_upto hw rfl).bind ?_ rfl
  refine Reads.get_bind fun c hc => ?_
  -- fuel for every member, and the status after them
  have hlen : t.length < 2 * c.rest.length + 2 := by
    rw [hc]
    simp
    omega
  have hstatus : Reads r.status 127 [] ([125] ++ rest) s := by
    have h : Outcome r.status 127 [] ([125] ++ rest) r.status? := Reply.status_outcome r
    rwa [hrs] at h
  have hbody := ((replyMembers_reads ht hlen he ((foldlM_absorbReply ms).trans hr)).bind
    hstatus rfl).congr (List.append_nil _)
  exact within_reads 123 (by decide) hbody closeObject_reads

/-- **A reply's text is read** with its status, and nothing follows it but blanks. -/
theorem replyBody_reads {bs : Bytes} {s : DeviceStatus} (h : ReplyText bs s) :
    Reads (do let s ← readStatus; finish; pure s : Reader DeviceStatus) 128 bs [] s := by
  obtain ⟨w, t, e, w', ms, rfl, hw, he, hw', ht, hs⟩ := h
  have hfinish : Reads (finish >>= fun _ => pure s) 128 (w' ++ []) [] s :=
    (finish_blanks hw').bind (Reads.pure s) rfl
  exact ((readStatus_reads hw he ht hs).bind hfinish (List.append_nil _).symm).congr (by simp)

/-! ## 6. The status in a reply body -/

/-- **A body gives a status exactly when it is the text of a reply with that status**: blanks,
    an object with the flag once, `baseline_metrics` at most once, the top-level metrics each at
    most once, every other member kept within the levels left, and blanks. -/
theorem ofBody_eq_ok_iff_replyText (body : String) (s : DeviceStatus) :
    DeviceStatus.ofBody body = .ok s ↔ ReplyText (Text.Utf8.encode body) s := by
  refine ⟨replyBody_ok, fun h => ?_⟩
  have hr : Outcome (do let s ← readStatus; finish; pure s : Reader DeviceStatus) 128
      (Text.Utf8.encode body) [] (some s) := replyBody_reads h
  exact (hr.run'_eq_ok s).2 rfl

/-! ## 7. A member too deep -/

/-- The flag and the key `x` after the reply's brace: `"onboarded":true,"x":`. -/
def flagThenX : Bytes :=
  [34, 111, 110, 98, 111, 97, 114, 100, 101, 100, 34, 58, 116, 114, 117, 101, 44, 34, 120, 34, 58]

/-- A reply whose member `x` nests `k + 1` arrays. -/
def deepText (k : Nat) : Bytes :=
  123 :: (flagThenX ++ List.replicate (k + 1) 91 ++ List.replicate (k + 1) 93 ++ [125])

/-- The members of `deepText`: the flag is read, and the member `x` opens more arrays than the
    levels left. -/
theorem deepMembers_fails {k fuel : Nat} (hk : 126 ≤ k) (hf : 2 * k + 8 < fuel) :
    Fails (replyMembers fuel true {}) 127 (flagThenX ++ List.replicate (k + 1) 91) rest := by
  obtain ⟨f, rfl⟩ : ∃ f, fuel = f + 2 := ⟨fuel - 2, by omega⟩
  have honb : KeyString [111, 110, 98, 111, 97, 114, 100, 101, 100, 34] "onboarded" :=
    ⟨[.raw 111, .raw 110, .raw 98, .raw 111, .raw 97, .raw 114, .raw 100, .raw 101, .raw 100],
      by decide, rfl, by decide⟩
  have hxk : KeyString [120, 34] "x" := ⟨[.raw 120], by decide, rfl, by decide⟩
  -- the member `x`: its colon, then one array more than the levels left
  have hdeep : Fails (replyMember f "x" { onboarded := some true }) 127
      ([] ++ [58] ++ List.replicate (k + 1) 91) rest := by
    unfold replyMember
    have h1 : ("x" == "onboarded") = false := by decide
    have h2 : ("x" == "baseline_metrics") = false := by decide
    simp only [h1, h2, Bool.false_eq_true, if_false]
    exact Reads.bind_fails (colon_after blanks_nil)
      (Fails.bind (readContent_too_deep k (by omega) (by omega))) rfl
  rw [show flagThenX ++ List.replicate (k + 1) 91 = [] ++ ((34 :: [111, 110, 98, 111, 97, 114,
      100, 101, 100, 34]) ++ (([] ++ 58 :: [] ++ boolBytes true) ++ ([44] ++ ((34 :: [120, 34]) ++
      ([] ++ [58] ++ List.replicate (k + 1) 91))))) from rfl]
  simp only [replyMembers]
  refine Reads.bind_fails (nextKey_sep blanks_nil) ?_ rfl
  refine Reads.bind_fails (readKey_reads honb) ?_ rfl
  refine Reads.bind_fails (replyMember_reads (.onboarded true) blanks_nil blanks_nil rfl
    (by simp only [boolBytes, List.length_cons, List.length_nil]; omega)
    (ends_cons _ (.inl rfl))) ?_ rfl
  refine Reads.bind_fails (nextKey_sep ⟨[], [], blanks_nil, blanks_nil, rfl⟩) ?_ rfl
  refine Reads.bind_fails (readKey_reads hxk) ?_ rfl
  exact Fails.bind hdeep

/-- **A reply whose kept member opens as many arrays as the object leaves levels is refused**,
    for 127 arrays and more: with the reply object, the document nests 128 containers or more. -/
theorem deepText_fails {k : Nat} (hk : 126 ≤ k) :
    Fails (do let s ← readStatus; finish; pure s : Reader DeviceStatus) 128 (deepText k) [] := by
  refine Fails.bind ?_
  unfold readStatus deepText
  refine Fails.positioned (Reads.bind_fails (skipBlanks_upto blanks_nil rfl) ?_ rfl)
  refine Fails.get_bind fun c hc => ?_
  have hlen : 2 * k + 8 < 2 * c.rest.length + 2 := by
    rw [hc]
    simp
    omega
  rw [show flagThenX ++ List.replicate (k + 1) 91 ++ List.replicate (k + 1) 93 ++ [125] =
    (flagThenX ++ List.replicate (k + 1) 91) ++ (List.replicate (k + 1) 93 ++ [125]) by simp]
  exact within_fails 123 (by decide) (Fails.append (Fails.bind (deepMembers_fails hk hlen)))

/-- `{"onboarded":true,"x":[[…[]…]]}` with 127 arrays: the document nests 128 containers. -/
def deepBody : String :=
  "\x7b\"onboarded\":true,\"x\":" ++ String.ofList (List.replicate 127 '[') ++
    String.ofList (List.replicate 127 ']') ++ "\x7d"

theorem deep_member_refused : (DeviceStatus.ofBody deepBody).toBool = false := by
  have hpre : Text.Utf8.encode "\x7b\"onboarded\":true,\"x\":" = 123 :: flagThenX := by
    rw [Text.Utf8.encode_eq_flatMap]
    decide
  have hclose : Text.Utf8.encode "\x7d" = [125] := by
    rw [Text.Utf8.encode_eq_flatMap]
    decide
  have henc : Text.Utf8.encode deepBody = deepText 126 := by
    have hopen := Text.Utf8.encode_replicate (by decide : String.utf8EncodeChar '[' = [91]) 127
    have hshut := Text.Utf8.encode_replicate (by decide : String.utf8EncodeChar ']' = [93]) 127
    unfold deepBody
    rw [Text.Utf8.encode_append, Text.Utf8.encode_append, Text.Utf8.encode_append, hpre, hclose,
      hopen, hshut, deepText]
    simp only [List.cons_append, List.append_assoc]
  have hf : Outcome (do let s ← readStatus; finish; pure s : Reader DeviceStatus) 128
      (Text.Utf8.encode deepBody) [] none := henc ▸ deepText_fails le_rfl
  cases h : DeviceStatus.ofBody deepBody with
  | error e => rfl
  | ok s => cases (hf.run'_eq_ok s).1 h

end SmartHelmet
