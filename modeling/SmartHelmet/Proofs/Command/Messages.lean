import SmartHelmet.Proofs.Json.Containers
import SmartHelmet.Command
/-!
# Which messages are commands

`decode` accepts a message exactly when it is one command value between blanks. This module
writes that language out and proves that the reader accepts it and nothing else:

* `flagBytes` — the text of a flag; the separators before members and items are `Json.Sep`;
* `Member`, `MemberText`, `MembersText` — a member of a command object by what it says (a flag
  under a key that decodes to `vibrate` or `crash_detected`, a value of the skipper's grammar
  `Skips` under any other key), and the members of an object;
* `ItemsText` — the flags of an array;
* `ofMembers`, `ofItems` — the command they give: each flag named at most once, at most two
  items;
* `MessageText` — blanks, an object or an array, blanks;
* `members_ok`, `items_ok`, `read_ok` and `members_reads`, `read_object`, `read_array` — the
  readers take these texts, and all of them;
* **`decode_iff_messageText`** — `decode raw` gives `c` exactly when `raw` is the text of the
  command `c`, and a message raises the alert exactly when it is the text of a command with
  `vibrate: true`.

The strings of a skipped value are checked for their escapes only, so a message whose unknown
member holds bytes that are no UTF-8 is accepted (`nonUtf8_skipped_drowsy`); keys are decoded,
and must be UTF-8.
-/

namespace SmartHelmet.Command

open Json

variable {c c' : Cursor} {d : Nat} {rest : Bytes}

/-! ## 1. The text of a command -/

/-- The text of a flag: `true`, `false`, or `null` for an absent one. -/
def flagBytes : Option Bool → Bytes
  | some true => [116, 114, 117, 101]
  | some false => [102, 97, 108, 115, 101]
  | none => [110, 117, 108, 108]

@[simp] theorem flagBytes_some (b : Bool) : flagBytes (some b) = boolBytes b := by
  cases b <;> rfl

/-- A member of a command object, by what it says. -/
inductive Member where
  | vibrate (x : Option Bool)
  | crash (x : Option Bool)
  | other (name : String)

/-- The flag a member gives `vibrate`. -/
def Member.vibrate? : Member → Option (Option Bool)
  | .vibrate x => some x
  | _ => none

/-- The flag a member gives `crash_detected`. -/
def Member.crash? : Member → Option (Option Bool)
  | .crash x => some x
  | _ => none

/-- **A member's text**: its key in quotes, decoding to its name, blanks, the colon, blanks, then
    a flag under `vibrate` or `crash_detected` and a skipped value under any other name. -/
inductive MemberText : Bytes → Member → Prop
  | vibrate {k w w' : Bytes} {x : Option Bool} : KeyString k "vibrate" → Blanks w → Blanks w' →
      MemberText (34 :: k ++ w ++ 58 :: w' ++ flagBytes x) (.vibrate x)
  | crash {k w w' : Bytes} {x : Option Bool} : KeyString k "crash_detected" → Blanks w →
      Blanks w' → MemberText (34 :: k ++ w ++ 58 :: w' ++ flagBytes x) (.crash x)
  | other {k w w' v : Bytes} {name : String} : KeyString k name → name ≠ "vibrate" →
      name ≠ "crash_detected" → Blanks w → Blanks w' → Skips .value v →
      MemberText (34 :: k ++ w ++ 58 :: w' ++ v) (.other name)

/-- **The members of a command object** after its brace, up to the blanks before the closing
    brace. -/
inductive MembersText : Bool → Bytes → List Member → Prop
  | nil {first : Bool} : MembersText first [] []
  | cons {first : Bool} {s t r : Bytes} {m : Member} {ms : List Member} : Sep first s →
      MemberText t m → MembersText false r ms → MembersText first (s ++ t ++ r) (m :: ms)

/-- **The flags of a command array** after its bracket, up to the blanks before the closing
    bracket. -/
inductive ItemsText : Bool → Bytes → List (Option Bool) → Prop
  | nil {first : Bool} : ItemsText first [] []
  | cons {first : Bool} {s r : Bytes} {x : Option Bool} {xs : List (Option Bool)} :
      Sep first s → ItemsText false r xs → ItemsText first (s ++ flagBytes x ++ r) (x :: xs)

/-- A flag named at most once: absent, or its one value. -/
def flagOnce : List (Option Bool) → Option (Option Bool)
  | [] => some none
  | [x] => some x
  | _ => none

/-- **The command an object's members give**: each flag named at most once, `null` or no mention
    leaving it absent; other members say nothing. -/
def ofMembers (ms : List Member) : Option Command := do
  let v ← flagOnce (ms.filterMap Member.vibrate?)
  let c ← flagOnce (ms.filterMap Member.crash?)
  pure ⟨v, c⟩

/-- **The command an array's flags give**: at most two, `vibrate` then `crash_detected`. -/
def ofItems : List (Option Bool) → Option Command
  | [] => some {}
  | [x] => some ⟨x, none⟩
  | [x, y] => some ⟨x, y⟩
  | _ => none

/-- **The text of a command message**: blanks, an object of members or an array of flags, each
    with blanks before its closing bracket, then blanks. -/
def MessageText (raw : Bytes) (cmd : Command) : Prop :=
  ∃ w t e w', Blanks w ∧ Blanks e ∧ Blanks w' ∧
    ((∃ ms, raw = w ++ 123 :: t ++ e ++ 125 :: w' ∧ MembersText true t ms ∧
        ofMembers ms = some cmd) ∨
      (∃ xs, raw = w ++ 91 :: t ++ e ++ 93 :: w' ∧ ItemsText true t xs ∧ ofItems xs = some cmd))

/-! ## 2. The flags seen so far

The member reader carries the flags it has read; as members, they stand before those still to
come, and the command is the one all of them give. -/

/-- The flags read so far, as the members that named them. -/
def Member.seen (vib crs : Option (Option Bool)) : List Member :=
  (vib.map Member.vibrate).toList ++ (crs.map Member.crash).toList

variable {vib crs : Option (Option Bool)} {ms : List Member} {x : Option Bool}

theorem ofMembers_seen_append :
    ofMembers (Member.seen vib crs ++ ms) =
      (do
        let v ← flagOnce (vib.toList ++ ms.filterMap Member.vibrate?)
        let c ← flagOnce (crs.toList ++ ms.filterMap Member.crash?)
        pure ⟨v, c⟩) := by
  cases vib <;> cases crs <;>
    simp [ofMembers, Member.seen, List.filterMap_cons, Member.vibrate?, Member.crash?]

/-- With no member to come, the flags read so far are the command. -/
theorem ofMembers_seen :
    ofMembers (Member.seen vib crs) = some ⟨vib.getD none, crs.getD none⟩ := by
  cases vib <;> cases crs <;> rfl

theorem ofMembers_vibrate :
    ofMembers (Member.seen none crs ++ .vibrate x :: ms) =
      ofMembers (Member.seen (some x) crs ++ ms) := by
  simp [ofMembers_seen_append, List.filterMap_cons, Member.vibrate?, Member.crash?]

theorem ofMembers_crash :
    ofMembers (Member.seen vib none ++ .crash x :: ms) =
      ofMembers (Member.seen vib (some x) ++ ms) := by
  simp [ofMembers_seen_append, List.filterMap_cons, Member.vibrate?, Member.crash?]

theorem ofMembers_other {name : String} :
    ofMembers (Member.seen vib crs ++ .other name :: ms) =
      ofMembers (Member.seen vib crs ++ ms) := by
  simp [ofMembers_seen_append, List.filterMap_cons, Member.vibrate?, Member.crash?]

/-- A flag named a second time gives no command. -/
theorem ofMembers_vibrate_fresh {cmd : Command}
    (h : ofMembers (Member.seen vib crs ++ .vibrate x :: ms) = some cmd) : vib = none := by
  cases vib with
  | none => rfl
  | some y => simp [ofMembers_seen_append, Member.vibrate?, flagOnce] at h

theorem ofMembers_crash_fresh {cmd : Command}
    (h : ofMembers (Member.seen vib crs ++ .crash x :: ms) = some cmd) : crs = none := by
  cases crs with
  | none => rfl
  | some y => simp [ofMembers_seen_append, Member.crash?, flagOnce] at h

/-! ## 3. What a success took -/

/-- **A flag took its text**, after blanks. -/
theorem flag_ok {x : Option Bool} (h : flag.run c = .ok x c') :
    ∃ w, Blanks w ∧ Consumed c c' (w ++ flagBytes x) := by
  unfold flag readOption at h
  obtain ⟨o, c₁, h₁, h⟩ := run_bind_ok h
  obtain ⟨w, hc₁, hw, -, rfl⟩ := skipBlanks_ok h₁
  split at h
  · rename_i hn
    obtain ⟨t, hn⟩ := List.head?_eq_some_iff.1 hn
    obtain ⟨rfl, hx⟩ := bump_keyword_ok hn h
    exact ⟨w, hw, hc₁.trans hx⟩
  · obtain ⟨b, hb, rfl⟩ := run_map_ok h
    obtain ⟨w', hw', hx⟩ := readBool_ok hb
    exact ⟨w ++ w', blanks_append.2 ⟨hw, hw'⟩, by simpa using hc₁.trans hx⟩

/-- The value of a flag member: what the colon and the flag took, and the rest of the run. -/
theorem colon_flag_ok {f : Option Bool → Reader Command} {cmd : Command}
    (h : (do colon; let x ← flag; f x).run c = .ok cmd c') :
    ∃ w w' x c₁, Blanks w ∧ Blanks w' ∧ Consumed c c₁ (w ++ 58 :: w' ++ flagBytes x) ∧
      (f x).run c₁ = .ok cmd c' := by
  obtain ⟨_, c₁, h₁, h⟩ := run_bind_ok h
  obtain ⟨w, hw, hcw⟩ := colon_ok h₁
  obtain ⟨x, c₂, h₂, h⟩ := run_bind_ok h
  obtain ⟨w', hw', hcx⟩ := flag_ok h₂
  exact ⟨w, w', x, c₂, hw, hw', by simpa using hcw.trans hcx, h⟩

/-- **What the items of a command array took**: flags, each after its separator, then the blanks
    before the closing bracket; at most two of them. -/
theorem items_ok {cmd : Command} (h : Command.items.run c = .ok cmd c') :
    ∃ t e xs, ItemsText true t xs ∧ Blanks e ∧ Consumed c c' (t ++ e) ∧ ofItems xs = some cmd := by
  unfold Command.items element at h
  obtain ⟨v, c₁, h₁, h⟩ := run_bind_ok h
  obtain ⟨more, c₂, h₂, h₁⟩ := run_bind_ok h₁
  obtain ⟨s, hcs, hs⟩ := nextItem_ok h₂
  rcases hs with ⟨rfl, hs, hend⟩ | ⟨rfl, hs⟩
  · -- no item: the second look sees the closing bracket too
    obtain ⟨rfl, rfl⟩ := run_pure_ok h₁
    obtain ⟨o, c₃, h₃, h⟩ := run_bind_ok h
    obtain ⟨more', c₄, h₄, h₃⟩ := run_bind_ok h₃
    obtain ⟨rfl, hc₄⟩ := nextItem_at_close hend h₄
    obtain ⟨rfl, rfl⟩ := run_pure_ok h₃
    obtain ⟨rfl, rfl⟩ := run_pure_ok h
    exact ⟨[], s, [], .nil, hs, by simpa using hcs.trans hc₄, rfl⟩
  · -- a first flag, then a second or the closing bracket
    obtain ⟨x, hx, rfl⟩ := run_map_ok h₁
    obtain ⟨w, hw, hcx⟩ := flag_ok hx
    obtain ⟨o, c₃, h₃, h⟩ := run_bind_ok h
    obtain ⟨more', c₄, h₄, h₃⟩ := run_bind_ok h₃
    obtain ⟨s', hcs', hs'⟩ := nextItem_ok h₄
    have hfirst := hcs.trans hcx
    rcases hs' with ⟨rfl, hs', -⟩ | ⟨rfl, hs'⟩
    · obtain ⟨rfl, rfl⟩ := run_pure_ok h₃
      obtain ⟨rfl, rfl⟩ := run_pure_ok h
      exact ⟨s ++ w ++ flagBytes x ++ [], s', [x], .cons (hs.append_blanks hw) .nil, hs',
        by simpa using hfirst.trans hcs', rfl⟩
    · obtain ⟨y, hy, rfl⟩ := run_map_ok h₃
      obtain ⟨w', hw', hcy⟩ := flag_ok hy
      obtain ⟨rfl, rfl⟩ := run_pure_ok h
      exact ⟨s ++ w ++ flagBytes x ++ (s' ++ w' ++ flagBytes y ++ []), [], [x, y],
        .cons (hs.append_blanks hw) (.cons (hs'.append_blanks hw') .nil), blanks_nil,
        by simpa using (hfirst.trans hcs').trans hcy, rfl⟩

/-- **What the members of a command object took**: members, each after its separator, then the
    blanks before the closing brace; the command is the one they give after the flags read
    before them. -/
theorem members_ok (fuel : Nat) {first : Bool} {cmd : Command}
    (h : (Command.members fuel first vib crs).run c = .ok cmd c') :
    ∃ t e ms, MembersText first t ms ∧ Blanks e ∧ Consumed c c' (t ++ e) ∧
      ofMembers (Member.seen vib crs ++ ms) = some cmd := by
  induction fuel generalizing first vib crs c with
  | zero =>
    -- no fuel left: the flags read so far
    simp only [Command.members] at h
    obtain ⟨rfl, rfl⟩ := run_pure_ok h
    exact ⟨[], [], [], .nil, blanks_nil, Consumed.nil, by simpa using ofMembers_seen⟩
  | succ fuel ih =>
    simp only [Command.members] at h
    rcases nextKey_member_ok h with ⟨rfl, s, hs, hcs⟩ | ⟨s, k, key, c₂, hs, hk, hkey, h⟩
    · -- the closing brace
      exact ⟨[], s, [], .nil, hs, by simpa using hcs, by simpa using ofMembers_seen⟩
    -- the key decides what the member's value must be
    by_cases hv : (key == "vibrate") = true
    · rw [if_pos hv] at h
      cases beq_iff_eq.1 hv
      cases vib with
      | some y =>
        rw [if_pos Option.isSome_some] at h
        exact absurd h (Refused.run_ne_ok (failShape_refused _).bind)
      | none =>
        rw [if_neg (by simp)] at h
        obtain ⟨w, w', x, c₃, hw, hw', hcx, h⟩ := colon_flag_ok h
        obtain ⟨r, e, ms, hr, he, hcr, hcmd⟩ := ih h
        refine ⟨s ++ (34 :: k ++ w ++ 58 :: w' ++ flagBytes x) ++ r, e, .vibrate x :: ms,
          .cons hs (.vibrate hk hw hw') hr, he, ?_, by rwa [ofMembers_vibrate]⟩
        simpa using (hkey.trans hcx).trans hcr
    rw [if_neg hv] at h
    by_cases hc : (key == "crash_detected") = true
    · rw [if_pos hc] at h
      cases beq_iff_eq.1 hc
      cases crs with
      | some y =>
        rw [if_pos Option.isSome_some] at h
        exact absurd h (Refused.run_ne_ok (failShape_refused _).bind)
      | none =>
        rw [if_neg (by simp)] at h
        obtain ⟨w, w', x, c₃, hw, hw', hcx, h⟩ := colon_flag_ok h
        obtain ⟨r, e, ms, hr, he, hcr, hcmd⟩ := ih h
        refine ⟨s ++ (34 :: k ++ w ++ 58 :: w' ++ flagBytes x) ++ r, e, .crash x :: ms,
          .cons hs (.crash hk hw hw') hr, he, ?_, by rwa [ofMembers_crash]⟩
        simpa using (hkey.trans hcx).trans hcr
    rw [if_neg hc] at h
    -- any other key: its value is skipped
    obtain ⟨_, c₃, h₃, h⟩ := run_bind_ok h
    obtain ⟨w, hw, hcw⟩ := colon_ok h₃
    obtain ⟨_, c₄, h₄, h⟩ := run_bind_ok h
    obtain ⟨w', v, hw', hv', hcv⟩ := skipValue_ok h₄
    obtain ⟨r, e, ms, hr, he, hcr, hcmd⟩ := ih h
    refine ⟨s ++ (34 :: k ++ w ++ 58 :: w' ++ v) ++ r, e, .other key :: ms,
      .cons hs (.other hk (by simpa using hv) (by simpa using hc) hw hw' hv') hr, he, ?_,
      by rwa [ofMembers_other]⟩
    simpa using ((hkey.trans hcw).trans hcv).trans hcr

/-- **What a command value took**: blanks, then an object of members or an array of flags with
    the blanks before its closing bracket and the bracket. -/
theorem read_ok {cmd : Command} (h : Command.read.run c = .ok cmd c') :
    ∃ w t e, Blanks w ∧ Blanks e ∧
      ((∃ ms, Consumed c c' (w ++ 123 :: t ++ e ++ [125]) ∧ MembersText true t ms ∧
          ofMembers ms = some cmd) ∨
        (∃ xs, Consumed c c' (w ++ 91 :: t ++ e ++ [93]) ∧ ItemsText true t xs ∧
          ofItems xs = some cmd)) := by
  unfold Command.read at h
  obtain ⟨o, c₁, h₁, h⟩ := run_bind_ok (positioned_run_ok h)
  obtain ⟨w, hc₁, hw, -, rfl⟩ := skipBlanks_ok h₁
  split at h
  · exact absurd h (Refused.run_ne_ok (failAhead_refused _))
  · -- an array
    rename_i ho
    obtain ⟨hd, c₂, h₂, h₃⟩ := within_ok h
    obtain ⟨t, e, xs, ht, he, hct, hcmd⟩ := items_ok h₂
    obtain ⟨e', he', hce⟩ := closeArray_ok h₃
    refine ⟨w, t, e ++ e', hw, blanks_append.2 ⟨he, he'⟩, .inr ⟨xs, ?_, ht, hcmd⟩⟩
    simpa using hc₁.trans (Consumed.within hd ho hct hce)
  · -- an object
    rename_i ho
    obtain ⟨hd, c₂, h₂, h₃⟩ := within_ok (get_bind_run_ok h)
    obtain ⟨t, e, ms, ht, he, hct, hcmd⟩ := members_ok _ h₂
    obtain ⟨e', he', hce⟩ := closeObject_ok h₃
    refine ⟨w, t, e ++ e', hw, blanks_append.2 ⟨he, he'⟩,
      .inl ⟨ms, ?_, ht, by simpa [Member.seen] using hcmd⟩⟩
    simpa using hc₁.trans (Consumed.within hd ho hct hce)
  · exact absurd h (Refused.run_ne_ok (wrongKind_refused _))

/-- **A message `decode` accepts is the text of its command.** -/
theorem decode?_ok {raw : Bytes} {cmd : Command} (h : Command.decode? raw = .ok cmd) :
    MessageText raw cmd := by
  unfold Command.decode? Reader.run' at h
  split at h
  · rename_i a c' hr
    cases h
    obtain ⟨a', c₁, h₁, h⟩ := run_bind_ok hr
    obtain ⟨_, c₂, h₂, h⟩ := run_bind_ok h
    obtain ⟨rfl, -⟩ := run_pure_ok h
    have hw' := finish_ok h₂
    obtain ⟨w, t, e, hw, he, hr⟩ := read_ok h₁
    rcases hr with ⟨ms, hc, ht, hcmd⟩ | ⟨xs, hc, ht, hcmd⟩
    · refine ⟨w, t, e, c₁.rest, hw, he, hw', .inl ⟨ms, ?_, ht, hcmd⟩⟩
      simpa [Cursor.start] using hc.1
    · refine ⟨w, t, e, c₁.rest, hw, he, hw', .inr ⟨xs, ?_, ht, hcmd⟩⟩
      simpa [Cursor.start] using hc.1
  · cases h

/-! ## 4. Every text of a command is read -/

theorem nextItem_flag {first : Bool} {s : Bytes} (hs : Sep first s) (x : Option Bool) :
    Reads (nextItem first) d s (flagBytes x ++ rest) true := by
  rcases x with _ | _ | _
  · exact nextItem_sep hs (by decide) rfl
  · exact nextItem_sep hs (by decide) rfl
  · exact nextItem_sep hs (by decide) rfl

/-- **A flag is read**, after blanks. -/
theorem flag_reads {w : Bytes} (hw : Blanks w) (x : Option Bool) :
    Reads flag d (w ++ flagBytes x) rest x := by
  unfold flag readOption
  rcases x with _ | _ | _
  · exact (skipBlanks_upto hw (rfl : isBlankByte 110 = false)).bind ((bump_reads 110).bind
      ((keyword_reads [117, 108, 108]).bind (Reads.pure none) rfl) rfl) rfl
  · exact (skipBlanks_upto hw (rfl : isBlankByte 102 = false)).bind
      ((readBool_reads false).map some) rfl
  · exact (skipBlanks_upto hw (rfl : isBlankByte 116 = false)).bind
      ((readBool_reads true).map some) rfl

theorem MembersText.length_le {first : Bool} {t : Bytes} {ms : List Member}
    (h : MembersText first t ms) : ms.length ≤ t.length := by
  induction h with
  | nil => simp
  | cons _ hm _ ih =>
    have hpos := hm
    cases hpos <;> (simp at ih ⊢; omega)

/-- What follows the members of an object cannot continue a number. -/
theorem MembersText.ends {r e : Bytes} {ms : List Member} (hr : MembersText false r ms)
    (he : Blanks e) : Ends (r ++ (e ++ 125 :: rest)) := by
  cases hr with
  | nil =>
    cases e with
    | nil => exact ends_cons _ (.inr (.inr rfl))
    | cons b t => exact ends_blank _ (blanks_cons.1 he).1
  | cons hs _ _ =>
    obtain ⟨w, w', hw, _, rfl⟩ := hs
    cases w with
    | nil => exact ends_cons _ (.inl rfl)
    | cons b t => exact ends_blank _ (blanks_cons.1 hw).1

/-- The value of a flag member: the colon and the flag, then what follows. -/
theorem colon_flag_reads {w w' more : Bytes} {x : Option Bool} {f : Option Bool → Reader Command}
    {cmd : Command} (hw : Blanks w) (hw' : Blanks w') (hf : Reads (f x) d more rest cmd) :
    Reads (do colon; let x ← flag; f x) d ((w ++ [58]) ++ ((w' ++ flagBytes x) ++ more)) rest
      cmd :=
  (colon_after hw).bind ((flag_reads hw' x).bind hf rfl) rfl

/-- **The members of an object are read**, given fuel for each, up to the closing brace: the
    command is the one they give after the flags read before them. -/
theorem members_reads {first : Bool} {t : Bytes} {ms : List Member} (ht : MembersText first t ms) :
    ∀ {fuel : Nat} {vib crs : Option (Option Bool)} {e : Bytes} {cmd : Command},
      ms.length < fuel → Blanks e → ofMembers (Member.seen vib crs ++ ms) = some cmd →
      Reads (Command.members fuel first vib crs) d (t ++ e) (125 :: rest) cmd := by
  induction ht with
  | nil =>
    intro fuel vib crs e cmd hlen he hc
    obtain ⟨fuel, rfl⟩ : ∃ f, fuel = f + 1 := ⟨fuel - 1, by simp at hlen; omega⟩
    rw [List.append_nil, ofMembers_seen] at hc
    cases hc
    simp only [Command.members, List.nil_append]
    exact nextKey_close_reads he
  | @cons first s tm r m ms hs hm hr ih =>
    intro fuel vib crs e cmd hlen he hc
    obtain ⟨fuel, rfl⟩ : ∃ f, fuel = f + 1 := ⟨fuel - 1, by simp at hlen; omega⟩
    have hlen' : ms.length < fuel := by simp at hlen; omega
    simp only [Command.members]
    -- the key's quote, not consumed; then the key decides how the value is read
    cases hm with
    | @vibrate k w w' x hk hw hw' =>
      obtain rfl := ofMembers_vibrate_fresh hc
      have hrest := ih hlen' he (by rwa [ofMembers_vibrate] at hc)
      rw [show s ++ (34 :: k ++ w ++ 58 :: w' ++ flagBytes x) ++ r ++ e =
        s ++ (34 :: k ++ ((w ++ [58]) ++ ((w' ++ flagBytes x) ++ (r ++ e)))) by simp]
      refine nextKey_member_reads hs hk ?_
      rw [if_pos (beq_self_eq_true _), if_neg (by simp)]
      exact colon_flag_reads hw hw' hrest
    | @crash k w w' x hk hw hw' =>
      obtain rfl := ofMembers_crash_fresh hc
      have hrest := ih hlen' he (by rwa [ofMembers_crash] at hc)
      rw [show s ++ (34 :: k ++ w ++ 58 :: w' ++ flagBytes x) ++ r ++ e =
        s ++ (34 :: k ++ ((w ++ [58]) ++ ((w' ++ flagBytes x) ++ (r ++ e)))) by simp]
      refine nextKey_member_reads hs hk ?_
      rw [if_neg (by decide), if_pos (beq_self_eq_true _), if_neg (by simp)]
      exact colon_flag_reads hw hw' hrest
    | @other k w w' v name hk hv hc' hw hw' hval =>
      have hrest := ih hlen' he (by rwa [ofMembers_other] at hc)
      rw [show s ++ (34 :: k ++ w ++ 58 :: w' ++ v) ++ r ++ e =
        s ++ (34 :: k ++ ((w ++ [58]) ++ ((w' ++ v) ++ (r ++ e)))) by simp]
      refine nextKey_member_reads hs hk ?_
      rw [if_neg (by simpa using hv), if_neg (by simpa using hc')]
      exact (colon_after hw).bind ((skipValue_reads hw' hval (by simpa using hr.ends he)).bind
        hrest rfl) rfl

/-- **A command object is read**, after blanks. -/
theorem read_object (hd : 1 < d) {w t e : Bytes} {ms : List Member} {cmd : Command}
    (hw : Blanks w) (ht : MembersText true t ms) (he : Blanks e) (hc : ofMembers ms = some cmd) :
    Reads Command.read d (w ++ 123 :: t ++ e ++ [125]) rest cmd := by
  unfold Command.read
  refine Reads.positioned ?_
  rw [show w ++ 123 :: t ++ e ++ [125] = w ++ 123 :: (t ++ e ++ [125]) by simp]
  refine (skipBlanks_upto hw (rfl : isBlankByte 123 = false)).bind ?_ rfl
  refine Reads.get_bind fun c hc' => ?_
  -- the members' fuel is the length of the text left, more than there are members
  have hlen : ms.length < c.rest.length + 1 := by
    have := ht.length_le
    rw [hc']
    simp
    omega
  exact within_reads 123 hd (members_reads ht hlen he (by simpa [Member.seen] using hc))
    closeObject_reads

theorem element_flag {first : Bool} {s : Bytes} (hs : Sep first s) (x : Option Bool) :
    Reads (element first flag) d (s ++ flagBytes x) rest (some x) := by
  unfold element
  exact ((nextItem_flag hs x).bind ((flag_reads blanks_nil x).map some) rfl).congr (by simp)

theorem element_close {first : Bool} {w : Bytes} (hw : Blanks w) :
    Reads (element first flag) d w (93 :: rest) none := by
  unfold element
  exact ((nextItem_close hw).bind (Reads.pure none) rfl).congr (List.append_nil _)

/-- **A command array is read**, after blanks. -/
theorem read_array (hd : 1 < d) {w t e : Bytes} {xs : List (Option Bool)} {cmd : Command}
    (hw : Blanks w) (ht : ItemsText true t xs) (he : Blanks e) (hc : ofItems xs = some cmd) :
    Reads Command.read d (w ++ 91 :: t ++ e ++ [93]) rest cmd := by
  unfold Command.read
  refine Reads.positioned ?_
  rw [show w ++ 91 :: t ++ e ++ [93] = w ++ 91 :: (t ++ e ++ [93]) by simp]
  refine (skipBlanks_upto hw (rfl : isBlankByte 91 = false)).bind ?_ rfl
  -- by the number of flags: the blanks before the bracket go to the last look for an item, or
  -- after a second flag to the closing part
  cases ht with
  | nil =>
    cases hc
    have hi : Reads Command.items (d - 1) ([] ++ e) ([93] ++ rest) {} :=
      ((element_close he).bind
        ((element_close blanks_nil).bind (Reads.pure ({} : Command)) rfl) rfl).congr (by simp)
    exact within_reads 91 hd hi closeArray_reads
  | @cons _ s r x xs hs hr =>
    cases hr with
    | nil =>
      cases hc
      have hi : Reads Command.items (d - 1) (s ++ flagBytes x ++ [] ++ e) ([93] ++ rest)
          ⟨x, none⟩ :=
        ((element_flag hs x).bind ((element_close he).bind (Reads.pure (⟨x, none⟩ : Command)) rfl)
          rfl).congr (by simp)
      exact within_reads 91 hd hi closeArray_reads
    | @cons _ s' r' y ys hs' hr' =>
      cases hr' with
      | nil =>
        cases hc
        have hi : Reads Command.items (d - 1) (s ++ flagBytes x ++ (s' ++ flagBytes y ++ []))
            ((e ++ [93]) ++ rest) ⟨x, y⟩ :=
          ((element_flag hs x).bind ((element_flag hs' y).bind (Reads.pure (⟨x, y⟩ : Command)) rfl)
            rfl).congr (by simp)
        exact (within_reads 91 hd hi (closeArray_after he)).congr (by simp)
      | cons => simp [ofItems] at hc

/-- **The text of a command is read whole**, from the start of a message. -/
theorem message_reads {raw : Bytes} {cmd : Command} (h : MessageText raw cmd) :
    Reads (do let c ← Command.read; finish; pure c) 128 raw [] cmd := by
  obtain ⟨w, t, e, w', hw, he, hw', ⟨ms, rfl, ht, hc⟩ | ⟨xs, rfl, ht, hc⟩⟩ := h
  · exact ((read_object (by decide) hw ht he hc).bind
      ((finish_blanks hw').bind (Reads.pure cmd) rfl) rfl).congr (by simp)
  · exact ((read_array (by decide) hw ht he hc).bind
      ((finish_blanks hw').bind (Reads.pure cmd) rfl) rfl).congr (by simp)

theorem decode?_of_text {raw : Bytes} {cmd : Command} (h : MessageText raw cmd) :
    Command.decode? raw = .ok cmd := by
  obtain ⟨c', hrun, -, -⟩ := message_reads h (Cursor.start raw) (by simp [Cursor.start]) rfl
  unfold Command.decode? Reader.run'
  rw [hrun]

/-! ## 5. Decoding and the alert -/

theorem decode_fst_eq_some {raw : Bytes} {cmd : Command} :
    (decode raw).1 = some cmd ↔ Command.decode? raw = .ok cmd := by
  cases h : Command.decode? raw <;> simp [decode, h]

/-- The alert a message leads to: drowsy exactly when its command, if any, asks to vibrate. -/
theorem interpret_fst (raw : Bytes) :
    (interpret raw).1 =
      if (((decode raw).1.getD {}).vibrate == some true) = true then .drowsy else .normal := by
  unfold interpret
  generalize decode raw = p
  obtain ⟨c, lines⟩ := p
  dsimp only
  split <;> rfl

/-- **Which messages are commands.** `decode raw` gives `cmd` exactly when `raw` is the text of
    the command `cmd`: blanks, then an object whose members name each flag at most once, with
    `true`, `false` or `null`, and hold any value of the skipper's grammar under every other key,
    or an array of at most two such flags; then blanks. A message raises the drowsiness alert
    exactly when it is the text of a command with `vibrate: true`. -/
theorem decode_iff_messageText (raw : Bytes) :
    (∀ cmd, (decode raw).1 = some cmd ↔ MessageText raw cmd) ∧
      ((interpret raw).1 = .drowsy ↔ ∃ cmd, MessageText raw cmd ∧ cmd.vibrate = some true) := by
  have hdec : ∀ cmd, (decode raw).1 = some cmd ↔ MessageText raw cmd := fun cmd =>
    decode_fst_eq_some.trans ⟨decode?_ok, decode?_of_text⟩
  refine ⟨hdec, ?_⟩
  rw [interpret_fst]
  cases hd : (decode raw).1 with
  | none =>
    -- no command: the alert stays normal, and no text is a command's
    refine ⟨fun h => by simp at h, fun ⟨cmd, hm, _⟩ => ?_⟩
    rw [← hdec, hd] at hm
    cases hm
  | some cmd =>
    have hm := (hdec cmd).1 hd
    constructor
    · intro h
      exact ⟨cmd, hm, by simpa using h⟩
    · rintro ⟨cmd', hm', hv⟩
      -- the text of a message is the text of one command only
      have e : some cmd = some cmd' := hd.symm.trans ((hdec cmd').2 hm')
      cases e
      simp [hv]

/-- A message that names `vibrate: true` and holds, under another key, a string whose byte `0xFF`
    starts no UTF-8 character. -/
def nonUtf8Message : Bytes :=
  [123, 34, 118, 105, 98, 114, 97, 116, 101, 34, 58, 116, 114, 117, 101, 44, 34, 110, 34, 58, 34,
    255, 34, 125]

/-- The message is no UTF-8, yet it is decoded and raises the alert: the string of a skipped
    value is not decoded. -/
theorem nonUtf8_skipped_drowsy :
    Text.Utf8.decode? nonUtf8Message = none ∧ (interpret nonUtf8Message).1 = .drowsy := by
  constructor
  · decide
  · decide

end SmartHelmet.Command
