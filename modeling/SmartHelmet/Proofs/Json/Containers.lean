import SmartHelmet.Proofs.Json.Skipping
/-!
# Objects and arrays

What stands between the values of an object or an array, read both ways: a success took these
texts, and these texts are read.

* `Sep` — what stands before a member or an item: blanks before the first; blanks, a comma and
  blanks before a later one;
* `Separated` — the entries of a container, each a text of a grammar given as a parameter, after
  its separator;
* `boolBytes` — the text of a boolean;
* `nextKey_ok`, `nextItem_ok`, `colon_ok`, `closeObject_ok`, `closeArray_ok`, `finish_ok`,
  `readBool_ok` — what the separators, the closing parts and a boolean took;
* `nextKey_member_ok`, `nextKey_member_reads`, `nextKey_close_reads` — the step every member
  reader takes: the closing brace, or a separator and a key;
* `Consumed.within` — what a container took: its opening byte, its contents a level down and its
  closing part;
* `nextKey_sep`, `nextKey_close`, `nextItem_sep`, `nextItem_close`, `colon_after`,
  `closeArray_after`, `closeObject_after`, `readBool_after` — these texts are read.
-/

namespace SmartHelmet.Json

variable {c c' : Cursor} {d : Nat} {rest : Bytes}

/-! ## 1. The texts -/

/-- What stands before a member or an item: blanks before the first; blanks, a comma and blanks
    before a later one. -/
def Sep : Bool → Bytes → Prop
  | true, s => Blanks s
  | false, s => ∃ w w', Blanks w ∧ Blanks w' ∧ s = w ++ 44 :: w'

/-- **The entries of a container** after its opening bracket, up to the blanks before its closing
    one: texts of the grammar `M`, each after its separator. -/
inductive Separated {μ : Type} (M : Bytes → μ → Prop) : Bool → Bytes → List μ → Prop
  | nil {first : Bool} : Separated M first [] []
  | cons {first : Bool} {s t r : Bytes} {m : μ} {ms : List μ} : Sep first s → M t m →
      Separated M false r ms → Separated M first (s ++ t ++ r) (m :: ms)

/-- The text of a boolean. -/
def boolBytes : Bool → Bytes
  | true => [116, 114, 117, 101]
  | false => [102, 97, 108, 115, 101]

/-! ## 2. What a success took -/

theorem Sep.append_blanks {first : Bool} {s w : Bytes} (hs : Sep first s) (hw : Blanks w) :
    Sep first (s ++ w) := by
  cases first with
  | true => exact blanks_append.2 ⟨hs, hw⟩
  | false =>
    obtain ⟨w₁, w₂, hw₁, hw₂, rfl⟩ := hs
    exact ⟨w₁, w₂ ++ w, hw₁, blanks_append.2 ⟨hw₂, hw⟩, by simp⟩

/-- Before a member: blanks and the closing brace, not consumed, or a separator and the quote of
    a key, not consumed. -/
theorem nextKey_ok {first more : Bool} (h : (nextKey first).run c = .ok more c') :
    ∃ s, Consumed c c' s ∧
      (more = false ∧ Blanks s ∧ c'.rest.head? = some 125 ∨
        more = true ∧ Sep first s ∧ c'.rest.head? = some 34) := by
  unfold nextKey at h
  obtain ⟨o, c₁, h₁, h⟩ := run_bind_ok h
  obtain ⟨w, hc₁, hw, -, rfl⟩ := skipBlanks_ok h₁
  split at h
  · exact absurd h (Refused.run_ne_ok (failAhead_refused _))
  · rename_i he
    obtain ⟨rfl, rfl⟩ := run_pure_ok h
    exact ⟨w, hc₁, .inl ⟨rfl, hw, he⟩⟩
  · rename_i b _ he
    cases first with
    | true =>
      rw [if_pos rfl] at h
      by_cases hq : (b == 34) = true
      · rw [if_pos hq] at h
        obtain ⟨rfl, rfl⟩ := run_pure_ok h
        exact ⟨w, hc₁, .inr ⟨rfl, hw, by rw [he, beq_iff_eq.1 hq]⟩⟩
      · rw [if_neg hq] at h
        exact absurd h (Refused.run_ne_ok (failAhead_refused _))
    | false =>
      rw [if_neg Bool.false_ne_true] at h
      by_cases hc : (b == 44) = true
      · -- a comma, then blanks and the quote of the next key
        rw [if_pos hc] at h
        cases beq_iff_eq.1 hc
        obtain ⟨t, ht⟩ := List.head?_eq_some_iff.1 he
        obtain ⟨_, c₂, h₂, h⟩ := run_bind_ok h
        cases bump_ok h₂
        obtain ⟨o, c₃, h₃, h⟩ := run_bind_ok h
        obtain ⟨w', hc₃, hw', -, rfl⟩ := skipBlanks_ok h₃
        split at h
        · rename_i hq
          obtain ⟨rfl, rfl⟩ := run_pure_ok h
          exact ⟨w ++ 44 :: w', by simpa using (hc₁.trans (Consumed.bump ht)).trans hc₃,
            .inr ⟨rfl, ⟨w, w', hw, hw', rfl⟩, hq⟩⟩
        all_goals exact absurd h (Refused.run_ne_ok (failAhead_refused _))
      · rw [if_neg hc] at h
        exact absurd h (Refused.run_ne_ok (failAhead_refused _))

/-- Before an item: blanks and the closing bracket, not consumed, or a separator. -/
theorem nextItem_ok {first more : Bool} (h : (nextItem first).run c = .ok more c') :
    ∃ s, Consumed c c' s ∧
      (more = false ∧ Blanks s ∧ c'.rest.head? = some 93 ∨ more = true ∧ Sep first s) := by
  unfold nextItem at h
  obtain ⟨o, c₁, h₁, h⟩ := run_bind_ok h
  obtain ⟨w, hc₁, hw, -, rfl⟩ := skipBlanks_ok h₁
  split at h
  · exact absurd h (Refused.run_ne_ok (failAhead_refused _))
  · rename_i he
    obtain ⟨rfl, rfl⟩ := run_pure_ok h
    exact ⟨w, hc₁, .inl ⟨rfl, hw, he⟩⟩
  · rename_i b _ he
    cases first with
    | true =>
      rw [if_pos rfl] at h
      obtain ⟨rfl, rfl⟩ := run_pure_ok h
      exact ⟨w, hc₁, .inr ⟨rfl, hw⟩⟩
    | false =>
      rw [if_neg Bool.false_ne_true] at h
      by_cases hc : (b == 44) = true
      · -- a comma, then blanks before the next item
        rw [if_pos hc] at h
        cases beq_iff_eq.1 hc
        obtain ⟨t, ht⟩ := List.head?_eq_some_iff.1 he
        obtain ⟨_, c₂, h₂, h⟩ := run_bind_ok h
        cases bump_ok h₂
        obtain ⟨o, c₃, h₃, h⟩ := run_bind_ok h
        obtain ⟨w', hc₃, hw', -, rfl⟩ := skipBlanks_ok h₃
        split at h
        · exact absurd h (Refused.run_ne_ok (failAhead_refused _))
        · obtain ⟨rfl, rfl⟩ := run_pure_ok h
          exact ⟨w ++ 44 :: w', by simpa using (hc₁.trans (Consumed.bump ht)).trans hc₃,
            .inr ⟨rfl, ⟨w, w', hw, hw', rfl⟩⟩⟩
        · exact absurd h (Refused.run_ne_ok (failAhead_refused _))
      · rw [if_neg hc] at h
        exact absurd h (Refused.run_ne_ok (failAhead_refused _))

theorem colon_ok {u : Unit} (h : colon.run c = .ok u c') :
    ∃ w, Blanks w ∧ Consumed c c' (w ++ [58]) := by
  unfold colon at h
  obtain ⟨o, c₁, h₁, h⟩ := run_bind_ok h
  obtain ⟨w, hc₁, hw, -, rfl⟩ := skipBlanks_ok h₁
  split at h
  · rename_i hq
    obtain ⟨t, ht⟩ := List.head?_eq_some_iff.1 hq
    cases bump_ok h
    exact ⟨w, hw, hc₁.trans (Consumed.bump ht)⟩
  all_goals exact absurd h (Refused.run_ne_ok (failAhead_refused _))

theorem closeObject_ok {u : Unit} (h : closeObject.run c = .ok u c') :
    ∃ w, Blanks w ∧ Consumed c c' (w ++ [125]) := by
  unfold closeObject at h
  obtain ⟨o, c₁, h₁, h⟩ := run_bind_ok h
  obtain ⟨w, hc₁, hw, -, rfl⟩ := skipBlanks_ok h₁
  split at h
  · rename_i hq
    obtain ⟨t, ht⟩ := List.head?_eq_some_iff.1 hq
    cases bump_ok h
    exact ⟨w, hw, hc₁.trans (Consumed.bump ht)⟩
  all_goals exact absurd h (Refused.run_ne_ok (failAhead_refused _))

theorem closeArray_ok {u : Unit} (h : closeArray.run c = .ok u c') :
    ∃ w, Blanks w ∧ Consumed c c' (w ++ [93]) := by
  unfold closeArray at h
  obtain ⟨o, c₁, h₁, h⟩ := run_bind_ok h
  obtain ⟨w, hc₁, hw, -, rfl⟩ := skipBlanks_ok h₁
  split at h
  · rename_i hq
    obtain ⟨t, ht⟩ := List.head?_eq_some_iff.1 hq
    cases bump_ok h
    exact ⟨w, hw, hc₁.trans (Consumed.bump ht)⟩
  · -- a comma where the array should close is refused whatever follows it
    exact absurd h (Refused.run_ne_ok
      (Refused.of_bind fun _ => Refused.of_bind fun _ => by split <;> exact failAhead_refused _))
  all_goals exact absurd h (Refused.run_ne_ok (failAhead_refused _))

/-- **A member reader's step**: blanks before the closing brace, which end the members, or a
    separator and a key, after which the reader the key calls for goes on. -/
theorem nextKey_member_ok {α : Type} {first : Bool} {x : String → Reader α} {a b : α}
    (h : (nextKey first >>= fun more => if more then readKey >>= x else pure a).run c = .ok b c') :
    (b = a ∧ ∃ s, Blanks s ∧ Consumed c c' s) ∨
      ∃ s k key c₁, Sep first s ∧ KeyString k key ∧ Consumed c c₁ (s ++ 34 :: k) ∧
        (x key).run c₁ = .ok b c' := by
  obtain ⟨more, c₁, h₁, h⟩ := run_bind_ok h
  obtain ⟨s, hcs, hs⟩ := nextKey_ok h₁
  rcases hs with ⟨rfl, hs, -⟩ | ⟨rfl, hs, hq⟩
  · -- the closing brace
    rw [if_neg Bool.false_ne_true] at h
    obtain ⟨rfl, rfl⟩ := run_pure_ok h
    exact .inl ⟨rfl, s, hs, hcs⟩
  · rw [if_pos rfl] at h
    obtain ⟨key, c₂, h₂, h⟩ := run_bind_ok h
    obtain ⟨k, hk, hck⟩ := readKey_ok h₂
    obtain ⟨tq, htq⟩ := List.head?_eq_some_iff.1 hq
    exact .inr ⟨s, k, key, c₂, hs, hk,
      by simpa using (hcs.trans (Consumed.bump htq)).trans hck, h⟩

/-- After the document, blanks only. -/
theorem finish_ok {u : Unit} (h : finish.run c = .ok u c') : Blanks c.rest := by
  unfold finish at h
  obtain ⟨o, c₁, h₁, h⟩ := run_bind_ok h
  obtain ⟨w, hc₁, hw, -, rfl⟩ := skipBlanks_ok h₁
  split at h
  · exact absurd h (Refused.run_ne_ok (failAhead_refused _))
  · rename_i he
    rw [hc₁.1, List.head?_eq_none_iff.1 he, List.append_nil]
    exact hw

theorem readBool_ok {b : Bool} (h : readBool.run c = .ok b c') :
    ∃ w, Blanks w ∧ Consumed c c' (w ++ boolBytes b) := by
  unfold readBool at h
  obtain ⟨o, c₁, h₁, h⟩ := run_bind_ok (positioned_run_ok h)
  obtain ⟨w, hc₁, hw, -, rfl⟩ := skipBlanks_ok h₁
  split at h
  · exact absurd h (Refused.run_ne_ok (failAhead_refused _))
  · rename_i ht
    obtain ⟨t, ht⟩ := List.head?_eq_some_iff.1 ht
    obtain ⟨rfl, hx⟩ := bump_keyword_ok ht h
    exact ⟨w, hw, hc₁.trans hx⟩
  · rename_i hf
    obtain ⟨t, hf⟩ := List.head?_eq_some_iff.1 hf
    obtain ⟨rfl, hx⟩ := bump_keyword_ok hf h
    exact ⟨w, hw, hc₁.trans hx⟩
  · exact absurd h (Refused.run_ne_ok (wrongKind_refused _))

/-- Before the closing bracket, no item follows and nothing is consumed. -/
theorem nextItem_at_close {first more : Bool} (hc : c.rest.head? = some 93)
    (h : (nextItem first).run c = .ok more c') : more = false ∧ Consumed c c' [] := by
  obtain ⟨t, ht⟩ := List.head?_eq_some_iff.1 hc
  exact (nextItem_end first).ok_eq ht rfl h

/-- A container consumed its opening byte, what its contents took a level down, and what its
    closing part took. -/
theorem Consumed.within {o : UInt8} {c₁ : Cursor} {bs cs : Bytes} (hd : 1 < c.depth)
    (hc : c.rest.head? = some o) (hb : Consumed { c with depth := c.depth - 1 }.bump c₁ bs)
    (hcl : Consumed { c₁ with depth := c₁.depth + 1 } c' cs) : Consumed c c' (o :: (bs ++ cs)) := by
  obtain ⟨t, ht⟩ := List.head?_eq_some_iff.1 hc
  obtain ⟨hb₁, hb₂⟩ := hb
  obtain ⟨hc₁, hc₂⟩ := hcl
  simp only [Cursor.bump_rest, Cursor.bump_depth, ht, List.tail_cons] at hb₁ hb₂
  refine ⟨by rw [ht, hb₁, hc₁]; simp, ?_⟩
  simp only at hc₂
  omega

/-! ## 3. These texts are read -/

theorem nextKey_sep {first : Bool} {s : Bytes} (hs : Sep first s) :
    Reads (nextKey first) d s (34 :: rest) true := by
  unfold nextKey
  cases first with
  | true =>
    exact ((skipBlanks_upto hs (rfl : isBlankByte 34 = false)).bind (Reads.pure true) rfl).congr
      (List.append_nil _)
  | false =>
    obtain ⟨w, w', hw, hw', rfl⟩ := hs
    exact ((skipBlanks_upto hw (rfl : isBlankByte 44 = false)).bind ((bump_reads 44).bind
      ((skipBlanks_upto hw' (rfl : isBlankByte 34 = false)).bind (Reads.pure true) rfl) rfl)
      rfl).congr (by simp)

theorem nextKey_close {first : Bool} {w : Bytes} (hw : Blanks w) :
    Reads (nextKey first) d w (125 :: rest) false := by
  unfold nextKey
  exact ((skipBlanks_upto hw (rfl : isBlankByte 125 = false)).bind (Reads.pure false) rfl).congr
    (List.append_nil _)

theorem nextItem_sep {first : Bool} {s : Bytes} {b : UInt8} (hs : Sep first s) (hb : b ≠ 93)
    (hu : isBlankByte b = false) : Reads (nextItem first) d s (b :: rest) true := by
  unfold nextItem
  cases first with
  | true =>
    refine ((skipBlanks_upto hs hu).bind ?_ rfl).congr (List.append_nil _)
    split
    · contradiction
    · simp_all
    · exact Reads.pure true
  | false =>
    obtain ⟨w, w', hw, hw', rfl⟩ := hs
    rw [show w ++ 44 :: w' = w ++ ([44] ++ (w' ++ [])) by simp]
    refine (skipBlanks_upto hw (rfl : isBlankByte 44 = false)).bind
      ((bump_reads 44).bind ?_ rfl) rfl
    refine (skipBlanks_upto hw' hu).bind ?_ rfl
    split
    · simp_all
    · exact Reads.pure true
    · contradiction

theorem nextItem_close {first : Bool} {w : Bytes} (hw : Blanks w) :
    Reads (nextItem first) d w (93 :: rest) false := by
  unfold nextItem
  exact ((skipBlanks_upto hw (rfl : isBlankByte 93 = false)).bind (Reads.pure false) rfl).congr
    (List.append_nil _)

theorem colon_after {w : Bytes} (hw : Blanks w) : Reads colon d (w ++ [58]) rest () := by
  unfold colon
  exact (skipBlanks_upto hw (rfl : isBlankByte 58 = false)).bind (bump_reads 58) rfl

theorem closeArray_after {w : Bytes} (hw : Blanks w) : Reads closeArray d (w ++ [93]) rest () := by
  unfold closeArray
  exact (skipBlanks_upto hw (rfl : isBlankByte 93 = false)).bind (bump_reads 93) rfl

/-- A member reader's step before the closing brace: the members end. -/
theorem nextKey_close_reads {α : Type} {first : Bool} {y : Reader α} {a : α} {w : Bytes}
    (hw : Blanks w) :
    Reads (nextKey first >>= fun more => if more then y else pure a) d w (125 :: rest) a := by
  refine ((nextKey_close hw).bind ?_ rfl).congr (List.append_nil _)
  rw [if_neg Bool.false_ne_true]
  exact Reads.pure a

/-- **A member reader's step on a member**: its separator and key are read, then the member by
    the reader its key calls for. -/
theorem nextKey_member_reads {α : Type} {first : Bool} {x : String → Reader α} {a b : α}
    {s k bs : Bytes} {key : String} (hs : Sep first s) (hk : KeyString k key)
    (hx : Reads (x key) d bs rest b) :
    Reads (nextKey first >>= fun more => if more then readKey >>= x else pure a) d
      (s ++ (34 :: k ++ bs)) rest b := by
  refine (nextKey_sep hs).bind ?_ rfl
  rw [if_pos rfl]
  exact (readKey_reads hk).bind hx rfl

theorem readBool_after {w : Bytes} (hw : Blanks w) (b : Bool) :
    Reads readBool d (w ++ boolBytes b) rest b := by
  unfold readBool
  refine Reads.positioned ?_
  cases b
  · exact (skipBlanks_upto hw rfl).bind ((bump_reads 102).bind
      ((keyword_reads [97, 108, 115, 101]).bind (Reads.pure false) rfl) rfl) rfl
  · exact (skipBlanks_upto hw rfl).bind ((bump_reads 116).bind
      ((keyword_reads [114, 117, 101]).bind (Reads.pure true) rfl) rfl) rfl

theorem readBool_reads (b : Bool) : Reads readBool d (boolBytes b) rest b :=
  readBool_after blanks_nil b

end SmartHelmet.Json
