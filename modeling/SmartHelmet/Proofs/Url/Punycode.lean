import Mathlib
import SmartHelmet.Url.Punycode
/-!
# Punycode read back

Decoding undoes encoding: `decode (encode label)` gives back the code points of every label
(`decode_encode`). The encoder sends each non-ASCII code point `m`, in increasing order, as a
distance: one step per code point below `m` passed, over every value below `m` not yet sent,
and then to the place of this occurrence. The decoder keeps the same count from its side: the
code points inserted so far, the last value `n` and the position `i` after the last insertion.
Encoder and decoder stay in step through one equation:

* between two rounds, with the code points below `n'` handled (`Between`):
  `i + delta = (n' - n) * (h + 1)`, `h` the number handled;
* inside the round of `m`, after the code points `pre` of the label (`InRound`):
  `i + delta = (m - n) * (h + 1) + p`, `p` the number of code points of `pre` up to `m`.

Reading the digits the encoder writes for `delta` (`decodeDigits_encodeDigits`) the decoder finds
`i + delta`, whose quotient by `h + 1` moves `n` to `m` and whose remainder is `p`: the place
the encoder is at.

Also here: what an encoding is made of (`mem_encode`), and that the case of the digits does not
matter to the decoder (`decode_map_toLower`).
-/

namespace SmartHelmet.Url.Punycode

/-! ## 1. Digits -/

theorem digitValue_digitChar {d : Nat} (h : d < 36) : digitValue (digitChar d) = some d := by
  have hall : ∀ e ∈ List.range 36, digitValue (digitChar e) = some e := by decide
  exact hall d (List.mem_range.2 h)

theorem encodeDigits_ne_nil (bias k q : Nat) : encodeDigits bias k q ≠ [] := by
  rw [encodeDigits]
  split <;> simp

/-- Every digit written is the character of a digit below 36. -/
theorem mem_encodeDigits (bias : Nat) :
    ∀ (q k : Nat) (c : Char), c ∈ encodeDigits bias k q → ∃ d < 36, c = digitChar d := by
  intro q
  induction q using Nat.strongRecOn with
  | _ q ih =>
    intro k c hc
    have ht1 := threshold_pos k bias
    have ht2 := threshold_le k bias
    rw [encodeDigits] at hc
    split at hc
    · exact ⟨q, by omega, List.mem_singleton.1 hc⟩
    · rcases List.mem_cons.1 hc with rfl | hc
      · exact ⟨_, by have := Nat.mod_lt (q - threshold k bias) (show 0 < 36 - threshold k bias
          by omega); omega, rfl⟩
      · exact ih _ (lt_of_le_of_lt (Nat.div_le_self _ _) (by omega)) _ _ hc

/-- **A number's digits read back**, with whatever follows them left as it is. Digits come
    least significant first; one below its position's threshold ends the number. -/
theorem decodeDigits_encodeDigits (bias : Nat) :
    ∀ (q k w i : Nat) (rest : List Char),
      decodeDigits bias (encodeDigits bias k q ++ rest) k w i = some (i + q * w, rest) := by
  intro q
  induction q using Nat.strongRecOn with
  | _ q ih =>
    intro k w i rest
    have ht1 := threshold_pos k bias
    have ht2 := threshold_le k bias
    rw [encodeDigits]
    split
    · next hlt =>
      simp [decodeDigits, digitValue_digitChar (show q < 36 by omega), hlt]
    · next hge =>
      -- the digit written is `t + r` and `q'` is left, with `q = t + r + (36 - t) * q'`
      generalize ht : threshold k bias = t at *
      have hr := Nat.mod_lt (q - t) (show 0 < 36 - t by omega)
      have hq := Nat.mod_add_div (q - t) (36 - t)
      generalize (q - t) % (36 - t) = r at *
      have hlt : (q - t) / (36 - t) < q := lt_of_le_of_lt (Nat.div_le_self _ _) (by omega)
      generalize (q - t) / (36 - t) = q' at *
      simp only [List.cons_append, decodeDigits, digitValue_digitChar (show t + r < 36 by omega),
        Option.bind_eq_bind, Option.bind_some, ht, if_neg (show ¬t + r < t by omega)]
      rw [ih q' hlt]
      have hsum : q = t + r + (36 - t) * q' := by omega
      generalize 36 - t = s at hsum
      subst hsum
      congr 2
      ring

/-! ## 2. The code points of a round, in increasing order -/

theorem mem_insertSorted (x y : Nat) :
    ∀ l : List Nat, y ∈ insertSorted x l ↔ y = x ∨ y ∈ l
  | [] => by simp [insertSorted]
  | z :: l => by
    unfold insertSorted
    split
    · simp
    · split
      · rename_i h
        have : x = z := by simpa using h
        subst this
        simp
      · simp only [List.mem_cons, mem_insertSorted x y l]
        tauto

theorem insertSorted_sorted (x : Nat) :
    ∀ l : List Nat, l.Pairwise (· < ·) → (insertSorted x l).Pairwise (· < ·)
  | [] => fun _ => by simp [insertSorted]
  | z :: l => fun h => by
    rw [List.pairwise_cons] at h
    unfold insertSorted
    split
    · rename_i hxz
      refine List.Pairwise.cons (fun y hy => ?_) (List.Pairwise.cons h.1 h.2)
      rcases List.mem_cons.1 hy with rfl | hy
      · exact hxz
      · exact lt_trans hxz (h.1 y hy)
    · split
      · exact List.Pairwise.cons h.1 h.2
      · rename_i hxz hne
        have hzx : z < x := by simp at hne; omega
        refine List.Pairwise.cons (fun y hy => ?_) (insertSorted_sorted x l h.2)
        rcases (mem_insertSorted x y l).1 hy with rfl | hy
        · exact hzx
        · exact h.1 y hy

/-- The values a round goes through: every value of `l` once, in increasing order. -/
theorem foldr_insertSorted (l : List Nat) :
    (l.foldr insertSorted []).Pairwise (· < ·) ∧ ∀ x, x ∈ l.foldr insertSorted [] ↔ x ∈ l := by
  induction l with
  | nil => simp
  | cons y l ih =>
    refine ⟨insertSorted_sorted y _ ih.1, fun x => ?_⟩
    rw [List.foldr_cons, mem_insertSorted, ih.2, List.mem_cons]

/-! ## 3. One number read -/

/-- The state of the decoder between two numbers: the code points so far, the last value
    inserted, the position after it, and the bias. -/
structure Decoder where
  out : List Nat
  n : Nat
  i : Nat
  bias : Nat

/-- The decoder run from a state on the rest of the input. -/
def Decoder.run (d : Decoder) (input : List Char) : Option (List Nat) :=
  decodeLoop input d.out d.n d.i d.bias

/-- **Reading the digits of a distance**: a distance that reaches `m` at position `pos`
    inserts `m` there. -/
theorem Decoder.run_encodeDigits (d : Decoder) {q m pos : Nat} (rest : List Char)
    (hq : d.i + q = (m - d.n) * (d.out.length + 1) + pos) (hpos : pos ≤ d.out.length)
    (hn : d.n ≤ m) (hm : 0x80 ≤ m) (hvalid : m.isValidChar) :
    d.run (encodeDigits d.bias 36 q ++ rest) =
      Decoder.run ⟨d.out.take pos ++ [m] ++ d.out.drop pos, m, pos + 1,
        adapt q (d.out.length + 1) (d.i == 0)⟩ rest := by
  obtain ⟨c, cs, hcs⟩ := List.exists_cons_of_ne_nil (encodeDigits_ne_nil d.bias 36 q)
  have hdigits := decodeDigits_encodeDigits d.bias q 36 1 d.i rest
  rw [hcs, List.cons_append] at hdigits
  -- the quotient and the remainder of `i + q` by `h + 1`
  have hdiv : (d.i + q) / (d.out.length + 1) = m - d.n := by
    rw [hq, Nat.add_comm, Nat.add_mul_div_right _ _ (Nat.succ_pos _),
      Nat.div_eq_of_lt (by omega), Nat.zero_add]
  have hmod : (d.i + q) % (d.out.length + 1) = pos := by
    rw [hq, Nat.add_comm, Nat.add_mul_mod_self_right, Nat.mod_eq_of_lt (by omega)]
  have hok : ¬((decide (m < 128) || decide (55296 ≤ m) && decide (m ≤ 57343) ||
      decide (m > 1114111)) = true) := by
    simp only [Nat.isValidChar] at hvalid
    simp only [Bool.or_eq_true, Bool.and_eq_true, decide_eq_true_eq]
    omega
  rw [Decoder.run, hcs, List.cons_append, decodeLoop.eq_2]
  split
  · rename_i heq
    rw [hdigits] at heq
    exact absurd heq (by simp)
  · rename_i j more heq
    rw [hdigits] at heq
    obtain ⟨rfl, rfl⟩ := Prod.mk.inj (Option.some.inj heq)
    simp only [Nat.mul_one, Nat.add_sub_cancel_left]
    rw [hdiv, hmod, Nat.add_sub_cancel' hn, if_neg hok]
    rfl

/-! ## 4. One round -/

section Rounds

-- `b` is the number of basic code points of the label
variable (b : Nat)

/-- **Encoder and decoder in step inside the round of `m`**, with the code points `pre` of the
    label passed and `post` still to come: the decoder holds the code points of `pre` up to `m`
    and those of `post` below `m`, and the distance the encoder has counted takes the decoder
    to where the encoder is. -/
structure InRound (m : Nat) (pre post : List Nat) (e : Encoder) (d : Decoder) : Prop where
  out : d.out = pre.filter (· ≤ m) ++ post.filter (· < m)
  handled : e.handled = d.out.length
  basic_le : b ≤ e.handled
  n_le : d.n ≤ m
  seen : m ∈ pre → d.n = m
  sync : d.i + e.delta = (m - d.n) * (e.handled + 1) + (pre.filter (· ≤ m)).length
  first : (d.i == 0) = (e.handled == b)
  bias : d.bias = e.bias

/-- **One code point passed** keeps encoder and decoder in step; when it is `m`, the digits
    written take the decoder along. -/
theorem InRound.scan {m : Nat} (hm : 0x80 ≤ m) (hvalid : m.isValidChar) {pre post : List Nat}
    {c : Nat} {e : Encoder} {d : Decoder} (h : InRound b m pre (c :: post) e d) :
    ∃ X d', (e.scan b m c).out = e.out ++ X ∧ InRound b m (pre ++ [c]) post (e.scan b m c) d' ∧
      ∀ s, d.run (X ++ s) = d'.run s := by
  have hfilter : ∀ p : Nat → Bool, (pre ++ [c]).filter p = pre.filter p ++ [c].filter p :=
    fun p => List.filter_append pre [c]
  by_cases hlt : c < m
  · -- a code point below `m`: one step more, on both sides
    refine ⟨[], d, by simp [Encoder.scan, hlt], ⟨?_, ?_, ?_, h.n_le, ?_, ?_, ?_, ?_⟩,
      fun s => by simp⟩
    · rw [h.out, hfilter]; simp [hlt, hlt.le]
    · simpa [Encoder.scan, hlt] using h.handled
    · simpa [Encoder.scan, hlt] using h.basic_le
    · intro hmem
      rcases List.mem_append.1 hmem with hmem | hmem
      · exact h.seen hmem
      · simp at hmem; omega
    · have := h.sync
      simp only [Encoder.scan, hlt, if_true, hfilter, List.length_append]
      simp [hlt.le]
      omega
    · simpa [Encoder.scan, hlt] using h.first
    · simpa [Encoder.scan, hlt] using h.bias
  by_cases heq : c = m
  · -- an occurrence of `m`: its distance written and read, `m` inserted where the encoder is
    subst heq
    have hpos : (pre.filter (· ≤ c)).length ≤ d.out.length := by rw [h.out]; simp
    have hsync : d.i + e.delta = (c - d.n) * (d.out.length + 1) + (pre.filter (· ≤ c)).length := by
      rw [← h.handled]; exact h.sync
    generalize hp : (pre.filter (· ≤ c)).length = p at hpos hsync
    refine ⟨encodeDigits e.bias 36 e.delta, ⟨d.out.take p ++ [c] ++ d.out.drop p, c, p + 1,
      adapt e.delta (d.out.length + 1) (d.i == 0)⟩, by simp [Encoder.scan], ⟨?_, ?_, ?_, le_rfl,
      fun _ => rfl, ?_, ?_, ?_⟩, fun s => ?_⟩
    · rw [h.out, hfilter, ← hp]
      simp
    · simp [Encoder.scan, h.handled]
      omega
    · simp only [Encoder.scan, lt_irrefl, if_false, beq_self_eq_true, if_true]
      have := h.basic_le; omega
    · simp only [Encoder.scan, lt_irrefl, if_false, beq_self_eq_true, if_true, hfilter]
      simp [hp]
    · simp only [Encoder.scan, lt_irrefl, if_false, beq_self_eq_true, if_true]
      have := h.basic_le
      simp; omega
    · simp only [Encoder.scan, lt_irrefl, if_false, beq_self_eq_true, if_true, h.first,
        h.handled]
    · rw [← h.bias]
      exact d.run_encodeDigits s hsync hpos h.n_le hm hvalid
  · -- a code point above `m`: passed over
    have hgt : ¬c ≤ m := by omega
    refine ⟨[], d, by simp [Encoder.scan, hlt, heq], ⟨?_, ?_, ?_, h.n_le, ?_, ?_, ?_, ?_⟩,
      fun s => by simp⟩
    · rw [h.out, hfilter]; simp [hlt, hgt]
    · simpa [Encoder.scan, hlt, heq] using h.handled
    · simpa [Encoder.scan, hlt, heq] using h.basic_le
    · intro hmem
      rcases List.mem_append.1 hmem with hmem | hmem
      · exact h.seen hmem
      · simp at hmem; omega
    · simpa [Encoder.scan, hlt, heq, hfilter, hgt] using h.sync
    · simpa [Encoder.scan, hlt, heq] using h.first
    · simpa [Encoder.scan, hlt, heq] using h.bias

/-- **A whole pass over the label** keeps encoder and decoder in step. -/
theorem InRound.foldl_scan {m : Nat} (hm : 0x80 ≤ m) (hvalid : m.isValidChar) :
    ∀ (post pre : List Nat) (e : Encoder) (d : Decoder), InRound b m pre post e d →
      ∃ X d', (post.foldl (Encoder.scan b m) e).out = e.out ++ X ∧
        InRound b m (pre ++ post) [] (post.foldl (Encoder.scan b m) e) d' ∧
        ∀ s, d.run (X ++ s) = d'.run s
  | [], pre, e, d, h => ⟨[], d, by simp, by simpa using h, fun s => by simp⟩
  | c :: post, pre, e, d, h => by
    obtain ⟨X, d', hout, h', hrun⟩ := h.scan b hm hvalid
    obtain ⟨Y, d'', hout', h'', hrun'⟩ := InRound.foldl_scan hm hvalid post _ _ _ h'
    refine ⟨X ++ Y, d'', ?_, by simpa using h'', fun s => ?_⟩
    · rw [List.foldl_cons, hout', hout, List.append_assoc]
    · rw [List.append_assoc, hrun, hrun']

/-- **Encoder and decoder in step between two rounds**, the code points of `L` below `n'`
    handled. -/
structure Between (L : List Nat) (n' : Nat) (e : Encoder) (d : Decoder) : Prop where
  out : d.out = L.filter (· < n')
  handled : e.handled = d.out.length
  basic_le : b ≤ e.handled
  n_le : d.n ≤ n'
  sync : d.i + e.delta = (n' - d.n) * (e.handled + 1)
  first : (d.i == 0) = (e.handled == b)
  bias : d.bias = e.bias

/-- **One round**, for the next value `m` of the label: the encoder's distance grows by a lap
    of the handled code points for every value skipped, and the pass over the label keeps the
    two in step. -/
theorem Between.round {L : List Nat} {n m : Nat} {e : Encoder} {d : Decoder}
    (h : Between b L n e d) (hnm : n ≤ m) (hgap : L.filter (· < m) = L.filter (· < n))
    (hmL : m ∈ L) (hm : 0x80 ≤ m) (hvalid : m.isValidChar) :
    let e' := L.foldl (Encoder.scan b m) { e with delta := e.delta + (m - n) * (e.handled + 1) }
    ∃ X d', ({ e' with delta := e'.delta + 1 } : Encoder).out = e.out ++ X ∧
      Between b L (m + 1) { e' with delta := e'.delta + 1 } d' ∧
      ∀ s, d.run (X ++ s) = d'.run s := by
  intro e'
  have hstart : InRound b m [] L { e with delta := e.delta + (m - n) * (e.handled + 1) } d := by
    refine ⟨by simp [h.out, hgap], h.handled, h.basic_le, le_trans h.n_le hnm, by simp, ?_,
      h.first, h.bias⟩
    have hsum : (n - d.n) * (e.handled + 1) + (m - n) * (e.handled + 1) =
        (m - d.n) * (e.handled + 1) := by
      rw [← Nat.add_mul]; congr 1; have := h.n_le; omega
    have := h.sync
    simp only [List.filter_nil, List.length_nil, Nat.add_zero]
    omega
  obtain ⟨X, d', hout, h', hrun⟩ := InRound.foldl_scan b hm hvalid L [] _ d hstart
  refine ⟨X, d', hout, ⟨?_, h'.handled, h'.basic_le, by have := h'.n_le; omega, ?_, h'.first,
    h'.bias⟩, hrun⟩
  · rw [h'.out]
    simp
  · -- `m` has been met, so the decoder stands at `m`, past every handled code point
    dsimp only
    have hn : d'.n = m := h'.seen (by simpa using hmL)
    have hsync : d'.i + e'.delta = (m - d'.n) * (e'.handled + 1) + (([] ++ L).filter (· ≤ m)).length :=
      h'.sync
    have hlen : (L.filter (· ≤ m)).length = e'.handled := by
      rw [h'.handled, h'.out]; simp
    simp only [List.nil_append] at hsync
    rw [hn, Nat.sub_self, Nat.zero_mul, Nat.zero_add, hlen] at hsync
    rw [hn, Nat.add_sub_cancel_left, Nat.one_mul]
    omega

/-- **All rounds**: the digits the encoder writes, read from the state it started in, give
    back the label. -/
theorem Between.encodeLoop {L : List Nat} (hL : ∀ x ∈ L, x.isValidChar) :
    ∀ (wide : List Nat) (n : Nat) (e : Encoder) (d : Decoder),
      wide.Pairwise (· < ·) → (∀ x, x ∈ wide ↔ x ∈ L ∧ n ≤ x) → 0x80 ≤ n → Between b L n e d →
      ∃ X, (encodeLoop L b wide n e).out = e.out ++ X ∧ d.run X = some L
  | [], n, e, d, _, hwide, _, h => by
    refine ⟨[], by simp [SmartHelmet.Url.Punycode.encodeLoop], ?_⟩
    have hall : L.filter (· < n) = L := List.filter_eq_self.2 fun x hx => by
      have := hwide x; simp only [List.not_mem_nil, false_iff, not_and, not_le] at this
      simpa using this hx
    simp [Decoder.run, decodeLoop.eq_1, h.out, hall]
  | m :: rest, n, e, d, hsorted, hwide, hn, h => by
    rw [List.pairwise_cons] at hsorted
    have hmL := ((hwide m).1 List.mem_cons_self)
    -- no value of the label lies between `n` and `m`
    have hgap : L.filter (· < m) = L.filter (· < n) := List.filter_congr fun x hx => by
      by_cases hxn : n ≤ x
      · have hx' := (hwide x).2 ⟨hx, hxn⟩
        rcases List.mem_cons.1 hx' with rfl | hx'
        · simp [hxn]
        · have := hsorted.1 x hx'; simp; omega
      · simp; omega
    obtain ⟨X, d', hout, h', hrun⟩ := h.round b hmL.2 hgap hmL.1 (by omega) (hL m hmL.1)
    have hwide' : ∀ x, x ∈ rest ↔ x ∈ L ∧ m + 1 ≤ x := fun x => by
      constructor
      · intro hx
        exact ⟨((hwide x).1 (List.mem_cons_of_mem m hx)).1, hsorted.1 x hx⟩
      · rintro ⟨hxL, hmx⟩
        rcases List.mem_cons.1 ((hwide x).2 ⟨hxL, by omega⟩) with rfl | hx
        · omega
        · exact hx
    obtain ⟨Y, hout', hrun'⟩ := Between.encodeLoop hL rest (m + 1) _ d' hsorted.2 hwide'
      (by omega) h'
    refine ⟨X ++ Y, ?_, ?_⟩
    · rw [SmartHelmet.Url.Punycode.encodeLoop]
      simp only at hout hout' ⊢
      rw [hout', hout, List.append_assoc]
    · rw [hrun, hrun']

end Rounds

/-! ## 5. Decoding an encoding -/

theorem digitChar_ne_hyphen {d : Nat} (h : d < 36) : digitChar d ≠ '-' := by
  have hall : ∀ e ∈ List.range 36, digitChar e ≠ '-' := by decide
  exact hall d (List.mem_range.2 h)

/-- A pass over the label writes digits only. -/
theorem mem_foldl_scan (b m : Nat) :
    ∀ (label : List Nat) (e : Encoder) (c : Char), c ∈ (label.foldl (Encoder.scan b m) e).out →
      c ∈ e.out ∨ ∃ d < 36, c = digitChar d
  | [], e, c, h => .inl h
  | x :: label, e, c, h => by
    rcases mem_foldl_scan b m label _ c h with h | h
    · unfold Encoder.scan at h
      split at h
      · exact .inl h
      · split at h
        · rcases List.mem_append.1 h with h | h
          · exact .inl h
          · exact .inr (mem_encodeDigits _ _ _ _ h)
        · exact .inl h
    · exact .inr h

/-- The rounds write digits only. -/
theorem mem_encodeLoop (label : List Nat) (b : Nat) :
    ∀ (wide : List Nat) (n : Nat) (e : Encoder) (c : Char), c ∈ (encodeLoop label b wide n e).out →
      c ∈ e.out ∨ ∃ d < 36, c = digitChar d
  | [], _, _, _, h => .inl h
  | m :: rest, n, e, c, h => by
    rw [encodeLoop] at h
    rcases mem_encodeLoop label b rest _ _ c h with h | h
    · have h' := mem_foldl_scan b m label _ c h
      exact h'
    · exact .inr h

theorem idxOf_append_of_not_mem {l₁ : List Char} {c : Char} (h : c ∉ l₁) (l₂ : List Char) :
    (l₁ ++ l₂).idxOf c = l₁.length + l₂.idxOf c := by
  rw [List.idxOf_append, if_neg h, Nat.add_comm]

/-- **Decoding undoes encoding**: the encoding of a label decodes to its code points. -/
theorem decode_encode (label : List Char) :
    decode (encode label).toList = some (label.map Char.toNat) := by
  have hvalid : ∀ x ∈ label.map Char.toNat, x.isValidChar := fun x hx => by
    obtain ⟨c, -, rfl⟩ := List.mem_map.1 hx
    exact c.valid
  obtain ⟨hsorted, hmem⟩ := foldr_insertSorted ((label.map Char.toNat).filter (0x80 ≤ ·))
  have hwide : ∀ x, x ∈ ((label.map Char.toNat).filter (0x80 ≤ ·)).foldr insertSorted [] ↔
      x ∈ label.map Char.toNat ∧ 0x80 ≤ x := fun x => by
    rw [hmem, List.mem_filter, decide_eq_true_iff]
  -- the decoder starts with the basic code points, as the encoder does
  have hbasic : (label.filter (·.toNat < 0x80)).map Char.toNat =
      (label.map Char.toNat).filter (· < 0x80) := by
    rw [List.filter_map]; rfl
  have hstart : Between (label.filter (·.toNat < 0x80)).length (label.map Char.toNat) 0x80
      ⟨[], 0, 72, (label.filter (·.toNat < 0x80)).length⟩
      ⟨(label.filter (·.toNat < 0x80)).map Char.toNat, 0x80, 0, 72⟩ :=
    ⟨hbasic, by simp, le_rfl, le_rfl, by simp, by simp, rfl⟩
  obtain ⟨X, hout, hrun⟩ := Between.encodeLoop _ hvalid _ _ _ _ hsorted hwide le_rfl hstart
  have hX : '-' ∉ X := fun h => by
    have := mem_encodeLoop _ _ _ _ _ '-' (hout ▸ List.mem_append_right _ h)
    rcases this with h | ⟨d, hd, he⟩
    · simp at h
    · exact digitChar_ne_hyphen hd he.symm
  have hA : ∀ c ∈ label.filter (·.toNat < 0x80), c.toNat < 0x80 := fun c hc => by
    simpa using (List.mem_filter.1 hc).2
  simp only [Decoder.run] at hrun
  unfold encode decode
  simp only [String.toList_ofList, hout, List.nil_append]
  generalize (label.filter (·.toNat < 0x80)) = basic at hrun hA ⊢
  have hascii : basic.any (·.toNat ≥ 0x80) = false := by
    simpa using fun c hc => hA c hc
  by_cases hb : basic = []
  · -- no basic code points: no delimiter, and the text is all digits
    subst hb
    simpa [hX] using hrun
  · -- the last `-` is the delimiter written after the basic code points
    have hidx : (X.reverse ++ '-' :: basic.reverse).idxOf '-' = X.length := by
      rw [idxOf_append_of_not_mem fun h => hX (List.mem_reverse.1 h)]
      simp
    simp [hb, hidx, hascii, hrun]

/-! ## 6. What an encoding is made of -/

/-- **An encoding holds** the label's ASCII characters, a `-`, and digits. -/
theorem mem_encode {label : List Char} {c : Char} (h : c ∈ (encode label).toList) :
    (c ∈ label ∧ c.toNat < 0x80) ∨ c = '-' ∨ ∃ d < 36, c = digitChar d := by
  unfold encode at h
  simp only [String.toList_ofList, List.mem_append] at h
  rcases h with (h | h) | h
  · exact .inl (by simpa using List.mem_filter.1 h)
  · split at h
    · simp at h
    · exact .inr (.inl (List.mem_singleton.1 h))
  · rcases mem_encodeLoop _ _ _ _ _ c h with h | h
    · simp at h
    · exact .inr (.inr h)

/-! ## 7. The case of the digits -/

theorem isUpper_iff (c : Char) : c.isUpper = true ↔ 0x41 ≤ c.toNat ∧ c.toNat ≤ 0x5A := by
  simp [Char.isUpper, UInt32.le_iff_toNat_le]

theorem toNat_toLower (c : Char) :
    c.toLower.toNat = if 0x41 ≤ c.toNat ∧ c.toNat ≤ 0x5A then c.toNat + 0x20 else c.toNat := by
  by_cases h : c.isUpper = true
  · rw [Char.toLower_eq_of_isUpper h, if_pos ((isUpper_iff c).1 h)]
    have := (isUpper_iff c).1 h
    rw [Char.toNat_ofNat, if_pos (Or.inl (by omega))]
  · rw [Char.toLower_eq_of_not_isUpper h, if_neg (mt (isUpper_iff c).2 h)]

theorem digitValue_eq (c : Char) :
    digitValue c =
      if 0x61 ≤ c.toNat ∧ c.toNat ≤ 0x7A then some (c.toNat - 0x61)
      else if 0x41 ≤ c.toNat ∧ c.toNat ≤ 0x5A then some (c.toNat - 0x41)
      else if 0x30 ≤ c.toNat ∧ c.toNat ≤ 0x39 then some (c.toNat - 0x30 + 26)
      else none := by
  simp [digitValue, Char.le_def, UInt32.le_iff_toNat_le]

/-- A digit has one value in either case. -/
theorem digitValue_toLower (c : Char) : digitValue c.toLower = digitValue c := by
  rw [digitValue_eq, digitValue_eq, toNat_toLower]
  split_ifs <;> first | rfl | omega

theorem decodeDigits_map_toLower (bias : Nat) :
    ∀ (l : List Char) (k w i : Nat), decodeDigits bias (l.map Char.toLower) k w i =
      (decodeDigits bias l k w i).map fun r => (r.1, r.2.map Char.toLower)
  | [], _, _, _ => rfl
  | c :: l, k, w, i => by
    simp only [List.map_cons, decodeDigits, digitValue_toLower]
    cases digitValue c with
    | none => rfl
    | some d =>
      simp only [Option.bind_eq_bind, Option.bind_some]
      split
      · rfl
      · exact decodeDigits_map_toLower bias l _ _ _

/-- One number read by the decoder, without the measure its definition carries. -/
theorem decodeLoop_cons (c : Char) (rest : List Char) (out : List Nat) (n i bias : Nat) :
    decodeLoop (c :: rest) out n i bias =
      (decodeDigits bias (c :: rest) 36 1 i).bind fun (j, more) =>
        if (n + j / (out.length + 1) < 128 ∨ 55296 ≤ n + j / (out.length + 1) ∧
            n + j / (out.length + 1) ≤ 57343) ∨ n + j / (out.length + 1) > 1114111 then none
        else decodeLoop more (out.take (j % (out.length + 1)) ++ [n + j / (out.length + 1)] ++
          out.drop (j % (out.length + 1))) (n + j / (out.length + 1)) (j % (out.length + 1) + 1)
          (adapt (j - i) (out.length + 1) (i == 0)) := by
  rw [decodeLoop.eq_2]
  split <;> simp_all

/-- **The decoder reads digits of either case alike.** -/
theorem decodeLoop_map_toLower (input : List Char) :
    ∀ (out : List Nat) (n i bias : Nat),
      decodeLoop (input.map Char.toLower) out n i bias = decodeLoop input out n i bias := by
  induction h : input.length using Nat.strongRecOn generalizing input with
  | _ len ih =>
    intro out n i bias
    match input with
    | [] => rfl
    | c :: rest =>
      have hd := decodeDigits_map_toLower bias (c :: rest) 36 1 i
      rw [List.map_cons] at hd ⊢
      rw [decodeLoop_cons, decodeLoop_cons, hd]
      cases hdd : decodeDigits bias (c :: rest) 36 1 i with
      | none => rfl
      | some r =>
        obtain ⟨j, more⟩ := r
        have := decodeDigits_length bias (c :: rest) 36 1 i _ hdd
        simp only [Option.map_some, Option.bind_some]
        rw [ih _ (by simp at this h; omega) more rfl]

/-- The code points the decoder starts from stay among those it ends with. -/
theorem decodeLoop_keeps (input : List Char) :
    ∀ (out : List Nat) (n i bias : Nat) (u : List Nat), decodeLoop input out n i bias = some u →
      ∀ x ∈ out, x ∈ u := by
  induction h : input.length using Nat.strongRecOn generalizing input with
  | _ len ih =>
    intro out n i bias u hu x hx
    match input with
    | [] =>
      rw [decodeLoop.eq_1] at hu
      exact Option.some.inj hu ▸ hx
    | c :: rest =>
      rw [decodeLoop_cons] at hu
      cases hdd : decodeDigits bias (c :: rest) 36 1 i with
      | none => simp [hdd] at hu
      | some r =>
        obtain ⟨j, more⟩ := r
        have := decodeDigits_length bias (c :: rest) 36 1 i _ hdd
        simp only [hdd, Option.bind_some] at hu
        split at hu
        · simp at hu
        · refine ih _ (by simp at this h; omega) more rfl _ _ _ _ u hu x ?_
          -- the insertion keeps every code point before and after it
          rw [← List.take_append_drop (j % (out.length + 1)) out] at hx
          simp only [List.mem_append] at hx ⊢
          tauto

theorem toLower_eq_hyphen (c : Char) : c.toLower = '-' ↔ c = '-' := by
  constructor
  · intro h
    by_cases hu : c.isUpper = true
    · have h' := congrArg Char.toNat h
      rw [toNat_toLower, if_pos ((isUpper_iff c).1 hu)] at h'
      have := (isUpper_iff c).1 hu
      simp at h'; omega
    · rwa [Char.toLower_eq_of_not_isUpper hu] at h
  · rintro rfl; rfl

theorem idxOf_map_toLower (l : List Char) : (l.map Char.toLower).idxOf '-' = l.idxOf '-' := by
  induction l with
  | nil => rfl
  | cons c l ih =>
    simp only [List.map_cons, List.idxOf_cons]
    by_cases hc : c = '-'
    · subst hc; rfl
    · have hl : (c.toLower == '-') = false := by simpa [toLower_eq_hyphen] using hc
      have hc' : (c == '-') = false := by simpa using hc
      simp [hl, hc', ih]

/-- The basic code points and the digits of an encoding lowercased read as before, when the
    code points they decode to have no uppercase ASCII letter: then neither have the basic ones. -/
theorem decodeParts_map_toLower {basic rest : List Char} {u : List Nat}
    (h : (if basic.any (·.toNat ≥ 0x80) then none
      else decodeLoop rest (basic.map Char.toNat) 128 0 72) = some u)
    (hu : ∀ x ∈ u, ¬(0x41 ≤ x ∧ x ≤ 0x5A)) :
    (if (basic.map Char.toLower).any (·.toNat ≥ 0x80) then none
      else decodeLoop (rest.map Char.toLower) ((basic.map Char.toLower).map Char.toNat) 128 0 72) =
      some u := by
  split at h
  · simp at h
  · rename_i hany
    have hrun := h
    have hbasic : basic.map Char.toLower = basic := by
      refine (List.map_congr_left fun c hc => ?_).trans (List.map_id basic)
      have hcu := decodeLoop_keeps rest _ _ _ _ u hrun c.toNat (List.mem_map_of_mem hc)
      exact Char.toLower_eq_of_not_isUpper fun hup => hu _ hcu ((isUpper_iff c).1 hup)
    rw [hbasic, if_neg hany, decodeLoop_map_toLower, hrun]

/-- **The case of an encoding's digits does not matter**: an encoding that decodes to code
    points none of which is an uppercase ASCII letter decodes the same way lowercased. -/
theorem decode_map_toLower {text : List Char} {u : List Nat} (h : decode text = some u)
    (hu : ∀ x ∈ u, ¬(0x41 ≤ x ∧ x ≤ 0x5A)) : decode (text.map Char.toLower) = some u := by
  have hcontains : (text.map Char.toLower).contains '-' = text.contains '-' := by
    simp [toLower_eq_hyphen]
  unfold decode at h ⊢
  simp only [hcontains, List.length_map, ← List.map_reverse, idxOf_map_toLower] at h ⊢
  -- the delimiter stands where it stood, so the parts are the parts lowercased
  generalize text.length - 1 - List.idxOf '-' text.reverse = k at h ⊢
  by_cases hc : text.contains '-' = true
  · by_cases hk : (k == 0) = true
    · simp only [hc, hk, if_true] at h ⊢
      rw [← List.map_take]
      exact decodeParts_map_toLower h hu
    · simp only [hc, hk, if_true, if_false, Bool.false_eq_true] at h ⊢
      rw [← List.map_take, ← List.map_drop]
      exact decodeParts_map_toLower h hu
  · simp only [hc, if_false, Bool.false_eq_true] at h ⊢
    exact @decodeParts_map_toLower [] _ _ h hu

end SmartHelmet.Url.Punycode
