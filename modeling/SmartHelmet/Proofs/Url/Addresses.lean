import Mathlib
import SmartHelmet.Url.Host
import SmartHelmet.Proofs.Url.Domain
/-!
# IP addresses, written and read back

A URL writes an IPv4 address in dotted decimal and an IPv6 address as lowercase hexadecimal
pieces with the first longest run of zero pieces written `::`. Both texts read back as the
address they were written from:

* `digitsIn_toDigits` — the digits of a number in a radix up to sixteen read as the number;
* `parseIpv4_ipv4Text` — dotted decimal reads as the address, taken below `2 ^ 32`;
* `parseIpv6_fits` — what reading an IPv6 address gives is eight pieces below `2 ^ 16`;
* `parseIpv6_ipv6Text` — and such pieces, written and read again, are the same pieces.
-/

namespace SmartHelmet.Url

open Text.Hex

/-! ## 1. Digits -/

theorem digit?_digitChar {n : Nat} (h : n < 16) : digit? (Nat.digitChar n) = some n := by
  have hall : ∀ m ∈ List.range 16, digit? (Nat.digitChar m) = some m := by decide
  exact hall n (List.mem_range.2 h)

theorem digitChar_ne_zero {n : Nat} (h0 : n ≠ 0) (h : n < 16) : Nat.digitChar n ≠ '0' := by
  have hall : ∀ m ∈ List.range 16, m ≠ 0 → Nat.digitChar m ≠ '0' := by decide
  exact hall n (List.mem_range.2 h) h0

theorem digitsIn_append (r : Nat) (cs ds : List Char) :
    digitsIn r (cs ++ ds) = (digitsIn r cs).bind fun acc => ds.foldlM (fun acc c => do
      let d ← digit? c
      if d < r then some (acc * r + d) else none) acc := by
  simp [digitsIn, List.foldlM_append]

/-- **The digits of a number in a radix read back as the number.** -/
theorem digitsIn_toDigits {r : Nat} (h1 : 1 < r) (h2 : r ≤ 16) (n : Nat) :
    digitsIn r (Nat.toDigits r n) = some n := by
  induction n using Nat.base_induction r h1 with
  | single m hm =>
    rw [Nat.toDigits_of_lt_base hm]
    simp [digitsIn, digit?_digitChar (show m < 16 by omega), hm]
  | digit m k hk hm ih =>
    rw [← Nat.toDigits_append_toDigits h1 hm hk, Nat.toDigits_of_lt_base hk, digitsIn_append, ih]
    simp [digit?_digitChar (show k < 16 by omega), hk, Nat.mul_comm]

/-- The digits of a number other than zero do not start with `0`. -/
theorem head_toDigits {r n : Nat} (h1 : 1 < r) (h2 : r ≤ 16) (hn : n ≠ 0) :
    (Nat.toDigits r n).head? ≠ some '0' := by
  induction n using Nat.base_induction r h1 with
  | single m hm =>
    rw [Nat.toDigits_of_lt_base hm]
    simpa using digitChar_ne_zero hn (by omega)
  | digit m k hk hm ih =>
    rw [← Nat.toDigits_append_toDigits h1 hm hk, List.head?_append_of_ne_nil _ Nat.toDigits_ne_nil]
    exact ih (by omega)

/-! ## 2. IPv4 addresses -/

/-- A decimal part of an address, as a number writes it, is that number. -/
theorem ipv4Number_toDigits (n : Nat) : ipv4Number (Nat.toDigits 10 n) = some n := by
  have hread := digitsIn_toDigits (r := 10) (by decide) (by decide) n
  unfold ipv4Number
  split
  · exact absurd ‹_› Nat.toDigits_ne_nil
  · -- a leading `0` followed by more digits is not how a number is written
    rename_i x rest hds
    rcases Nat.eq_zero_or_pos n with rfl | hpos
    · simp [Nat.toDigits_zero] at hds
    · exact absurd (by rw [hds]; rfl) (head_toDigits (r := 10) (by decide) (by decide) (by omega))
  · exact hread

theorem dot_not_mem_toDigits (n : Nat) : '.' ∉ Nat.toDigits 10 n := fun h => by
  have := Nat.isDigit_of_mem_toDigits (by decide) (by decide) h
  revert this
  decide

/-- The four bytes of an address in decimal, as its dotted text writes them. -/
def ipv4Parts (a : Nat) : List (List Char) :=
  [a / 0x1000000 % 256, a / 0x10000 % 256, a / 0x100 % 256, a % 256].map (Nat.toDigits 10)

theorem ipv4Text_toList (a : Nat) : (ipv4Text a).toList = ['.'].intercalate (ipv4Parts a) := by
  have hdigits : (String.toList ∘ toString : Nat → List Char) = Nat.toDigits 10 :=
    funext fun n => Nat.toList_repr
  rw [ipv4Text, String.toList_intercalate, List.map_map, hdigits]
  rfl

theorem splitAt_ipv4Text (a : Nat) : splitAt '.' (ipv4Text a).toList = ipv4Parts a := by
  rw [ipv4Text_toList, splitAt_eq_splitOn]
  refine List.splitOn_intercalate '.' (fun l hl => ?_) (by simp [ipv4Parts])
  obtain ⟨n, -, rfl⟩ := List.mem_map.1 hl
  exact dot_not_mem_toDigits n

/-- **Dotted decimal reads back as the address**, taken below `2 ^ 32`. -/
theorem parseIpv4_ipv4Text (a : Nat) : parseIpv4 (ipv4Text a) = .ok (a % 0x100000000) := by
  have hsplit := splitAt_ipv4Text a
  unfold ipv4Parts at hsplit
  unfold parseIpv4
  simp only [hsplit, List.map_cons, List.map_nil, List.getLast?_cons_cons, List.getLast?_singleton]
  -- each part is a byte, so every check passes
  have h1 : a / 16777216 % 256 < 256 := Nat.mod_lt _ (by decide)
  have h2 : a / 65536 % 256 < 256 := Nat.mod_lt _ (by decide)
  have h3 : a / 256 % 256 < 256 := Nat.mod_lt _ (by decide)
  have h4 : a % 256 < 256 := Nat.mod_lt _ (by decide)
  simp [Nat.toDigits_ne_nil, List.mapM_cons, List.zipIdx, ipv4Number_toDigits,
    show a / 16777216 % 256 < 4294967296 by omega, show a / 65536 % 256 < 4294967296 by omega,
    show a / 256 % 256 < 4294967296 by omega, show a % 256 < 4294967296 by omega,
    show ¬256 ≤ a % 256 by omega, show ¬255 < a / 16777216 % 256 by omega,
    show ¬255 < a / 65536 % 256 by omega, show ¬255 < a / 256 % 256 by omega]
  show Except.ok _ = Except.ok _
  congr 1
  omega

/-! ## 3. Hexadecimal pieces -/

/-- The value of hexadecimal digits read after `v`. -/
def digitsValue (v : Nat) (ds : List Char) : Nat :=
  ds.foldl (fun acc c => acc * 16 + (digit? c).getD 0) v

/-- The digits of a number are digit characters below the radix. -/
theorem mem_toDigits {r : Nat} (h1 : 1 < r) (n : Nat) :
    ∀ c ∈ Nat.toDigits r n, ∃ k < r, c = Nat.digitChar k := by
  induction n using Nat.base_induction r h1 with
  | single m hm =>
    rw [Nat.toDigits_of_lt_base hm]
    intro c hc
    exact ⟨m, hm, List.mem_singleton.1 hc⟩
  | digit m k hk hm ih =>
    rw [← Nat.toDigits_append_toDigits h1 hm hk, Nat.toDigits_of_lt_base hk]
    intro c hc
    rcases List.mem_append.1 hc with hc | hc
    · exact ih c hc
    · exact ⟨k, hk, List.mem_singleton.1 hc⟩

theorem digit?_toDigits (p : Nat) : ∀ c ∈ Nat.toDigits 16 p, ∃ d, digit? c = some d := by
  intro c hc
  obtain ⟨k, hk, rfl⟩ := mem_toDigits (by decide) p c hc
  exact ⟨k, digit?_digitChar hk⟩

theorem digitsValue_toDigits (p : Nat) : digitsValue 0 (Nat.toDigits 16 p) = p := by
  induction p using Nat.base_induction 16 (by decide) with
  | single m hm =>
    rw [Nat.toDigits_of_lt_base hm]
    simp [digitsValue, digit?_digitChar hm]
  | digit m k hk hm ih =>
    rw [← Nat.toDigits_append_toDigits (by decide) hm hk, Nat.toDigits_of_lt_base hk]
    unfold digitsValue at ih ⊢
    rw [List.foldl_append, ih]
    simp [digit?_digitChar hk, Nat.mul_comm]

/-- Up to `k` digits are read, and reading stops where the digits do. -/
theorem hexPiece_digits : ∀ (ds : List Char) (k v : Nat) (after : List Char), ds.length ≤ k →
    (∀ c ∈ ds, ∃ d, digit? c = some d) → (∀ c ∈ after.head?, digit? c = none) →
    ∃ n, hexPiece k (ds ++ after) v = (digitsValue v ds, n, after)
  | [], 0, v, after, _, _, _ => ⟨4, rfl⟩
  | [], k + 1, v, [], _, _, _ => ⟨_, rfl⟩
  | [], k + 1, v, c :: rest, _, _, hafter => by
    refine ⟨4 - (k + 1), ?_⟩
    simp [hexPiece, hafter c rfl, digitsValue]
  | c :: ds, k + 1, v, after, hlen, hds, hafter => by
    obtain ⟨d, hd⟩ := hds c List.mem_cons_self
    obtain ⟨n, hn⟩ := hexPiece_digits ds k (v * 16 + d) after (by simpa using hlen)
      (fun c' hc' => hds c' (List.mem_cons_of_mem c hc')) hafter
    refine ⟨n, ?_⟩
    simp [hexPiece, hd, hn, digitsValue]

/-- **A piece as written reads back as the piece**, up to a `:` or the end. -/
theorem hexPiece_hexText {p : Nat} (hp : p < 0x10000) {after : List Char}
    (hafter : after = [] ∨ after.head? = some ':') :
    ∃ n, hexPiece 4 (Nat.toDigits 16 p ++ after) 0 = (p, n, after) := by
  have hlen : (Nat.toDigits 16 p).length ≤ 4 :=
    (Nat.length_toDigits_le_iff (by decide) (by decide)).2 (by simpa using hp)
  obtain ⟨n, hn⟩ := hexPiece_digits _ 4 0 after hlen (digit?_toDigits p) (by
    rcases hafter with rfl | h
    · simp
    · intro c hc
      rw [h, Option.mem_def, Option.some.injEq] at hc
      rw [← hc]
      decide)
  exact ⟨n, by rw [hn, digitsValue_toDigits]⟩

/-! ## 4. The longest run of zero pieces -/

/-- Every piece from `a` up to `b` is zero. -/
def ZerosBetween (ps : List Nat) (a b : Nat) : Prop :=
  ∀ j, a ≤ j → j < b → ps[j]? = some 0

theorem ZerosBetween.append {ps : List Nat} {a b : Nat} (h : ZerosBetween ps a b)
    (hb : b ≤ ps.length) (more : List Nat) : ZerosBetween (ps ++ more) a b := fun j ha hj => by
  rw [List.getElem?_append_left (by omega)]
  exact h j ha hj

theorem ZerosBetween.snoc_zero {ps : List Nat} {a : Nat} (h : ZerosBetween ps a ps.length) :
    ZerosBetween (ps ++ [0]) a (ps.length + 1) := fun j ha hj => by
  rcases Nat.lt_or_ge j ps.length with hj' | hj'
  · exact h.append le_rfl [0] j ha hj'
  · rw [show j = ps.length by omega]
    simp

/-- What the scan for zero runs knows after the pieces `ps`: the run it follows starts at a
    zero and goes on to the end, and the best run so far lies inside and holds zeros only. -/
structure ZeroScan (ps : List Nat) (acc : Option (Nat × Nat) × Option Nat × Nat) : Prop where
  run : ∀ s ∈ acc.2.1, s ≤ ps.length ∧ ZerosBetween ps s ps.length
  best : ∀ r ∈ acc.1, r.1 + r.2 ≤ ps.length ∧ ZerosBetween ps r.1 (r.1 + r.2)

/-- A fold over the pieces with their positions keeps what each step keeps. -/
theorem foldl_zipIdx_induction {β : Type} (P : List Nat → β → Prop) (f : β → Nat × Nat → β)
    {init : β} (h0 : P [] init)
    (hstep : ∀ ps acc v, P ps acc → P (ps ++ [v]) (f acc (v, ps.length))) :
    ∀ ps, P ps (ps.zipIdx.foldl f init) := by
  intro ps
  induction ps using List.reverseRecOn with
  | nil => exact h0
  | append_singleton ps v ih =>
    rw [List.zipIdx_append, List.foldl_append]
    simpa using hstep ps _ v ih

/-- **The run `longestZeros` finds** is two or more zero pieces, inside the address. -/
theorem longestZeros_some {ps : List Nat} {s l : Nat} (h : longestZeros ps = some (s, l)) :
    2 ≤ l ∧ s + l ≤ ps.length ∧ ZerosBetween ps s (s + l) := by
  unfold longestZeros at h
  dsimp only at h
  generalize hres : List.foldl _ (none, none, 0) ps.zipIdx = res at h
  have hscan : ZeroScan ps res := by
    rw [← hres]
    refine foldl_zipIdx_induction ZeroScan _ ⟨by simp, by simp⟩ (fun W acc v hacc => ?_) ps
    obtain ⟨best, start, z⟩ := acc
    by_cases hv : v = 0
    · subst hv
      -- the run goes on, from where it started or from here
      have hrun : start.getD W.length ≤ W.length ∧ ZerosBetween W (start.getD W.length) W.length := by
        cases start with
        | none => exact ⟨le_rfl, fun j ha hj => absurd hj (by simp at ha; omega)⟩
        | some s => exact hacc.run s rfl
      have hnew : start.getD W.length + (W.length + 1 - start.getD W.length) ≤ (W ++ [0]).length ∧
          ZerosBetween (W ++ [0]) (start.getD W.length)
            (start.getD W.length + (W.length + 1 - start.getD W.length)) := by
        rw [List.length_append, List.length_singleton, show start.getD W.length +
          (W.length + 1 - start.getD W.length) = W.length + 1 by omega]
        exact ⟨le_rfl, hrun.2.snoc_zero⟩
      have hold : ∀ r ∈ best, r.1 + r.2 ≤ (W ++ [0]).length ∧ ZerosBetween (W ++ [0]) r.1 (r.1 + r.2) :=
        fun r hr => ⟨by simpa using Nat.le_succ_of_le (hacc.best r hr).1,
          (hacc.best r hr).2.append (hacc.best r hr).1 [0]⟩
      refine ⟨fun s hs => ?_, fun r hr => ?_⟩
      · simp only [beq_self_eq_true, ↓reduceIte, Option.mem_def, Option.some.injEq] at hs
        subst hs
        rw [List.length_append, List.length_singleton]
        exact ⟨by omega, hrun.2.snoc_zero⟩
      · simp only [beq_self_eq_true, ↓reduceIte] at hr
        split at hr
        · split_ifs at hr
          · simp only [Option.mem_def, Option.some.injEq] at hr
            subst hr
            exact hnew
          · exact hold r hr
        · simp only [Option.mem_def, Option.some.injEq] at hr
          subst hr
          exact hnew
    · -- a piece other than zero ends the run and keeps the best one
      have hv' : (v == 0) = false := by simpa using hv
      refine ⟨fun s hs => by simp [hv'] at hs, fun r hr => ?_⟩
      simp only [hv', Bool.false_eq_true, ↓reduceIte] at hr
      exact ⟨by simpa using Nat.le_succ_of_le (hacc.best r hr).1,
        (hacc.best r hr).2.append (hacc.best r hr).1 [v]⟩
  rw [Option.filter_eq_some_iff] at h
  obtain ⟨hle, hz⟩ := hscan.best (s, l) h.1
  exact ⟨by simpa using h.2, hle, hz⟩

/-- The pieces are what comes before a run of zeros, the run, and what comes after. -/
theorem take_replicate_drop {ps : List Nat} {s l : Nat} (hle : s + l ≤ ps.length)
    (hz : ZerosBetween ps s (s + l)) : ps.take s ++ List.replicate l 0 ++ ps.drop (s + l) = ps := by
  have hrun : (ps.drop s).take l = List.replicate l 0 := by
    refine List.eq_replicate_iff.2 ⟨by simp; omega, fun b hb => ?_⟩
    obtain ⟨i, hi⟩ := List.mem_iff_getElem?.1 hb
    have hil : i < l := by
      have := (List.getElem?_eq_some_iff.1 hi).1
      simp at this
      omega
    rw [List.getElem?_take_of_lt hil, List.getElem?_drop, hz (s + i) (by omega) (by omega)] at hi
    exact (Option.some.inj hi).symm
  calc ps.take s ++ List.replicate l 0 ++ ps.drop (s + l)
      = ps.take s ++ ((ps.drop s).take l ++ (ps.drop s).drop l) := by
        rw [hrun, List.drop_drop, List.append_assoc]
    _ = ps := by rw [List.take_append_drop, List.take_append_drop]

/-! ## 5. IPv6 addresses, written and read back -/

/-- Pieces in lowercase hexadecimal, `:` between them. -/
def pieceText (qs : List Nat) : List Char := [':'].intercalate (qs.map (Nat.toDigits 16))

theorem pieceText_cons_cons (q q' : Nat) (qs : List Nat) :
    pieceText (q :: q' :: qs) = Nat.toDigits 16 q ++ ':' :: pieceText (q' :: qs) := by
  simp [pieceText]

theorem length_le_pieceText : ∀ qs : List Nat, qs.length ≤ (pieceText qs).length
  | [] => le_rfl
  | [q] => by simp [pieceText, Nat.one_le_iff_ne_zero, Nat.toDigits_ne_nil]
  | q :: q' :: qs => by
    rw [pieceText_cons_cons, List.length_append, List.length_cons]
    have := length_le_pieceText (q' :: qs)
    simp only [List.length_cons] at this ⊢
    omega

theorem ipv6Text_toList (ps : List Nat) : (ipv6Text ps).toList = match longestZeros ps with
    | none => pieceText ps
    | some (s, l) => pieceText (ps.take s) ++ ':' :: ':' :: pieceText (ps.drop (s + l)) := by
  have hpieces : ∀ qs, (":".intercalate (qs.map hexText)).toList = pieceText qs := fun qs => by
    simp [String.toList_intercalate, pieceText, hexText, Function.comp_def, String.toList_ofList]
  unfold ipv6Text
  rcases h : longestZeros ps with _ | ⟨s, l⟩
  · exact hpieces ps
  · simp only [String.toList_append, hpieces, show "::".toList = [':', ':'] by decide]
    simp

theorem digit_head_toDigits (p : Nat) : ∃ d ds, Nat.toDigits 16 p = d :: ds ∧ d ≠ ':' := by
  obtain ⟨d, ds, hds⟩ := List.exists_cons_of_ne_nil (Nat.toDigits_ne_nil (n := p) (b := 16))
  obtain ⟨v, hv⟩ := digit?_toDigits p d (by rw [hds]; exact List.mem_cons_self)
  refine ⟨d, ds, hds, fun h => ?_⟩
  subst h
  simp [show digit? ':' = none by decide] at hv

/-- The state after the pieces `W`, with `::` where `c` says. -/
def Ipv6State.written (W : List Nat) (c : Option Nat) : Ipv6State :=
  ⟨(W ++ List.replicate (8 - W.length) 0).toArray, W.length, c⟩

theorem written_nil : ({} : Ipv6State) = .written [] none := rfl

theorem written_compress : ({ index := 1, compress := some 1 } : Ipv6State) =
    .written [0] (some 1) := rfl

theorem replicate_after {W : List Nat} (hW : W.length < 8) (p : Nat) :
    (W ++ List.replicate (8 - W.length) 0).set W.length p =
      W ++ [p] ++ List.replicate (8 - (W ++ [p]).length) 0 := by
  obtain ⟨k, hk⟩ : ∃ k, 8 - W.length = k + 1 := ⟨7 - W.length, by omega⟩
  rw [List.set_append_right _ _ le_rfl, Nat.sub_self, hk, List.replicate_succ, List.set_cons_zero]
  simp only [List.length_append, List.length_singleton, List.append_assoc, List.singleton_append]
  congr 3
  omega

theorem setIfInBounds_written {W : List Nat} (hW : W.length < 8) (p : Nat) :
    (W ++ List.replicate (8 - W.length) 0).toArray.setIfInBounds W.length p =
      (W ++ [p] ++ List.replicate (8 - (W ++ [p]).length) 0).toArray := by
  apply Array.ext'
  rw [Array.toList_setIfInBounds, List.toList_toArray, List.toList_toArray, replicate_after hW]

theorem ipv6Pieces_nil (fuel : Nat) (st : Ipv6State) : ipv6Pieces (fuel + 1) st [] = some st := rfl

/-- One piece with more after its `:` goes where the next piece goes. -/
theorem ipv6Pieces_piece_colon {W : List Nat} (hW : W.length < 8) (c : Option Nat) {p : Nat}
    (hp : p < 0x10000) {more : List Char} (hmore : more ≠ []) (fuel : Nat) :
    ipv6Pieces (fuel + 1) (.written W c) (Nat.toDigits 16 p ++ ':' :: more) =
      ipv6Pieces fuel (.written (W ++ [p]) c) more := by
  obtain ⟨n, hn⟩ := hexPiece_hexText hp (.inr rfl : ':' :: more = [] ∨ (':' :: more).head? = some ':')
  obtain ⟨d, ds, hds, hd⟩ := digit_head_toDigits p
  rw [hds, List.cons_append] at hn ⊢
  rw [ipv6Pieces]
  simp only [Ipv6State.written, beq_iff_eq, hW.ne, ↓reduceIte, hd, hn, List.isEmpty_iff, hmore,
    setIfInBounds_written hW, List.length_append, List.length_singleton]

/-- The last piece goes where the next piece goes, and reading ends. -/
theorem ipv6Pieces_piece_last {W : List Nat} (hW : W.length < 8) (c : Option Nat) {p : Nat}
    (hp : p < 0x10000) (fuel : Nat) :
    ipv6Pieces (fuel + 1) (.written W c) (Nat.toDigits 16 p) = some (.written (W ++ [p]) c) := by
  obtain ⟨n, hn⟩ := hexPiece_hexText hp (.inl rfl : ([] : List Char) = [] ∨ _)
  obtain ⟨d, ds, hds, hd⟩ := digit_head_toDigits p
  rw [List.append_nil, hds] at hn
  rw [hds, ipv6Pieces]
  simp only [Ipv6State.written, beq_iff_eq, hW.ne, ↓reduceIte, hd, hn,
    setIfInBounds_written hW, List.length_append, List.length_singleton]

/-- `::` stands for a zero piece and marks where the pieces after it start. -/
theorem ipv6Pieces_colon {W : List Nat} (hW : W.length < 8) (rest : List Char) (fuel : Nat) :
    ipv6Pieces (fuel + 1) (.written W none) (':' :: rest) =
      ipv6Pieces fuel (.written (W ++ [0]) (some (W.length + 1))) rest := by
  rw [ipv6Pieces]
  have hzero : W ++ List.replicate (8 - W.length) 0 =
      W ++ [0] ++ List.replicate (8 - (W ++ [0]).length) 0 := by
    rw [← replicate_after hW 0, List.set_append_right _ _ le_rfl, Nat.sub_self]
    obtain ⟨k, hk⟩ : ∃ k, 8 - W.length = k + 1 := ⟨7 - W.length, by omega⟩
    rw [hk, List.replicate_succ, List.set_cons_zero]
  simp [Ipv6State.written, hW.ne, hzero]

/-- **Pieces as written are read one after another.** -/
theorem ipv6Pieces_pieceText : ∀ (qs : List Nat) {W : List Nat} (c : Option Nat) (fuel : Nat),
    W.length + qs.length ≤ 8 → (∀ q ∈ qs, q < 0x10000) → qs.length < fuel →
    ipv6Pieces fuel (.written W c) (pieceText qs) = some (.written (W ++ qs) c)
  | _, _, _, 0, _, _, hfuel => absurd hfuel (Nat.not_lt_zero _)
  | [], W, c, fuel + 1, _, _, _ => by simpa [pieceText] using ipv6Pieces_nil fuel (.written W c)
  | [q], W, c, fuel + 1, hlen, hq, _ => by
    simpa [pieceText] using ipv6Pieces_piece_last (W := W) (by simp at hlen; omega) c
      (hq q List.mem_cons_self) fuel
  | q :: q' :: qs, W, c, fuel + 1, hlen, hq, hfuel => by
    simp only [List.length_cons] at hlen hfuel
    rw [pieceText_cons_cons, ipv6Pieces_piece_colon (by omega) c (hq q List.mem_cons_self)
      (List.ne_nil_of_length_pos (Nat.lt_of_lt_of_le (by simp) (length_le_pieceText _))),
      ipv6Pieces_pieceText (q' :: qs) c fuel (by simp; omega)
        (fun x hx => hq x (List.mem_cons_of_mem q hx)) (by simp; omega)]
    simp

/-- Pieces as written, then `:` and more text, are read up to the more text. -/
theorem ipv6Pieces_pieceText_colon : ∀ (qs : List Nat) {W : List Nat} (c : Option Nat)
    {more : List Char} (fuel : Nat), qs ≠ [] → W.length + qs.length ≤ 8 →
    (∀ q ∈ qs, q < 0x10000) → more ≠ [] → qs.length ≤ fuel →
    ipv6Pieces fuel (.written W c) (pieceText qs ++ ':' :: more) =
      ipv6Pieces (fuel - qs.length) (.written (W ++ qs) c) more
  | [], _, _, _, _, hne, _, _, _, _ => absurd rfl hne
  | [q], W, c, more, fuel + 1, _, hlen, hq, hmore, _ => by
    simpa [pieceText] using ipv6Pieces_piece_colon (W := W) (by simp at hlen; omega) c
      (hq q List.mem_cons_self) hmore fuel
  | q :: q' :: qs, W, c, more, fuel + 1, _, hlen, hq, hmore, hfuel => by
    simp only [List.length_cons] at hlen hfuel
    rw [pieceText_cons_cons, List.append_assoc, List.cons_append,
      ipv6Pieces_piece_colon (by omega) c (hq q List.mem_cons_self) (by simp),
      ipv6Pieces_pieceText_colon (q' :: qs) c fuel (List.cons_ne_nil _ _) (by simp; omega)
        (fun x hx => hq x (List.mem_cons_of_mem q hx)) hmore (by simp; omega)]
    simp only [List.length_cons, List.append_assoc, List.cons_append, List.nil_append]
    congr 1
    omega

/-- Moving the pieces after `::` to the end fills the gap with zeros. -/
theorem expand_written {W : List Nat} {c : Nat} (hc : c ≤ W.length) (hW : W.length ≤ 8) :
    ((Ipv6State.written W (some c)).expand c).toList =
      W.take c ++ List.replicate (8 - W.length) 0 ++ W.drop c := by
  have hdrop : (W.drop c).length = W.length - c := List.length_drop
  simp only [Ipv6State.expand, Ipv6State.written, List.toList_toArray,
    List.take_append_of_le_length hc, List.drop_append_of_le_length hc, List.append_assoc]
  rw [List.take_left' hdrop, show 8 - c - (W.length - c) = 8 - W.length by omega]

/-- Pieces as written start with a digit, not with `:`. -/
theorem pieceText_cons (q : Nat) (qs : List Nat) : ∃ d ds, pieceText (q :: qs) = d :: ds ∧ d ≠ ':' := by
  obtain ⟨d, ds, hds, hd⟩ := digit_head_toDigits q
  cases qs with
  | nil => exact ⟨d, ds, by simp [pieceText, hds], hd⟩
  | cons q' qs => exact ⟨d, ds ++ ':' :: pieceText (q' :: qs), by rw [pieceText_cons_cons, hds]; rfl, hd⟩

/-- The pieces around a run of zeros, with the run's first zero read where `::` stood, move
    back into place. -/
theorem expand_run {ps : List Nat} {s l : Nat} (hlen : ps.length = 8) (hl : 2 ≤ l) (hle : s + l ≤ 8)
    (hz : ZerosBetween ps s (s + l)) :
    ((Ipv6State.written (ps.take s ++ [0] ++ ps.drop (s + l)) (some (s + 1))).expand (s + 1)).toList =
      ps := by
  have hfront : (ps.take s ++ [0]).length = s + 1 := by simp; omega
  have hback : (ps.drop (s + l)).length = 8 - (s + l) := by simp [hlen]
  rw [expand_written (by simp; omega) (by simp; omega), List.take_left' hfront, List.drop_left' hfront,
    List.length_append, hfront, hback, show 8 - (s + 1 + (8 - (s + l))) = l - 1 by omega]
  simp only [List.append_assoc, List.singleton_append]
  rw [← List.replicate_succ, Nat.sub_add_cancel (by omega : 1 ≤ l), ← List.append_assoc]
  exact take_replicate_drop (by omega) hz

/-- How reading an IPv6 address starts: `::` in front reads as a first zero piece with the
    pieces after it moved to the end; anything else starts with a piece. -/
inductive Ipv6Start : List Char → Ipv6State → List Char → Prop
  | compressed (rest : List Char) : Ipv6Start (':' :: ':' :: rest) (.written [0] (some 1)) rest
  | piece {d : Char} {ds : List Char} : d ≠ ':' → Ipv6Start (d :: ds) (.written [] none) (d :: ds)

/-- A reading with `::` somewhere gives the pieces moved into place. -/
theorem parseIpv6_compressed {text rest : List Char} {st₀ : Ipv6State} (hstart : Ipv6Start text st₀ rest)
    {W : List Nat} {c : Nat} (hread : ipv6Pieces (rest.length + 1) st₀ rest = some (.written W (some c))) :
    parseIpv6 text = .ok ((Ipv6State.written W (some c)).expand c).toList := by
  unfold parseIpv6
  cases hstart with
  | compressed rest =>
    simp only [← written_compress] at hread
    simp [hread, Ipv6State.written]
  | piece hd =>
    split
    · rename_i heq
      exact absurd (List.cons.inj heq).1 hd
    · rename_i heq
      exact absurd (List.cons.inj heq).1 hd
    · simp only [written_nil, hread]
      rfl

/-- A reading of eight pieces without `::` gives the pieces. -/
theorem parseIpv6_full {text rest : List Char} {st₀ : Ipv6State} (hstart : Ipv6Start text st₀ rest)
    {W : List Nat} (hW : W.length = 8)
    (hread : ipv6Pieces (rest.length + 1) st₀ rest = some (.written W none)) :
    parseIpv6 text = .ok W := by
  unfold parseIpv6
  cases hstart with
  | compressed rest =>
    simp only [← written_compress] at hread
    simp [hread, Ipv6State.written, hW]
  | piece hd =>
    split
    · rename_i heq
      exact absurd (List.cons.inj heq).1 hd
    · rename_i heq
      exact absurd (List.cons.inj heq).1 hd
    · simp only [written_nil, hread]
      simp [Ipv6State.written, hW]

/-- **An IPv6 address as written reads back as its pieces.** -/
theorem parseIpv6_ipv6Text {ps : List Nat} (hlen : ps.length = 8) (hb : ∀ p ∈ ps, p < 0x10000) :
    parseIpv6 (ipv6Text ps).toList = .ok ps := by
  rw [ipv6Text_toList]
  rcases hz : longestZeros ps with _ | ⟨s, l⟩
  · -- no run of zeros: eight pieces, one after another
    obtain ⟨p, ps', rfl⟩ := List.exists_cons_of_ne_nil (List.ne_nil_of_length_pos (by omega : 0 < ps.length))
    obtain ⟨d, ds, hds, hd⟩ := pieceText_cons p ps'
    have hread := ipv6Pieces_pieceText (p :: ps') (W := []) none ((pieceText (p :: ps')).length + 1)
      (by simp [hlen]) hb (by have := length_le_pieceText (p :: ps'); omega)
    rw [hds, List.nil_append] at hread
    rw [hds]
    exact parseIpv6_full (.piece hd) hlen hread
  · obtain ⟨hl, hle, hzeros⟩ := longestZeros_some hz
    have hps := expand_run hlen hl (by omega) hzeros
    have hback : ∀ q ∈ ps.drop (s + l), q < 0x10000 := fun q hq => hb q (List.mem_of_mem_drop hq)
    have hbl : (ps.drop (s + l)).length = 8 - (s + l) := by simp [hlen]
    have hpb := length_le_pieceText (ps.drop (s + l))
    cases s with
    | zero =>
      -- `::` in front
      have hread := ipv6Pieces_pieceText (ps.drop (0 + l)) (W := [0]) (some 1)
        ((pieceText (ps.drop (0 + l))).length + 1) (by simp; omega) hback (by omega)
      show parseIpv6 (':' :: ':' :: pieceText (ps.drop (0 + l))) = _
      rw [parseIpv6_compressed (.compressed _) hread]
      exact congrArg _ hps
    | succ s =>
      -- pieces, `::`, and the pieces after it
      obtain ⟨q, qs, hfront⟩ := List.exists_cons_of_ne_nil
        (List.ne_nil_of_length_pos (by simp; omega : 0 < (ps.take (s + 1)).length))
      have hfl : (ps.take (s + 1)).length = s + 1 := by simp; omega
      obtain ⟨d, ds, hds, hd⟩ := pieceText_cons q qs
      have hpf := length_le_pieceText (ps.take (s + 1))
      set text := pieceText (ps.take (s + 1)) ++ ':' :: ':' :: pieceText (ps.drop (s + 1 + l))
        with htext
      have hlen' : text.length = (pieceText (ps.take (s + 1))).length + 2 +
          (pieceText (ps.drop (s + 1 + l))).length := by simp [htext]; omega
      have hcolon := ipv6Pieces_pieceText_colon (ps.take (s + 1)) (W := []) none (text.length + 1)
        (by rw [hfront]; exact List.cons_ne_nil _ _) (by simp; omega)
        (fun x hx => hb x (List.mem_of_mem_take hx))
        (List.cons_ne_nil _ _ : ':' :: pieceText (ps.drop (s + 1 + l)) ≠ []) (by omega)
      rw [show text.length + 1 - (ps.take (s + 1)).length = (text.length - (s + 1)) + 1 by omega,
        List.nil_append, ipv6Pieces_colon (by omega),
        ipv6Pieces_pieceText _ _ _ (by simp; omega) hback (by omega), hfl] at hcolon
      rw [hfront, hds, List.cons_append] at hcolon htext
      rw [htext] at hcolon
      rw [hfront] at hps
      show parseIpv6 text = _
      rw [htext, parseIpv6_compressed (.piece hd) hcolon, hps]

/-! ## 6. What reading an IPv6 address gives -/

theorem digit?_lt {c : Char} {d : Nat} (h : digit? c = some d) : d < 16 := by
  unfold digit? at h
  simp only [Bool.and_eq_true, decide_eq_true_eq, Char.le_def, UInt32.le_iff_toNat_le] at h
  split_ifs at h
  all_goals
    simp only [Option.some.injEq] at h
    subst h
    simp only [Char.toNat_val, Char.reduceToNat] at *
    omega

/-- Up to `k` digits read after `v` stay below `(v + 1) * 16 ^ k`. -/
theorem hexPiece_lt : ∀ (k : Nat) (cs : List Char) (v : Nat), (hexPiece k cs v).1 < (v + 1) * 16 ^ k
  | 0, cs, v => by simp [hexPiece]
  | k + 1, [], v => by
    simp only [hexPiece]
    exact Nat.lt_of_lt_of_le (Nat.lt_succ_self v) (Nat.le_mul_of_pos_right _ (by positivity))
  | k + 1, c :: rest, v => by
    unfold hexPiece
    split
    · rename_i d hd
      calc (hexPiece k rest (v * 16 + d)).1 < (v * 16 + d + 1) * 16 ^ k := hexPiece_lt k rest _
        _ ≤ (v * 16 + 16) * 16 ^ k := Nat.mul_le_mul_right _ (by have := digit?_lt hd; omega)
        _ = (v + 1) * 16 ^ (k + 1) := by ring
    · exact Nat.lt_of_lt_of_le (Nat.lt_succ_self v) (Nat.le_mul_of_pos_right _ (by positivity))

/-- What reading an IPv6 address keeps: eight pieces below `2 ^ 16`, zeros from where the next
    piece goes on, and `::` no later than that. -/
structure Ipv6State.Fits (st : Ipv6State) : Prop where
  size : st.pieces.size = 8
  index : st.index ≤ 8
  compress : ∀ c ∈ st.compress, c ≤ st.index
  bound : ∀ (j p : Nat), st.pieces[j]? = some p → p < 0x10000
  zeros : ∀ j : Nat, st.index ≤ j → j < 8 → st.pieces[j]? = some 0

theorem fits_replicate (index : Nat) (compress : Option Nat) (hi : index ≤ 8)
    (hc : ∀ c ∈ compress, c ≤ index) : Ipv6State.Fits ⟨Array.replicate 8 0, index, compress⟩ where
  size := Array.size_replicate
  index := hi
  compress := hc
  bound j p h := by
    rw [Array.getElem?_replicate] at h
    split_ifs at h
    simp only [Option.some.injEq] at h
    omega
  zeros j _ hj := by simp [hj]

/-- `::` moves where the next piece goes and is remembered there. -/
theorem Ipv6State.Fits.colon {st : Ipv6State} (h : st.Fits) (hi : st.index ≠ 8) :
    Ipv6State.Fits { st with index := st.index + 1, compress := some (st.index + 1) } where
  size := h.size
  index := by have := h.index; dsimp only; omega
  compress c hc := by simp only [Option.mem_def, Option.some.injEq] at hc; dsimp only; omega
  bound := h.bound
  zeros j hj := h.zeros j (by simp at hj; omega)

/-- A piece below `2 ^ 16` goes where the next piece goes. -/
theorem Ipv6State.Fits.set {st : Ipv6State} (h : st.Fits) (hi : st.index ≠ 8) {v : Nat}
    (hv : v < 0x10000) :
    Ipv6State.Fits ⟨st.pieces.setIfInBounds st.index v, st.index + 1, st.compress⟩ where
  size := by simp [h.size]
  index := by have := h.index; dsimp only; omega
  compress c hc := by have := h.compress c hc; dsimp only; omega
  bound j p hp := by
    rw [Array.getElem?_setIfInBounds] at hp
    split_ifs at hp
    · simp only [Option.some.injEq] at hp
      omega
    · exact h.bound j p hp
  zeros j hj hj8 := by
    dsimp only at hj ⊢
    rw [Array.getElem?_setIfInBounds, if_neg (by omega)]
    exact h.zeros j (by omega) hj8

/-- A decimal part of an IPv4 address is at most 255. -/
theorem ipv4Piece_le : ∀ (cs : List Char) (acc : Option Nat) {v : Nat} {rest : List Char},
    (∀ a ∈ acc, a ≤ 255) → ipv4Piece cs acc = some (v, rest) → v ≤ 255
  | [], acc, v, rest, hacc, h => by
    simp only [ipv4Piece, Option.map_eq_some_iff, Prod.mk.injEq] at h
    obtain ⟨a, ha, rfl, -⟩ := h
    exact hacc a ha
  | c :: cs, acc, v, rest, hacc, h => by
    unfold ipv4Piece at h
    split_ifs at h with hc
    · split at h
      · cases h
      · dsimp only at h
        split_ifs at h with hbig
        exact ipv4Piece_le cs _ (fun a ha => by simp only [Option.mem_def, Option.some.injEq] at ha; omega) h
      · refine ipv4Piece_le cs _ (fun a ha => ?_) h
        simp only [Option.mem_def, Option.some.injEq] at ha
        subst ha
        simp only [Char.isDigit, Bool.and_eq_true, decide_eq_true_eq,
          UInt32.le_iff_toNat_le] at hc
        simp only [Char.toNat_val, Char.reduceToNat, Char.reduceVal, UInt32.reduceToNat] at *
        omega
    · simp only [Option.map_eq_some_iff, Prod.mk.injEq] at h
      obtain ⟨a, ha, rfl, -⟩ := h
      exact hacc a ha

/-- What reading an IPv4 address at the end of an IPv6 address keeps, after `seen` parts: the
    pieces stay below `2 ^ 16`, a piece half written holds one byte, and there is room for the
    pieces still to come. -/
structure TailFits (pieces : Array Nat) (index seen : Nat) : Prop where
  size : pieces.size = 8
  bound : ∀ (j p : Nat), pieces[j]? = some p → p < 0x10000
  after : ∀ j : Nat, index < j → j < 8 → pieces[j]? = some 0
  here : ∀ p, pieces[index]? = some p → p < 256 ∧ (seen % 2 = 0 → p = 0)
  room : index + (5 - seen) / 2 ≤ 8

/-- One more part of an IPv4 address goes into the piece being written. -/
theorem TailFits.step {pieces : Array Nat} {index seen : Nat} (h : TailFits pieces index seen)
    (hs : seen < 4) {v : Nat} (hv : v ≤ 255) :
    TailFits (pieces.modify index (· * 0x100 + v))
      (if seen + 1 == 2 || seen + 1 == 4 then index + 1 else index) (seen + 1) := by
  -- the second and the fourth part finish a piece
  have hidx : (if seen + 1 == 2 || seen + 1 == 4 then index + 1 else index) = index + seen % 2 := by
    split_ifs with h' <;> simp at h' <;> omega
  rw [hidx]
  refine ⟨by simp [h.size], fun j p hp => ?_, fun j hj hj8 => ?_, fun p hp => ?_, by have := h.room; omega⟩
  · rw [Array.getElem?_modify] at hp
    split_ifs at hp with hj
    · obtain ⟨q, hq, rfl⟩ := Option.map_eq_some_iff.1 hp
      have := (h.here q (hj ▸ hq)).1
      omega
    · exact h.bound j p hp
  · rw [Array.getElem?_modify, if_neg (by omega)]
    exact h.after j (by omega) hj8
  · rcases Nat.mod_two_eq_zero_or_one seen with he | ho
    · -- the first part of a piece: the piece is the part
      rw [he, Nat.add_zero, Array.getElem?_modify, if_pos rfl] at hp
      obtain ⟨q, hq, rfl⟩ := Option.map_eq_some_iff.1 hp
      have := (h.here q hq).2 he
      omega
    · -- the piece is finished, the next one is still zero
      rw [ho, Array.getElem?_modify, if_neg (by omega)] at hp
      have hlt : index + 1 < 8 := by
        have := (Array.getElem?_eq_some_iff.1 hp).1
        rw [h.size] at this
        exact this
      rw [h.after (index + 1) (by omega) hlt, Option.some.injEq] at hp
      omega

/-- **An IPv4 address read at the end of an IPv6 address** fills whole pieces below `2 ^ 16`. -/
theorem ipv4Tail_fits : ∀ (fuel : Nat) {pieces : Array Nat} {index seen : Nat} {cs : List Char}
    {pieces' : Array Nat} {index' : Nat}, TailFits pieces index seen →
    ipv4Tail fuel pieces index seen cs = some (pieces', index') → index ≤ index' ∧ TailFits pieces' index' 4
  | 0, _, _, _, _, _, _, _, h => by simp [ipv4Tail] at h
  | fuel + 1, pieces, index, seen, cs, pieces', index', hfit, h => by
    unfold ipv4Tail at h
    by_cases hempty : cs.isEmpty
    · -- the end: four parts were read
      rw [if_pos hempty] at h
      split_ifs at h with hfour
      simp only [Option.some.injEq, Prod.mk.injEq] at h
      obtain ⟨rfl, rfl⟩ := h
      simp only [beq_iff_eq] at hfour
      exact ⟨le_rfl, hfour ▸ hfit⟩
    rw [if_neg hempty] at h
    dsimp only at h
    generalize hidx : (if seen + 1 == 2 || seen + 1 == 4 then index + 1 else index) = idx at h
    have hle : index ≤ idx := by
      rw [← hidx]
      split_ifs <;> omega
    split at h
    · rename_i c more hnext
      -- a part is read only while fewer than four were
      have hlt : seen < 4 := by
        by_contra hge
        rw [if_pos (by omega : seen > 0)] at hnext
        split at hnext
        · rw [if_neg hge] at hnext
          cases hnext
        · cases hnext
      by_cases hdigit : c.isDigit = false
      · simp [hdigit] at h
      rw [if_neg (by simpa using hdigit)] at h
      split at h
      · cases h
      · rename_i v rest hpiece
        have hv := ipv4Piece_le _ none (by simp) hpiece
        obtain ⟨hle', hfits⟩ := ipv4Tail_fits fuel (hidx ▸ hfit.step hlt hv) h
        exact ⟨le_trans hle hle', hfits⟩
    · cases h

/-- Reading pieces ends in a state that fits, whatever the text. -/
theorem ipv6Pieces_fits : ∀ (fuel : Nat) {st : Ipv6State} {cs : List Char} {st' : Ipv6State},
    st.Fits → ipv6Pieces fuel st cs = some st' → st'.Fits
  | 0, _, _, _, _, h => by simp [ipv6Pieces] at h
  | fuel + 1, st, [], st', hst, h => by
    rw [ipv6Pieces_nil, Option.some.injEq] at h
    exact h ▸ hst
  | fuel + 1, st, c :: rest, st', hst, h => by
    rw [ipv6Pieces] at h
    by_cases h8 : st.index = 8
    · simp [h8] at h
    rw [if_neg (by simpa using h8)] at h
    split_ifs at h with hcolon hsome
    · exact ipv6Pieces_fits fuel (hst.colon h8) h
    have hv := hexPiece_lt 4 (c :: rest) 0
    generalize hexPiece 4 (c :: rest) 0 = r at h hv
    obtain ⟨value, length, after⟩ := r
    simp only [Nat.zero_add, Nat.one_mul] at hv
    dsimp only at h
    split at h
    · -- an IPv4 address ends the text
      split_ifs at h with hshort
      obtain ⟨⟨pieces, index⟩, htail, rfl⟩ := Option.map_eq_some_iff.1 h
      have h6 : st.index ≤ 6 := by simp at hshort; omega
      have hstart : TailFits st.pieces st.index 0 :=
        ⟨hst.size, hst.bound, fun j hj hj8 => hst.zeros j (by omega) hj8,
          fun p hp => by rw [hst.zeros st.index le_rfl (by omega), Option.some.injEq] at hp; omega,
          by omega⟩
      obtain ⟨hle, hfits⟩ := ipv4Tail_fits 5 hstart htail
      refine ⟨hfits.size, by have := hfits.room; simp at this ⊢; omega,
        fun c hc => by have := hst.compress c hc; simp only at this ⊢; omega, hfits.bound,
        fun j hj hj8 => ?_⟩
      rcases Nat.eq_or_lt_of_le hj with rfl | hj
      · -- where the next piece would go, nothing was written
        have hin : index < pieces.size := by rw [hfits.size]; exact hj8
        rw [Array.getElem?_eq_getElem hin, (hfits.here _ (Array.getElem?_eq_getElem hin)).2 rfl]
      · exact hfits.after j hj hj8
    · split_ifs at h with hmore
      exact ipv6Pieces_fits fuel (hst.set h8 hv) h
    · rw [Option.some.injEq] at h
      exact h ▸ hst.set h8 hv
    · cases h

/-- The pieces of a state that fits are eight, each below `2 ^ 16`. -/
theorem Ipv6State.Fits.pieces_fit {st : Ipv6State} (h : st.Fits) :
    st.pieces.toList.length = 8 ∧ ∀ p ∈ st.pieces.toList, p < 0x10000 := by
  refine ⟨by simp [h.size], fun p hp => ?_⟩
  obtain ⟨j, hj⟩ := List.mem_iff_getElem?.1 hp
  exact h.bound j p (by simpa using hj)

/-- Moving the pieces after `::` keeps eight pieces, each below `2 ^ 16`. -/
theorem Ipv6State.Fits.expand_fits {st : Ipv6State} (h : st.Fits) {c : Nat} (hc : st.compress = some c) :
    (st.expand c).toList.length = 8 ∧ ∀ p ∈ (st.expand c).toList, p < 0x10000 := by
  have hci := h.compress c hc
  have hi := h.index
  obtain ⟨hlen, hbound⟩ := h.pieces_fit
  refine ⟨by simp [Ipv6State.expand, hlen]; omega, fun p hp => ?_⟩
  simp only [Ipv6State.expand, List.toList_toArray, List.mem_append] at hp
  rcases hp with (hp | hp) | hp
  · exact hbound p (List.mem_of_mem_take hp)
  · rw [(List.mem_replicate.1 hp).2]
    decide
  · exact hbound p (List.mem_of_mem_drop (List.mem_of_mem_take hp))

/-- **What reading an IPv6 address gives is eight pieces below `2 ^ 16`.** -/
theorem parseIpv6_fits {text : List Char} {ps : List Nat} (h : parseIpv6 text = .ok ps) :
    ps.length = 8 ∧ ∀ p ∈ ps, p < 0x10000 := by
  unfold parseIpv6 at h
  -- where reading starts; both starts fit
  split at h <;> dsimp only at h
  rotate_left
  · cases h
  all_goals
    split at h
    · cases h
    · rename_i st hread
      have hst := ipv6Pieces_fits _ (fits_replicate _ _ (by decide) (by simp)) hread
      split at h
      · rename_i c hc
        cases h
        exact hst.expand_fits hc
      · split_ifs at h
        cases h
        exact hst.pieces_fit

end SmartHelmet.Url
