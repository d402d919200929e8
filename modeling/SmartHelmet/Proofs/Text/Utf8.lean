import SmartHelmet.Text.Utf8
import Mathlib
/-!
# Octets of a text and back

`Text.Utf8.encode` writes a text as the octets of RFC 3629 and `decodeLossy` reads octets back.
The reader takes every well-formed character whole, so a text is read back from its own octets:

* `encode_eq_flatMap`, `encode_append`, `encode_replicate` — the octets of a text are those of its
  characters, one after another;
* `start_one` … `start_four` — the octets `String.utf8EncodeChar` writes for a code point of each
  width start a character of that width, whatever follows them;
* `start_encodeChar` — so the octets of every character start that character;
* `decodeLossy_encode` — **every text reads back from its octets.**
-/

namespace ByteArray

/-- The loop behind `ByteArray.toList` lists the bytes from `i` on after the reversed `r`. -/
theorem toList_loop (bs : ByteArray) (i : Nat) (r : List UInt8) :
    ByteArray.toList.loop bs i r = r.reverse ++ bs.data.toList.drop i := by
  fun_induction ByteArray.toList.loop bs i r with
  | case1 i r hi ih =>
    rw [ih]
    have hi' : i < bs.data.toList.length := by rw [Array.length_toList]; exact hi
    have hget : bs.get! i = bs.data.toList[i] := by
      obtain ⟨data⟩ := bs
      simp only [ByteArray.get!, Array.getElem_toList]
      exact getElem!_pos data i hi
    rw [hget, List.reverse_cons, List.append_assoc, List.singleton_append,
      ← List.drop_eq_getElem_cons]
  | case2 i r hi =>
    have : bs.data.toList.length ≤ i := by rw [Array.length_toList]; exact Nat.le_of_not_lt hi
    simp [List.drop_eq_nil_of_le this]

theorem toList_eq_data_toList (bs : ByteArray) : bs.toList = bs.data.toList := by
  simp [ByteArray.toList, toList_loop]

end ByteArray

namespace SmartHelmet.Text.Utf8

/-! ## 1. The octets of a text -/

theorem encode_eq_flatMap (s : String) : encode s = s.toList.flatMap String.utf8EncodeChar := by
  conv_lhs => rw [← String.ofList_toList (s := s)]
  rw [encode, String.toUTF8_eq_toByteArray, String.toByteArray_ofList,
    ByteArray.toList_eq_data_toList, List.utf8Encode, List.toList_data_toByteArray]

theorem encode_append (s t : String) : encode (s ++ t) = encode s ++ encode t := by
  simp only [encode_eq_flatMap, String.toList_append, List.flatMap_append]

/-- A run of one character written in one octet is a run of that octet. -/
theorem encode_replicate {ch : Char} {b : UInt8} (h : String.utf8EncodeChar ch = [b]) (n : Nat) :
    encode (String.ofList (List.replicate n ch)) = List.replicate n b := by
  rw [encode_eq_flatMap, String.toList_ofList]
  induction n with
  | zero => rfl
  | succ n ih =>
    rw [List.replicate_succ, List.flatMap_cons, h, ih, List.replicate_succ, List.singleton_append]

/-! ## 2. The octet ranges, read as numbers -/

theorem leadWidth_eq (b : UInt8) : leadWidth b =
    if b.toNat < 0x80 then 1 else if 0xC2 ≤ b.toNat ∧ b.toNat ≤ 0xDF then 2
    else if 0xE0 ≤ b.toNat ∧ b.toNat ≤ 0xEF then 3 else if 0xF0 ≤ b.toNat ∧ b.toNat ≤ 0xF4 then 4
    else 0 := by
  simp [leadWidth, UInt8.lt_iff_toNat_lt, UInt8.le_iff_toNat_le]

theorem secondRange_eq (b : UInt8) : secondRange b =
    if b.toNat = 0xE0 then (0xA0, 0xBF) else if b.toNat = 0xED then (0x80, 0x9F)
    else if b.toNat = 0xF0 then (0x90, 0xBF) else if b.toNat = 0xF4 then (0x80, 0x8F)
    else (0x80, 0xBF) := by
  simp only [secondRange, beq_iff_eq, ← UInt8.toNat_inj]
  rfl

theorem toNat_byte {n : Nat} (h : n < 256) : (UInt8.ofNat n).toNat = n := by simp; omega

theorem isTail_byte {n : Nat} (h : n < 64) : isTail (UInt8.ofNat (n + 128)) = true := by
  simp only [isTail, UInt8.le_iff_toNat_le, toNat_byte (show n + 128 < 256 by omega)]
  simp; omega

/-- A first octet of width `w + 1` followed by `w` fitting octets starts a character. -/
theorem start_char {b : UInt8} {rest : Bytes} {w : Nat} (hw : leadWidth b = w + 1)
    (hk : continued b w rest = w) :
    start b rest = .char (Char.ofNat (codePoint (w + 1) (b :: rest.take w))) (w + 1) := by
  simp [start, hw, hk]

/-- A second octet in its range and `n` tails after it continue a character by `n + 1`. -/
theorem continued_cons {b c : UInt8} {more : Bytes} {n : Nat}
    (hlo : (secondRange b).1.toNat ≤ c.toNat) (hhi : c.toNat ≤ (secondRange b).2.toNat)
    (ht : ∀ t ∈ more.take n, isTail t = true) (hn : n ≤ more.length) :
    continued b (n + 1) (c :: more) = n + 1 := by
  have htake : (more.take n).takeWhile isTail = more.take n := List.takeWhile_eq_self_iff.2 ht
  simp [continued, UInt8.le_iff_toNat_le, hlo, hhi, htake, hn]
  omega

/-! ## 3. One character of each width -/

theorem start_one {v : Nat} (h : v ≤ 0x7F) (rest : Bytes) :
    start (UInt8.ofNat v) rest = .char (Char.ofNat v) 1 := by
  have hb := toNat_byte (n := v) (by omega)
  have hlead : leadWidth (UInt8.ofNat v) = 0 + 1 := by rw [leadWidth_eq, hb, if_pos (by omega)]
  rw [start_char hlead (by simp [continued])]
  simp [codePoint, hb]

theorem start_two {v : Nat} (h1 : 0x80 ≤ v) (h2 : v ≤ 0x7FF) (rest : Bytes) :
    start (UInt8.ofNat (v / 64 % 32 + 192)) (UInt8.ofNat (v % 64 + 128) :: rest) =
      .char (Char.ofNat v) 2 := by
  have hb := toNat_byte (n := v / 64 % 32 + 192) (by omega)
  have hb2 := toNat_byte (n := v % 64 + 128) (by omega)
  have hlead : leadWidth (UInt8.ofNat (v / 64 % 32 + 192)) = 1 + 1 := by
    rw [leadWidth_eq, hb, if_neg (by omega), if_pos (by omega)]
  have hrange : secondRange (UInt8.ofNat (v / 64 % 32 + 192)) = (0x80, 0xBF) := by
    rw [secondRange_eq, hb, if_neg (by omega), if_neg (by omega), if_neg (by omega),
      if_neg (by omega)]
  rw [start_char hlead (continued_cons (by rw [hrange, hb2]; simp) (by rw [hrange, hb2]; simp; omega)
    (by simp) (by simp))]
  simp only [codePoint, List.take_succ_cons, List.take_zero, List.drop_succ_cons, List.drop_zero,
    List.foldl_cons, List.foldl_nil, hb, hb2]
  rw [show (v / 64 % 32 + 192) % 32 * 64 + (0 * 64 + (v % 64 + 128) % 64) = v by omega]

/-- A three-octet character: its second octet keeps it above U+07FF and off the surrogates. -/
theorem start_three {v : Nat} (h1 : 0x800 ≤ v) (h2 : v ≤ 0xFFFF) (hs : v < 0xD800 ∨ 0xDFFF < v)
    (rest : Bytes) :
    start (UInt8.ofNat (v / 4096 % 16 + 224))
      (UInt8.ofNat (v / 64 % 64 + 128) :: UInt8.ofNat (v % 64 + 128) :: rest) =
      .char (Char.ofNat v) 3 := by
  have hb := toNat_byte (n := v / 4096 % 16 + 224) (by omega)
  have hb2 := toNat_byte (n := v / 64 % 64 + 128) (by omega)
  have hb3 := toNat_byte (n := v % 64 + 128) (by omega)
  have hlead : leadWidth (UInt8.ofNat (v / 4096 % 16 + 224)) = 2 + 1 := by
    rw [leadWidth_eq, hb, if_neg (by omega), if_neg (by omega), if_pos (by omega)]
  have hsecond : (secondRange (UInt8.ofNat (v / 4096 % 16 + 224))).1.toNat ≤ v / 64 % 64 + 128 ∧
      v / 64 % 64 + 128 ≤ (secondRange (UInt8.ofNat (v / 4096 % 16 + 224))).2.toNat := by
    rw [secondRange_eq, hb]
    split_ifs <;> simp <;> omega
  rw [start_char hlead (continued_cons (by rw [hb2]; exact hsecond.1) (by rw [hb2]; exact hsecond.2)
    (by
      intro t ht
      simp only [List.take_succ_cons, List.take_zero, List.mem_singleton] at ht
      exact ht ▸ isTail_byte (by omega))
    (by simp))]
  simp only [codePoint, List.take_succ_cons, List.take_zero, List.drop_succ_cons, List.drop_zero,
    List.foldl_cons, List.foldl_nil, hb, hb2, hb3]
  rw [show (v / 4096 % 16 + 224) % 16 * 4096 + ((0 * 64 + (v / 64 % 64 + 128) % 64) * 64 +
    (v % 64 + 128) % 64) = v by omega]

/-- A four-octet character: its second octet keeps it between U+10000 and U+10FFFF. -/
theorem start_four {v : Nat} (h1 : 0x10000 ≤ v) (h2 : v ≤ 0x10FFFF) (rest : Bytes) :
    start (UInt8.ofNat (v / 262144 % 8 + 240))
      (UInt8.ofNat (v / 4096 % 64 + 128) :: UInt8.ofNat (v / 64 % 64 + 128) ::
        UInt8.ofNat (v % 64 + 128) :: rest) =
      .char (Char.ofNat v) 4 := by
  have hb := toNat_byte (n := v / 262144 % 8 + 240) (by omega)
  have hb2 := toNat_byte (n := v / 4096 % 64 + 128) (by omega)
  have hb3 := toNat_byte (n := v / 64 % 64 + 128) (by omega)
  have hb4 := toNat_byte (n := v % 64 + 128) (by omega)
  have hlead : leadWidth (UInt8.ofNat (v / 262144 % 8 + 240)) = 3 + 1 := by
    rw [leadWidth_eq, hb, if_neg (by omega), if_neg (by omega), if_neg (by omega),
      if_pos (by omega)]
  have hsecond : (secondRange (UInt8.ofNat (v / 262144 % 8 + 240))).1.toNat ≤
      v / 4096 % 64 + 128 ∧
      v / 4096 % 64 + 128 ≤ (secondRange (UInt8.ofNat (v / 262144 % 8 + 240))).2.toNat := by
    rw [secondRange_eq, hb]
    split_ifs <;> simp <;> omega
  rw [start_char hlead (continued_cons (by rw [hb2]; exact hsecond.1) (by rw [hb2]; exact hsecond.2)
    (by
      intro t ht
      simp only [List.take_succ_cons, List.take_zero, List.mem_cons, List.not_mem_nil,
        or_false] at ht
      rcases ht with rfl | rfl <;> exact isTail_byte (by omega))
    (by simp))]
  simp only [codePoint, List.take_succ_cons, List.take_zero, List.drop_succ_cons, List.drop_zero,
    List.foldl_cons, List.foldl_nil, hb, hb2, hb3, hb4]
  rw [show (v / 262144 % 8 + 240) % 8 * 262144 + (((0 * 64 + (v / 4096 % 64 + 128) % 64) * 64 +
    (v / 64 % 64 + 128) % 64) * 64 + (v % 64 + 128) % 64) = v by omega]

/-! ## 4. Reading a text back -/

theorem toNat_valid (c : Char) : c.toNat < 0xD800 ∨ (0xDFFF < c.toNat ∧ c.toNat < 0x110000) := by
  have h := c.valid
  simp only [Char.toNat, UInt32.isValidChar, Nat.isValidChar] at h ⊢
  omega

/-- **The octets of a character start that character**, whatever follows them. -/
theorem start_encodeChar (c : Char) (rest : Bytes) :
    ∃ b tl, String.utf8EncodeChar c = b :: tl ∧ start b (tl ++ rest) = .char c (tl.length + 1) := by
  have hv := toNat_valid c
  have hc : Char.ofNat c.toNat = c := Char.ofNat_toNat c
  unfold String.utf8EncodeChar
  simp only [show c.val.toNat = c.toNat from rfl]
  -- one case per width, as `utf8EncodeChar` splits them
  split
  · exact ⟨_, _, rfl, by rw [List.nil_append, start_one (by omega), hc]; rfl⟩
  split
  · exact ⟨_, _, rfl, by
      rw [List.cons_append, List.nil_append, start_two (by omega) (by omega), hc]; rfl⟩
  split
  · exact ⟨_, _, rfl, by
      rw [List.cons_append, List.cons_append, List.nil_append,
        start_three (by omega) (by omega) (by omega), hc]; rfl⟩
  · exact ⟨_, _, rfl, by
      rw [List.cons_append, List.cons_append, List.cons_append, List.nil_append,
        start_four (by omega) (by omega), hc]; rfl⟩

/-- The octets of a character beyond ASCII are all beyond ASCII. -/
theorem high_of_mem_utf8EncodeChar {c : Char} (hc : 0x80 ≤ c.toNat) {b : UInt8}
    (hb : b ∈ String.utf8EncodeChar c) : 0x80 ≤ b.toNat := by
  have hv := toNat_valid c
  unfold String.utf8EncodeChar at hb
  simp only [show c.val.toNat = c.toNat from rfl] at hb
  split at hb
  · omega
  split at hb
  · simp only [List.mem_cons, List.not_mem_nil, or_false] at hb
    rcases hb with rfl | rfl <;> rw [toNat_byte (by omega)] <;> omega
  split at hb
  · simp only [List.mem_cons, List.not_mem_nil, or_false] at hb
    rcases hb with rfl | rfl | rfl <;> rw [toNat_byte (by omega)] <;> omega
  · simp only [List.mem_cons, List.not_mem_nil, or_false] at hb
    rcases hb with rfl | rfl | rfl | rfl <;> rw [toNat_byte (by omega)] <;> omega

theorem decodeLossy_go_flatMap : ∀ (cs : List Char) (fuel : Nat) (acc : String),
    (cs.flatMap String.utf8EncodeChar).length ≤ fuel →
      decodeLossy.go fuel (cs.flatMap String.utf8EncodeChar) acc = acc ++ String.ofList cs
  | [], fuel, acc, _ => by cases fuel <;> simp [decodeLossy.go]
  | c :: cs, fuel, acc, hlen => by
    obtain ⟨b, tl, hbt, hstart⟩ := start_encodeChar c (cs.flatMap String.utf8EncodeChar)
    have hlen' : tl.length + 1 + (cs.flatMap String.utf8EncodeChar).length ≤ fuel := by
      simpa [List.flatMap_cons, hbt, Nat.add_comm, Nat.add_left_comm, Nat.add_assoc] using hlen
    obtain ⟨fuel, rfl⟩ : ∃ f, fuel = f + 1 := ⟨fuel - 1, by omega⟩
    rw [List.flatMap_cons, hbt, List.cons_append, decodeLossy.go, hstart]
    simp only [Nat.add_sub_cancel, List.drop_left]
    rw [decodeLossy_go_flatMap cs fuel (acc.push c) (by omega), ← String.toList_inj]
    simp only [String.toList_append, String.toList_push, String.toList_ofList, List.append_assoc,
      List.singleton_append]

/-- **A text reads back from its octets.** -/
theorem decodeLossy_encode (s : String) : decodeLossy (encode s) = s := by
  rw [decodeLossy, encode_eq_flatMap, decodeLossy_go_flatMap _ _ _ le_rfl]
  simp

end SmartHelmet.Text.Utf8
