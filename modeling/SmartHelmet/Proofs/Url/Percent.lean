import SmartHelmet.Url.Percent
import SmartHelmet.Url.Domain
import SmartHelmet.Proofs.Text.Utf8
/-!
# Percent forms, written and read

A component of a URL is written character by character: what its set keeps stands as it is,
anything else as `%` and two uppercase hexadecimal digits per octet. The facts the rest of the
library reads back through:

* `Keeps set c` — an ASCII character that `set` does not write in percent form;
* `percentEncode_of_keeps` — a text of kept characters is written as it is;
* `Written set c`, `mem_percentEncode` — what an encoding writes: kept characters, `%` and
  uppercase hexadecimal digits;
* `percentEncode_percentEncode` — so writing a component again with a set that keeps all of
  those changes nothing;
* `percentDecode_of_not_percent` — octets without `%` decode to themselves;
* `formEncode_toList`, `percentDecode_formEncode` — the form encoding of a text, with `+` read as
  a space, percent-decodes to the text's octets.
-/

namespace SmartHelmet.Url

open Text.Utf8

/-! ## 1. Sets, read as characters -/

theorem among_eq (chars : String) (b : UInt8) :
    among chars b = chars.toList.any (fun c => c.toNat == b.toNat) :=
  String.contains_bool_eq

/-- An ASCII character that `set` does not write in percent form. -/
def Keeps (set : EncodeSet) (c : Char) : Prop :=
  c.toNat < 0x80 ∧ set (UInt8.ofNat c.toNat) = false

instance (set : EncodeSet) (c : Char) : Decidable (Keeps set c) :=
  inferInstanceAs (Decidable (_ ∧ _))

/-- An uppercase hexadecimal digit, as `upperDigit` writes them. -/
def IsUpperHex (c : Char) : Prop :=
  (0x30 ≤ c.toNat ∧ c.toNat ≤ 0x39) ∨ (0x41 ≤ c.toNat ∧ c.toNat ≤ 0x46)

/-- What an encoding by `set` writes: a kept character, `%`, or an uppercase hexadecimal
    digit. -/
def Written (set : EncodeSet) (c : Char) : Prop :=
  Keeps set c ∨ c = '%' ∨ IsUpperHex c

/-! ## 2. ASCII octets -/

theorem utf8EncodeChar_ascii {c : Char} (h : c.toNat < 0x80) :
    String.utf8EncodeChar c = [UInt8.ofNat c.toNat] := by
  unfold String.utf8EncodeChar
  rw [if_pos (show c.val.toNat ≤ 127 from by simp only [← Char.toNat_val] at h ⊢; omega)]
  rfl

theorem encode_ofList_ascii {cs : List Char} (h : ∀ c ∈ cs, c.toNat < 0x80) :
    encode (String.ofList cs) = cs.map fun c => UInt8.ofNat c.toNat := by
  rw [encode_eq_flatMap, String.toList_ofList]
  induction cs with
  | nil => rfl
  | cons c cs ih =>
    rw [List.flatMap_cons, utf8EncodeChar_ascii (h c (by simp)), ih fun c' hc' => h c' (by simp [hc'])]
    rfl

theorem toNat_ofNat_ascii {c : Char} (h : c.toNat < 0x80) : (UInt8.ofNat c.toNat).toNat = c.toNat :=
  toNat_byte (by omega)

theorem char_ofNat_ascii {c : Char} (h : c.toNat < 0x80) :
    Char.ofNat (UInt8.ofNat c.toNat).toNat = c := by
  rw [toNat_ofNat_ascii h, Char.ofNat_toNat]

/-! ## 3. Writing kept characters -/

theorem foldl_append_toList {α : Type} (f : α → String) : ∀ (l : List α) (acc : String),
    (l.foldl (fun acc b => acc ++ f b) acc).toList = acc.toList ++ l.flatMap fun b => (f b).toList
  | [], acc => by simp
  | b :: l, acc => by
    rw [List.foldl_cons, foldl_append_toList f l, String.toList_append, List.flatMap_cons,
      List.append_assoc]

theorem percentEncode_toList (set : EncodeSet) (s : String) :
    (percentEncode set s).toList = (encode s).flatMap fun b => (encodeByte set b).toList := by
  rw [percentEncode, foldl_append_toList]
  simp

theorem encodeByte_keeps {set : EncodeSet} {c : Char} (h : Keeps set c) :
    encodeByte set (UInt8.ofNat c.toNat) = String.singleton c := by
  have hlt : ¬ (UInt8.ofNat c.toNat ≥ 0x80) := by
    have := h.1
    rw [ge_iff_le, UInt8.le_iff_toNat_le, toNat_ofNat_ascii h.1]; simp; omega
  simp only [encodeByte, h.2, Bool.or_false, hlt, decide_false, Bool.false_eq_true, if_false]
  rw [char_ofNat_ascii h.1]

/-- **A text of kept characters is written as it is.** -/
theorem percentEncode_of_keeps {set : EncodeSet} {s : String} (h : ∀ c ∈ s.toList, Keeps set c) :
    percentEncode set s = s := by
  rw [← String.toList_inj, percentEncode_toList]
  conv_lhs => rw [← String.ofList_toList (s := s)]
  rw [encode_ofList_ascii fun c hc => (h c hc).1, List.flatMap_map]
  conv_rhs => rw [← List.flatMap_singleton' s.toList]
  exact List.flatMap_congr fun c hc => by rw [encodeByte_keeps (h c hc), String.toList_singleton]

theorem encodeChar_keeps {set : EncodeSet} {c : Char} (h : Keeps set c) :
    encodeChar set c = String.singleton c :=
  percentEncode_of_keeps (by simpa using h)

/-! ## 4. What an encoding writes -/

theorem upperDigit_isUpperHex {n : Nat} (h : n < 16) : IsUpperHex (upperDigit n) := by
  unfold upperDigit IsUpperHex
  split <;> rw [Char.toNat_ofNat, if_pos (Or.inl (by simp; omega))] <;> simp <;> omega

theorem mem_percentByte {b : UInt8} {c : Char} (h : c ∈ (percentByte b).toList) :
    c = '%' ∨ IsUpperHex c := by
  have hb := b.toNat_lt
  simp only [percentByte, String.toList_ofList, List.mem_cons, List.not_mem_nil, or_false] at h
  rcases h with rfl | rfl | rfl
  · exact .inl rfl
  · exact .inr (upperDigit_isUpperHex (by omega))
  · exact .inr (upperDigit_isUpperHex (by omega))

theorem mem_encodeByte {set : EncodeSet} {b : UInt8} {c : Char}
    (h : c ∈ (encodeByte set b).toList) : Written set c := by
  unfold encodeByte at h
  split at h
  · exact .inr (mem_percentByte h)
  · rename_i hb
    simp only [Bool.or_eq_true, decide_eq_true_eq, not_or, Bool.not_eq_true] at hb
    have hlt : b.toNat < 0x80 := by
      have := hb.1; rw [ge_iff_le, UInt8.le_iff_toNat_le] at this; simp at this; omega
    simp only [String.toList_singleton, List.mem_singleton] at h
    subst h
    have hc : (Char.ofNat b.toNat).toNat = b.toNat := by
      rw [Char.toNat_ofNat, if_pos (Or.inl (by omega))]
    refine .inl ⟨by omega, ?_⟩
    rw [hc, UInt8.ofNat_toNat]
    exact hb.2

/-- **What an encoding writes**: kept characters, `%` and uppercase hexadecimal digits. -/
theorem mem_percentEncode {set : EncodeSet} {s : String} {c : Char}
    (h : c ∈ (percentEncode set s).toList) : Written set c := by
  rw [percentEncode_toList] at h
  obtain ⟨b, -, hb⟩ := List.mem_flatMap.1 h
  exact mem_encodeByte hb

/-- **What writing one character gives**: the character itself where the set keeps it, and
    otherwise `%` and uppercase hexadecimal digits. -/
theorem mem_encodeChar {set : EncodeSet} {c d : Char} (h : d ∈ (encodeChar set c).toList) :
    (d = c ∧ Keeps set c) ∨ d = '%' ∨ IsUpperHex d := by
  by_cases hk : Keeps set c
  · rw [encodeChar_keeps hk, String.toList_singleton, List.mem_singleton] at h
    exact .inl ⟨h, hk⟩
  rw [encodeChar, percentEncode_toList, encode_eq_flatMap, String.toList_singleton,
    List.flatMap_singleton] at h
  obtain ⟨b, hb, hd⟩ := List.mem_flatMap.1 h
  unfold encodeByte at hd
  split at hd
  · exact .inr (mem_percentByte hd)
  · -- an octet written as it is would make the character one the set keeps
    rename_i hplain
    simp only [Bool.or_eq_true, decide_eq_true_eq, not_or, Bool.not_eq_true] at hplain
    have hlt : b.toNat < 0x80 := by
      have := hplain.1; rw [ge_iff_le, UInt8.le_iff_toNat_le] at this; simp at this; omega
    by_cases hc : c.toNat < 0x80
    · rw [utf8EncodeChar_ascii hc, List.mem_singleton] at hb
      exact absurd ⟨hc, hb ▸ hplain.2⟩ hk
    · exact absurd (high_of_mem_utf8EncodeChar (by omega) hb) (by omega)

/-- **Writing a component again changes nothing**, with a set that keeps what the first
    encoding wrote. -/
theorem percentEncode_percentEncode {set set' : EncodeSet} (h : ∀ c, Written set c → Keeps set' c)
    (s : String) : percentEncode set' (percentEncode set s) = percentEncode set s :=
  percentEncode_of_keeps fun _ hc => h _ (mem_percentEncode hc)

/-! ## 5. Reading octets back -/

theorem percentDecode_of_ne {b : UInt8} (h : b ≠ 0x25) (rest : Bytes) :
    percentDecode (b :: rest) = b :: percentDecode rest :=
  percentDecode.eq_2 b rest fun _ _ _ hb _ => h hb

/-- **Octets without `%` decode to themselves.** -/
theorem percentDecode_of_not_percent {bs : Bytes} (h : ∀ b ∈ bs, b ≠ 0x25) : percentDecode bs = bs := by
  induction bs with
  | nil => exact percentDecode.eq_3
  | cons b bs ih =>
    rw [percentDecode_of_ne (h b List.mem_cons_self), ih fun b' hb' => h b' (List.mem_cons_of_mem b hb')]

theorem hexValue_upperDigit {n : Nat} (h : n < 16) :
    hexValue (UInt8.ofNat (upperDigit n).toNat) = some n := by
  unfold upperDigit
  split <;> rw [Char.toNat_ofNat, if_pos (Or.inl (by simp; omega))] <;>
    simp only [hexValue, UInt8.le_iff_toNat_le, Bool.and_eq_true, decide_eq_true_eq] <;>
    simp <;> split_ifs <;> (try simp only [Option.some.injEq]) <;> omega

/-- The octets of a percent form read back as the octet. -/
theorem percentDecode_percentByte (b : UInt8) (rest : Bytes) :
    percentDecode (((percentByte b).toList.map fun c => UInt8.ofNat c.toNat) ++ rest) =
      b :: percentDecode rest := by
  have hb := b.toNat_lt
  simp only [percentByte, String.toList_ofList, List.map_cons, List.map_nil, List.cons_append,
    List.nil_append]
  rw [show UInt8.ofNat ('%'.toNat) = 0x25 from rfl, percentDecode.eq_1,
    hexValue_upperDigit (by omega), hexValue_upperDigit (by omega)]
  simp only [List.cons.injEq, and_true]
  rw [show b.toNat / 16 * 16 + b.toNat % 16 = b.toNat by omega]
  simp

/-! ## 6. The form encoding -/

/-- How the form encoding writes one octet. -/
def formByte (b : UInt8) : List Char :=
  if formKeeps b then [Char.ofNat b.toNat] else if b == 0x20 then ['+'] else (percentByte b).toList

theorem formEncode_toList (s : String) : (formEncode s).toList = (encode s).flatMap formByte := by
  have step : ∀ (l : Bytes) (acc : String), (l.foldl (fun acc b =>
      if formKeeps b then acc.push (Char.ofNat b.toNat)
      else if b == 0x20 then acc.push '+' else acc ++ percentByte b) acc).toList =
      acc.toList ++ l.flatMap formByte := by
    intro l
    induction l with
    | nil => simp
    | cons b l ih =>
      intro acc
      rw [List.foldl_cons, ih, List.flatMap_cons, ← List.append_assoc]
      congr 1
      unfold formByte
      split_ifs <;> simp
  rw [formEncode, step]
  simp

/-- Form-kept octets are ASCII letters, digits and `* - . _`. -/
theorem formKeeps_iff (b : UInt8) : formKeeps b = true ↔
    (0x30 ≤ b.toNat ∧ b.toNat ≤ 0x39) ∨ (0x41 ≤ b.toNat ∧ b.toNat ≤ 0x5A) ∨
      (0x61 ≤ b.toNat ∧ b.toNat ≤ 0x7A) ∨ b.toNat = 0x2A ∨ b.toNat = 0x2D ∨ b.toNat = 0x2E ∨
      b.toNat = 0x5F := by
  simp [formKeeps, among_eq, UInt8.le_iff_toNat_le]
  omega

/-- What the form encoding writes: form-kept characters, `+`, `%` and uppercase hexadecimal
    digits. -/
theorem mem_formByte {b : UInt8} {c : Char} (h : c ∈ formByte b) :
    (c.toNat < 0x80 ∧ formKeeps (UInt8.ofNat c.toNat) = true) ∨ c = '+' ∨ c = '%' ∨
      IsUpperHex c := by
  unfold formByte at h
  split_ifs at h with hk hs
  · simp only [List.mem_singleton] at h
    subst h
    have hlt : b.toNat < 0x80 := by rw [formKeeps_iff] at hk; omega
    have hc : (Char.ofNat b.toNat).toNat = b.toNat := by
      rw [Char.toNat_ofNat, if_pos (Or.inl (by omega))]
    exact .inl ⟨by omega, by rw [hc, UInt8.ofNat_toNat]; exact hk⟩
  · simp only [List.mem_singleton] at h
    exact .inr (.inl h)
  · exact .inr (.inr (mem_percentByte h))

/-- The form encoding with `+` read as a space. -/
def plusToSpace (bs : Bytes) : Bytes := bs.map fun b => if b == 0x2B then 0x20 else b

theorem plusToSpace_append (bs bs' : Bytes) :
    plusToSpace (bs ++ bs') = plusToSpace bs ++ plusToSpace bs' := List.map_append

theorem formByte_ascii {b : UInt8} {c : Char} (h : c ∈ formByte b) : c.toNat < 0x80 := by
  rcases mem_formByte h with h | rfl | rfl | h
  · exact h.1
  · decide
  · decide
  · unfold IsUpperHex at h; omega

/-- One octet written by the form encoding and read back. -/
theorem percentDecode_formByte (b : UInt8) (rest : Bytes) :
    percentDecode (plusToSpace ((formByte b).map fun c => UInt8.ofNat c.toNat) ++ rest) =
      b :: percentDecode rest := by
  unfold formByte
  split_ifs with hk hs
  · have hlt : b.toNat < 0x80 := by rw [formKeeps_iff] at hk; omega
    have hb : UInt8.ofNat (Char.ofNat b.toNat).toNat = b := by
      rw [Char.toNat_ofNat, if_pos (Or.inl (by omega)), UInt8.ofNat_toNat]
    have hne : b ≠ 0x2B ∧ b ≠ 0x25 := by
      rw [formKeeps_iff] at hk
      constructor <;> intro he <;> subst he <;> simp at hk
    simp only [List.map_cons, List.map_nil, plusToSpace, hb, List.cons_append, List.nil_append]
    rw [if_neg (by simpa using hne.1), percentDecode_of_ne hne.2]
  · have hb : b = 0x20 := by simpa using hs
    subst hb
    simp only [List.map_cons, List.map_nil, plusToSpace, List.cons_append, List.nil_append]
    rw [if_pos (by decide), percentDecode_of_ne (by decide)]
  · -- a percent form holds no `+`
    have hplus : plusToSpace ((percentByte b).toList.map fun c => UInt8.ofNat c.toNat) =
        (percentByte b).toList.map fun c => UInt8.ofNat c.toNat := by
      unfold plusToSpace
      rw [List.map_map]
      refine List.map_congr_left fun c hc => ?_
      rcases mem_percentByte hc with rfl | h
      · rfl
      · have : (UInt8.ofNat c.toNat).toNat = c.toNat := toNat_byte (by unfold IsUpperHex at h; omega)
        have hne : UInt8.ofNat c.toNat ≠ 0x2B := by
          intro he; rw [he] at this; unfold IsUpperHex at h; simp at this; omega
        simp [hne]
    rw [hplus, percentDecode_percentByte]

/-- **The form encoding of a text reads back as the text's octets**, `+` taken for a space. -/
theorem percentDecode_formEncode (s : String) :
    percentDecode (plusToSpace (encode (formEncode s))) = encode s := by
  have hascii : ∀ c ∈ (formEncode s).toList, c.toNat < 0x80 := by
    intro c hc
    rw [formEncode_toList] at hc
    obtain ⟨b, -, hb⟩ := List.mem_flatMap.1 hc
    exact formByte_ascii hb
  conv_lhs => rw [← String.ofList_toList (s := formEncode s)]
  rw [encode_ofList_ascii hascii, formEncode_toList, List.map_flatMap]
  generalize encode s = bs
  induction bs with
  | nil => simp [plusToSpace, percentDecode.eq_3]
  | cons b bs ih =>
    rw [List.flatMap_cons, plusToSpace_append, percentDecode_formByte, ih]

/-! ## 7. Form-encoded pairs -/

/-- A form-encoded half of a pair read back: `+` as a space, percent forms decoded, and every
    ill-formed UTF-8 subpart replaced. -/
def formText (bs : Bytes) : String := decodeLossy (percentDecode (plusToSpace bs))

/-- **The pairs a form-encoded text reads as** (`application/x-www-form-urlencoded`): its octets
    split at `&`, empty pieces skipped, each piece split at its first `=`. -/
def formDecode (text : String) : List (String × String) :=
  ((splitAt 0x26 (encode text)).filter (!·.isEmpty)).map fun piece =>
    (formText (piece.takeWhile (· != 0x3D)), formText ((piece.dropWhile (· != 0x3D)).drop 1))

theorem splitAt_of_not_mem {α : Type} [BEq α] [LawfulBEq α] {sep : α} :
    ∀ {l : List α}, sep ∉ l → splitAt sep l = [l]
  | [], _ => rfl
  | c :: l, h => by
    have hc : (c == sep) = false := by
      simp only [beq_eq_false_iff_ne, ne_eq]; exact fun e => h (e ▸ List.mem_cons_self)
    simp only [splitAt, splitAt_of_not_mem (fun hm => h (List.mem_cons_of_mem c hm)), hc]
    rfl

/-- The octets of a form encoding, one per character. -/
theorem encode_formEncode (s : String) :
    encode (formEncode s) = (formEncode s).toList.map fun c => UInt8.ofNat c.toNat := by
  conv_lhs => rw [← String.ofList_toList (s := formEncode s)]
  refine encode_ofList_ascii fun c hc => ?_
  rw [formEncode_toList] at hc
  obtain ⟨b, -, hb⟩ := List.mem_flatMap.1 hc
  exact formByte_ascii hb

/-- A form encoding holds neither `&` nor `=`. -/
theorem formEncode_not_separator (s : String) (sep : UInt8) (hsep : sep = 0x26 ∨ sep = 0x3D) :
    sep ∉ encode (formEncode s) := by
  rw [encode_formEncode, formEncode_toList]
  intro hm
  obtain ⟨c, hc, he⟩ := List.mem_map.1 hm
  obtain ⟨b, -, hb⟩ := List.mem_flatMap.1 hc
  have hlt := formByte_ascii hb
  have hval : c.toNat = sep.toNat := by rw [← he, toNat_byte (by omega)]
  rcases mem_formByte hb with ⟨-, hk⟩ | rfl | rfl | hx
  · rw [formKeeps_iff, toNat_byte (by omega)] at hk
    rcases hsep with rfl | rfl <;> simp at hval <;> omega
  · rcases hsep with rfl | rfl <;> simp at hval
  · rcases hsep with rfl | rfl <;> simp at hval
  · unfold IsUpperHex at hx
    rcases hsep with rfl | rfl <;> simp at hval <;> omega

theorem formText_formEncode (s : String) : formText (encode (formEncode s)) = s := by
  rw [formText, percentDecode_formEncode, decodeLossy_encode]

/-- **A form-encoded pair reads back as the pair.** -/
theorem formDecode_pair (name value : String) :
    formDecode (formEncode name ++ "=" ++ formEncode value) = [(name, value)] := by
  have hsep : encode "=" = [0x3D] := by rw [encode_eq_flatMap]; decide
  have hsplit : encode (formEncode name ++ "=" ++ formEncode value) =
      encode (formEncode name) ++ 0x3D :: encode (formEncode value) := by
    rw [encode_append, encode_append, hsep, List.append_assoc, List.singleton_append]
  -- no `&` anywhere, so the text is one piece; no `=` in the name, so it splits at the `=` written
  have hamp : (0x26 : UInt8) ∉ encode (formEncode name) ++ 0x3D :: encode (formEncode value) := by
    simp only [List.mem_append, List.mem_cons, not_or]
    exact ⟨formEncode_not_separator _ _ (.inl rfl), by decide,
      formEncode_not_separator _ _ (.inl rfl)⟩
  have hname : ∀ b ∈ encode (formEncode name), (b != 0x3D) = true := fun b hb => by
    simp only [bne_iff_ne, ne_eq]
    exact fun e => formEncode_not_separator name 0x3D (.inr rfl) (e ▸ hb)
  have hpiece : (encode (formEncode name) ++ 0x3D :: encode (formEncode value)).isEmpty = false :=
    by simp
  rw [formDecode, hsplit, splitAt_of_not_mem hamp, List.filter_singleton, hpiece]
  simp [List.takeWhile_append_of_pos hname, List.dropWhile_append_of_pos hname,
    formText_formEncode]

/-- A text of form-kept characters is its own form encoding. -/
theorem formEncode_of_keeps {s : String}
    (h : ∀ c ∈ s.toList, c.toNat < 0x80 ∧ formKeeps (UInt8.ofNat c.toNat) = true) :
    formEncode s = s := by
  rw [← String.toList_inj, formEncode_toList]
  conv_lhs => rw [← String.ofList_toList (s := s)]
  rw [encode_ofList_ascii fun c hc => (h c hc).1, List.flatMap_map]
  conv_rhs => rw [← List.flatMap_singleton' s.toList]
  refine List.flatMap_congr fun c hc => ?_
  rw [formByte, if_pos (h c hc).2, char_ofNat_ascii (h c hc).1]

end SmartHelmet.Url
