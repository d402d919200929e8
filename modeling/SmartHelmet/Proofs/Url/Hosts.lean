import Mathlib
import SmartHelmet.Url.Parse
import SmartHelmet.Proofs.Url.Addresses
import SmartHelmet.Proofs.Url.Percent
import SmartHelmet.Proofs.Except
/-!
# Hosts, written and read again

The text a host is written as reads again as a host, by the reading that gave it:

* `endsInNumber_toLower` — whether a domain ends in a number does not depend on its case;
* `Host.parse_text` — the host of a special URL, written out, reads as a host again;
* `Host.parsePlain_text` — and so does the host of any other URL;
* `HostText` — what such a text holds: characters that end no authority and are no `@`, or an
  IPv6 address in brackets; `hostSpan_hostText` reads exactly that text as the host.
-/

namespace SmartHelmet.Url

open Text.Hex Text.Utf8

/-! ## 1. Case -/

theorem toList_toLower (s : String) : s.toLower.toList = s.toList.map Char.toLower := by
  rw [String.toLower, String.toList_map]

/-- A character other than a letter is lowercase only as itself. -/
theorem toLower_eq_iff {c d : Char} (hd : ¬(0x41 ≤ d.toNat ∧ d.toNat ≤ 0x5A))
    (hd' : ¬(0x61 ≤ d.toNat ∧ d.toNat ≤ 0x7A)) : c.toLower = d ↔ c = d := by
  rw [← Char.toNat_inj, ← Char.toNat_inj, Punycode.toNat_toLower]
  split_ifs <;> omega

theorem digit?_eq (c : Char) : digit? c =
    if 0x30 ≤ c.toNat ∧ c.toNat ≤ 0x39 then some (c.toNat - 0x30)
    else if 0x61 ≤ c.toNat ∧ c.toNat ≤ 0x66 then some (c.toNat - 0x61 + 10)
    else if 0x41 ≤ c.toNat ∧ c.toNat ≤ 0x46 then some (c.toNat - 0x41 + 10)
    else none := by
  simp [digit?, Char.le_def, UInt32.le_iff_toNat_le]

theorem digit?_toLower (c : Char) : digit? c.toLower = digit? c := by
  rw [digit?_eq, digit?_eq, Punycode.toNat_toLower]
  split_ifs <;> first | rfl | omega

theorem isDigit_toLower (c : Char) : c.toLower.isDigit = c.isDigit := by
  rw [Bool.eq_iff_iff]
  simp only [Char.isDigit, Bool.and_eq_true, decide_eq_true_eq, UInt32.le_iff_toNat_le,
    Char.toNat_val, Char.reduceToNat] at *
  rw [Punycode.toNat_toLower]
  split_ifs <;> omega

theorem digitsIn_map_toLower (r : Nat) (cs : List Char) :
    digitsIn r (cs.map Char.toLower) = digitsIn r cs := by
  simp only [digitsIn, List.foldlM_map, digit?_toLower]

theorem ipv4Number_of_ne_zero {c : Char} (hc : c ≠ '0') (cs : List Char) :
    ipv4Number (c :: cs) = digitsIn 10 (c :: cs) := by
  unfold ipv4Number
  split
  · rename_i heq
    exact absurd heq (List.cons_ne_nil _ _)
  · rename_i heq
    exact absurd (List.cons.inj heq).1 hc
  · rfl

theorem hexMark_toLower (x : Char) :
    (x.toLower == 'x' || x.toLower == 'X') = (x == 'x' || x == 'X') := by
  rw [Bool.eq_iff_iff]
  simp only [Bool.or_eq_true, beq_iff_eq, ← Char.toNat_inj, Punycode.toNat_toLower, Char.reduceToNat]
  split_ifs <;> omega

/-- **A part of an IPv4 address reads the same in either case.** -/
theorem ipv4Number_map_toLower (cs : List Char) :
    ipv4Number (cs.map Char.toLower) = ipv4Number cs := by
  rcases cs with _ | ⟨c, cs⟩
  · rfl
  by_cases hc : c = '0'
  · subst hc
    rcases cs with _ | ⟨x, rest⟩
    · rfl
    · simp only [List.map_cons, show '0'.toLower = '0' by decide, ipv4Number, hexMark_toLower,
        List.isEmpty_map, digitsIn_map_toLower]
      rw [← List.map_cons, digitsIn_map_toLower]
  · have hlow : c.toLower ≠ '0' := by
      rw [ne_eq, toLower_eq_iff (by decide) (by decide)]
      exact hc
    rw [List.map_cons, ipv4Number_of_ne_zero hlow, ipv4Number_of_ne_zero hc, ← List.map_cons,
      digitsIn_map_toLower]

theorem splitAt_map {f : Char → Char} {sep : Char} (hf : ∀ c, f c = sep ↔ c = sep) :
    ∀ cs : List Char, splitAt sep (cs.map f) = (splitAt sep cs).map (List.map f)
  | [] => rfl
  | c :: rest => by
    have ih := splitAt_map hf rest
    by_cases hc : c = sep
    · subst hc
      simp [splitAt, ih, (hf c).2 rfl]
    · have hfc : f c ≠ sep := fun h => hc ((hf c).1 h)
      simp only [List.map_cons, splitAt, ih, beq_iff_eq, hfc, hc, ↓reduceIte]
      rcases splitAt sep rest with _ | ⟨p, ps⟩ <;> rfl

/-- **Whether a domain ends in a number does not depend on its case.** -/
theorem endsInNumber_toLower (d : String) : endsInNumber d.toLower = endsInNumber d := by
  have hparts : (splitAt '.' d.toLower.toList).reverse =
      (splitAt '.' d.toList).reverse.map (List.map Char.toLower) := by
    rw [toList_toLower, splitAt_map (fun c => toLower_eq_iff (by decide) (by decide)),
      List.map_reverse]
  have hlast : ∀ l : List Char,
      ((!(l.map Char.toLower).isEmpty && (l.map Char.toLower).all Char.isDigit) ||
        (ipv4Number (l.map Char.toLower)).isSome) =
      ((!l.isEmpty && l.all Char.isDigit) || (ipv4Number l).isSome) := fun l => by
    simp [ipv4Number_map_toLower, List.all_map, Function.comp_def, isDigit_toLower]
  unfold endsInNumber
  dsimp only
  rw [hparts]
  rcases (splitAt '.' d.toList).reverse with _ | ⟨_ | ⟨c, p⟩, _ | ⟨next, rest⟩⟩
  · rfl
  · rfl
  · exact hlast next
  · exact hlast (c :: p)
  · exact hlast (c :: p)

/-! ## 2. What a host's text holds -/

/-- A character a host's text holds outside brackets: no control or space, and none of
    `#`, `/`, `:`, `?`, `@`, `[`, `\`, `]`, which end an authority or split it. -/
def HostChar (c : Char) : Prop :=
  0x20 < c.toNat ∧ c.toNat ∉ [0x23, 0x2F, 0x3A, 0x3F, 0x40, 0x5B, 0x5C, 0x5D]

instance (c : Char) : Decidable (HostChar c) := inferInstanceAs (Decidable (_ ∧ _))

/-- The text of a host: characters of a host, or an IPv6 address in brackets, where `:` stands
    between the pieces. -/
def HostText (t : List Char) : Prop :=
  (∀ c ∈ t, HostChar c) ∨ ∃ inner, t = '[' :: inner ++ [']'] ∧ ∀ c ∈ inner, c = ':' ∨ HostChar c

theorem HostChar.ne {c : Char} (h : HostChar c) :
    c ≠ '#' ∧ c ≠ '/' ∧ c ≠ ':' ∧ c ≠ '?' ∧ c ≠ '@' ∧ c ≠ '[' ∧ c ≠ '\\' ∧ c ≠ ']' := by
  obtain ⟨-, h⟩ := h
  refine ⟨?_, ?_, ?_, ?_, ?_, ?_, ?_, ?_⟩ <;> rintro rfl <;> simp at h

theorem hostChar_of_domain {c : Char} (h : forbiddenInDomain c.toNat = false) : HostChar c := by
  rw [Bool.eq_false_iff, ne_eq, forbiddenInDomain_iff] at h
  unfold HostChar
  simp only [List.mem_cons, List.not_mem_nil, or_false, not_or] at h ⊢
  omega

theorem forbiddenInHost_iff (c : Char) : forbiddenInHost c = true ↔
    c.toNat ∈ [0, 9, 10, 13, 32, 35, 47, 58, 60, 62, 63, 64, 91, 92, 93, 94, 124] := by
  have hcodes : "\t\n\r #/:<>?@[\\]^|".toList.map Char.toNat =
      [9, 10, 13, 32, 35, 47, 58, 60, 62, 63, 64, 91, 92, 93, 94, 124] := by decide
  have hany : ("\t\n\r #/:<>?@[\\]^|".any fun d => d == c) =
      "\t\n\r #/:<>?@[\\]^|".toList.any (· == c) := String.contains_bool_eq
  rw [forbiddenInHost, hany, List.mem_cons, ← hcodes, List.mem_map]
  simp only [Bool.or_eq_true, beq_iff_eq, List.any_eq_true, Char.toNat_inj]
  rw [← Char.toNat_inj, show ('\x00' : Char).toNat = 0 by decide]

/-- A character of a host text that is not special, kept as written, is a host character. -/
theorem hostChar_of_plain {c : Char} (hf : forbiddenInHost c = false) (hk : Keeps controls c) :
    HostChar c := by
  rw [Bool.eq_false_iff, ne_eq, forbiddenInHost_iff] at hf
  obtain ⟨hlt, hset⟩ := hk
  simp only [controls, Bool.or_eq_false_iff, decide_eq_false_iff_not, beq_eq_false_iff_ne,
    UInt8.lt_iff_toNat_lt, toNat_ofNat_ascii hlt, ne_eq, ← UInt8.toNat_inj] at hset
  unfold HostChar
  simp only [List.mem_cons, List.not_mem_nil, or_false, not_or] at hf ⊢
  simp at hset
  omega

theorem hostChar_percent : HostChar '%' := by decide

theorem hostChar_of_upperHex {c : Char} (h : IsUpperHex c) : HostChar c := by
  unfold IsUpperHex at h
  unfold HostChar
  simp only [List.mem_cons, List.not_mem_nil, or_false, not_or]
  omega

/-- A character as percent-encoding writes it comes from a character of the text. -/
theorem mem_percentEncode_char {set : EncodeSet} {s : String} {d : Char}
    (h : d ∈ (percentEncode set s).toList) : ∃ c ∈ s.toList, d ∈ (encodeChar set c).toList := by
  rw [percentEncode_toList, encode_eq_flatMap, List.flatMap_assoc] at h
  obtain ⟨c, hc, hd⟩ := List.mem_flatMap.1 h
  refine ⟨c, hc, ?_⟩
  rw [encodeChar, percentEncode_toList, encode_eq_flatMap, String.toList_singleton,
    List.flatMap_singleton]
  exact hd

/-! ## 3. Hosts read again -/

/-- Octets of ASCII characters other than `%` decode to themselves. -/
theorem percentDecode_encode_ascii {s : String} (h : ∀ c ∈ s.toList, c.toNat < 0x80 ∧ c ≠ '%') :
    decodeLossy (percentDecode (encode s)) = s := by
  rw [percentDecode_of_not_percent, decodeLossy_encode]
  intro b hb
  rw [← String.ofList_toList (s := s), encode_ofList_ascii fun c hc => (h c hc).1] at hb
  obtain ⟨c, hc, rfl⟩ := List.mem_map.1 hb
  intro he
  have hval := congrArg UInt8.toNat he
  rw [toNat_ofNat_ascii (h c hc).1] at hval
  exact (h c hc).2 (Char.toNat_inj.1 (by rw [hval]; rfl))

/-- **An IPv6 address as a special URL writes it reads as the address.** -/
theorem Host.parse_ipv6Text {ps : List Nat} (hlen : ps.length = 8) (hb : ∀ p ∈ ps, p < 0x10000) :
    Host.parse ("[" ++ ipv6Text ps ++ "]") = .ok (.ipv6 ps) := by
  simp [Host.parse, parseIpv6_ipv6Text hlen hb, Except.map]

/-- **An IPv6 address as any other URL writes it reads as the address.** -/
theorem Host.parsePlain_ipv6Text {ps : List Nat} (hlen : ps.length = 8)
    (hb : ∀ p ∈ ps, p < 0x10000) : Host.parsePlain ("[" ++ ipv6Text ps ++ "]") = .ok (.ipv6 ps) := by
  simp [Host.parsePlain, parseIpv6_ipv6Text hlen hb, Except.map]

theorem mem_ipv4Text {a : Nat} {c : Char} (h : c ∈ (ipv4Text a).toList) :
    c = '.' ∨ ∃ k < 10, c = Nat.digitChar k := by
  rw [ipv4Text_toList] at h
  rcases mem_intercalate h with h | ⟨l, hl, hc⟩
  · exact .inl h
  · obtain ⟨n, -, rfl⟩ := List.mem_map.1 hl
    exact .inr (mem_toDigits (by decide) n c hc)

/-- What holds of `.` and of every decimal digit holds of every character of dotted decimal. -/
theorem forall_ipv4Text {P : Char → Prop} (hdot : P '.') (hdigit : ∀ k ∈ List.range 10, P (Nat.digitChar k))
    (a : Nat) : ∀ c ∈ (ipv4Text a).toList, P c := fun c hc => by
  rcases mem_ipv4Text hc with rfl | ⟨k, hk, rfl⟩
  · exact hdot
  · exact hdigit k (List.mem_range.2 hk)

theorem ipv4Text_ne_bracket (a : Nat) (rest : List Char) : (ipv4Text a).toList ≠ '[' :: rest := by
  intro h
  have := forall_ipv4Text (P := fun c => c ≠ '[') (by decide) (by decide) a '[' (h ▸ List.mem_cons_self)
  exact this rfl

theorem ipv4Text_toList_ne_nil (a : Nat) : (ipv4Text a).toList ≠ [] := by
  simp [ipv4Text_toList, ipv4Parts, Nat.toDigits_ne_nil]

theorem ipv4Text_isEmpty (a : Nat) : (ipv4Text a).isEmpty = false := by
  rw [Bool.eq_false_iff, ne_eq, String.isEmpty_iff, ← String.toList_inj]
  exact ipv4Text_toList_ne_nil a

/-- Dotted decimal is its own ASCII form. -/
theorem domainToAscii_ipv4Text (a : Nat) : domainToAscii (ipv4Text a) = some (ipv4Text a) := by
  have hpass : passesThrough (ipv4Text a).toList = true := by
    simp only [passesThrough, Bool.and_eq_true, List.all_eq_true]
    refine ⟨forall_ipv4Text (by decide) (by decide) a, fun l hl => ?_⟩
    rw [splitAt_ipv4Text] at hl
    obtain ⟨n, -, rfl⟩ := List.mem_map.1 hl
    obtain ⟨d, ds, hds⟩ := List.exists_cons_of_ne_nil (Nat.toDigits_ne_nil (n := n) (b := 10))
    obtain ⟨k, hk, rfl⟩ := mem_toDigits (by decide) n d (hds ▸ List.mem_cons_self)
    have hx : ∀ k ∈ List.range 10, Nat.digitChar k ≠ 'x' := by decide
    rw [hds]
    simp [List.isPrefixOf, Ne.symm (hx k (List.mem_range.2 hk))]
  simp [domainToAscii, hpass]

/-- The last part of dotted decimal is a number. -/
theorem endsInNumber_ipv4Text (a : Nat) : endsInNumber (ipv4Text a) = true := by
  have hlast : (Nat.toDigits 10 (a % 256)).all Char.isDigit = true :=
    List.all_eq_true.2 fun c hc => Nat.isDigit_of_mem_toDigits (by decide) (by decide) hc
  obtain ⟨d, ds, hds⟩ := List.exists_cons_of_ne_nil (Nat.toDigits_ne_nil (n := a % 256) (b := 10))
  rw [hds] at hlast
  simp [endsInNumber, splitAt_ipv4Text, ipv4Parts, hds, hlast]

/-- **Dotted decimal reads as the address** in a special URL. -/
theorem Host.parse_ipv4Text (a : Nat) : Host.parse (ipv4Text a) = .ok (.ipv4 (a % 0x100000000)) := by
  unfold Host.parse
  split
  · rename_i rest heq
    exact absurd heq (ipv4Text_ne_bracket a rest)
  · have hchars : ∀ c ∈ (ipv4Text a).toList, c.toNat < 0x80 ∧ c ≠ '%' :=
      forall_ipv4Text (by decide) (by decide) a
    simp [percentDecode_encode_ascii hchars, domainToAscii_ipv4Text, endsInNumber_ipv4Text,
      parseIpv4_ipv4Text, ipv4Text_isEmpty, Except.map]

theorem isEmpty_toLower (d : String) : d.toLower.isEmpty = d.isEmpty := by
  rw [Bool.eq_iff_iff, String.isEmpty_iff, String.isEmpty_iff]
  constructor
  · intro h
    have hnil := congrArg String.toList h
    rw [toList_toLower, String.toList_empty, List.map_eq_nil_iff] at hnil
    exact String.toList_inj.1 (by rw [hnil, String.toList_empty])
  · rintro rfl
    rw [← String.toList_inj, toList_toLower, String.toList_empty, List.map_nil]

/-- **A domain reads again as itself, lowercased**: its ASCII form is found again, and it still
    ends in no number. -/
theorem Host.parse_domain {x d : String} (hd : domainToAscii x = some d) (hne : d.isEmpty = false)
    (hnum : endsInNumber d = false) : Host.parse d = .ok (.domain d.toLower) := by
  have hchars := mem_domainToAscii hd
  have hascii : ∀ c ∈ d.toList, c.toNat < 0x80 ∧ c ≠ '%' := fun c hc => by
    refine ⟨(hchars c hc).1, fun e => ?_⟩
    have := (hchars c hc).2
    rw [e] at this
    exact absurd this (by rw [Bool.not_eq_false, forbiddenInDomain_iff]; decide)
  unfold Host.parse
  split
  · rename_i rest heq
    exact absurd (hchars '[' (heq ▸ List.mem_cons_self)).2
      (by rw [Bool.not_eq_false, forbiddenInDomain_iff]; decide)
  · simp [percentDecode_encode_ascii hascii, domainToAscii_domainToAscii hd, isEmpty_toLower, hne,
      endsInNumber_toLower, hnum]

/-- **The host of a special URL, written out, reads as a host again.** -/
theorem Host.parse_text {x : String} {h : Host} (hx : Host.parse x = .ok h) :
    ∃ h', Host.parse h.text = .ok h' := by
  unfold Host.parse at hx
  split at hx
  · split_ifs at hx
    obtain ⟨ps, hps, rfl⟩ := except_map_eq_ok hx
    obtain ⟨hlen, hb⟩ := parseIpv6_fits hps
    exact ⟨_, Host.parse_ipv6Text hlen hb⟩
  · dsimp only at hx
    split at hx
    · cases hx
    · rename_i d hd
      split_ifs at hx with hne hnum
      · obtain ⟨a, -, rfl⟩ := except_map_eq_ok hx
        exact ⟨_, Host.parse_ipv4Text a⟩
      · cases hx
        show ∃ h', Host.parse d = .ok h'
        exact ⟨.domain d.toLower, Host.parse_domain hd (by simpa using hne) (by simpa using hnum)⟩

/-- What percent-encoding a text without forbidden characters writes is no forbidden character
    and a host character. -/
theorem plain_chars {x : String} (hf : ∀ c ∈ x.toList, forbiddenInHost c = false) :
    ∀ d ∈ (percentEncode controls x).toList, forbiddenInHost d = false ∧ HostChar d := by
  intro d hd
  obtain ⟨c, hc, hd⟩ := mem_percentEncode_char hd
  rcases mem_encodeChar hd with ⟨rfl, hk⟩ | rfl | hx
  · exact ⟨hf d hc, hostChar_of_plain (hf d hc) hk⟩
  · exact ⟨by rw [Bool.eq_false_iff, ne_eq, forbiddenInHost_iff]; decide, hostChar_percent⟩
  · refine ⟨?_, hostChar_of_upperHex hx⟩
    rw [Bool.eq_false_iff, ne_eq, forbiddenInHost_iff]
    unfold IsUpperHex at hx
    simp only [List.mem_cons, List.not_mem_nil, or_false]
    omega

/-- **The host of any other URL, written out, reads as a host again.** -/
theorem Host.parsePlain_text {x : String} {h : Host} (hx : Host.parsePlain x = .ok h) :
    ∃ h', Host.parsePlain h.text = .ok h' := by
  unfold Host.parsePlain at hx
  split at hx
  · split_ifs at hx
    obtain ⟨ps, hps, rfl⟩ := except_map_eq_ok hx
    obtain ⟨hlen, hb⟩ := parseIpv6_fits hps
    exact ⟨_, Host.parsePlain_ipv6Text hlen hb⟩
  · split_ifs at hx with hf
    cases hx
    have hchars := plain_chars (x := x) (by simpa using hf)
    show ∃ h', Host.parsePlain (percentEncode controls x) = .ok h'
    refine ⟨.domain (percentEncode controls (percentEncode controls x)), ?_⟩
    unfold Host.parsePlain
    split
    · rename_i rest heq
      exact absurd (hchars '[' (heq ▸ List.mem_cons_self)).2 (by decide)
    · rw [if_neg (by simpa using fun d hd => hchars d hd |>.1)]

/-! ## 4. Where a host's text ends -/

/-- The characters of an IPv6 address as written are `:` and digits. -/
theorem mem_pieceText {qs : List Nat} {c : Char} (h : c ∈ pieceText qs) : c = ':' ∨ HostChar c := by
  rcases mem_intercalate h with h | ⟨l, hl, hc⟩
  · exact .inl h
  · obtain ⟨n, -, rfl⟩ := List.mem_map.1 hl
    obtain ⟨k, hk, rfl⟩ := mem_toDigits (by decide) n c hc
    have hall : ∀ k ∈ List.range 16, HostChar (Nat.digitChar k) := by decide
    exact .inr (hall k (List.mem_range.2 hk))

theorem mem_ipv6Text {ps : List Nat} {c : Char} (h : c ∈ (ipv6Text ps).toList) : c = ':' ∨ HostChar c := by
  rw [ipv6Text_toList] at h
  split at h
  · exact mem_pieceText h
  · simp only [List.mem_append, List.mem_cons] at h
    rcases h with h | h | h | h
    · exact mem_pieceText h
    · exact .inl h
    · exact .inl h
    · exact mem_pieceText h

/-- **The text of the host of a special URL**: host characters or a bracketed IPv6 address,
    never empty. -/
theorem Host.parse_hostText {x : String} {h : Host} (hx : Host.parse x = .ok h) :
    HostText h.text.toList ∧ h.text.toList ≠ [] := by
  unfold Host.parse at hx
  split at hx
  · split_ifs at hx
    obtain ⟨ps, -, rfl⟩ := except_map_eq_ok hx
    exact ⟨.inr ⟨(ipv6Text ps).toList, by simp [Host.text], fun c hc => mem_ipv6Text hc⟩,
      by simp [Host.text]⟩
  · dsimp only at hx
    split at hx
    · cases hx
    · rename_i d hd
      split_ifs at hx with hne hnum
      · obtain ⟨a, -, rfl⟩ := except_map_eq_ok hx
        exact ⟨.inl (forall_ipv4Text (by decide) (by decide) a), ipv4Text_toList_ne_nil a⟩
      · cases hx
        refine ⟨.inl fun c hc => hostChar_of_domain (mem_domainToAscii hd c hc).2, fun e => ?_⟩
        have hd0 : d = "" := String.toList_inj.1 (by simpa [Host.text] using e)
        simp [hd0] at hne

/-- **The text of the host of any other URL**: host characters or a bracketed IPv6 address. -/
theorem Host.parsePlain_hostText {x : String} {h : Host} (hx : Host.parsePlain x = .ok h) :
    HostText h.text.toList := by
  unfold Host.parsePlain at hx
  split at hx
  · split_ifs at hx
    obtain ⟨ps, -, rfl⟩ := except_map_eq_ok hx
    exact .inr ⟨(ipv6Text ps).toList, by simp [Host.text], fun c hc => mem_ipv6Text hc⟩
  · split_ifs at hx with hf
    cases hx
    exact .inl fun d hd => (plain_chars (by simpa using hf) d hd).2

/-- Where the text of a host may end: the end of the input, a `:` before a port, or what ends
    an authority. -/
def EndsHost (special : Bool) (rest : List Char) : Prop :=
  ∀ c tl, rest = c :: tl → c = ':' ∨ endsAuthority special c = true

theorem endsAuthority_of_hostChar {c : Char} (h : HostChar c) (special : Bool) :
    endsAuthority special c = false := by
  obtain ⟨h1, h2, -, h4, -, -, h7, -⟩ := h.ne
  simp [endsAuthority, isSlash, h1, h2, h4, h7]

theorem hostSpan_chars (special : Bool) : ∀ {t : List Char}, (∀ c ∈ t, HostChar c) →
    ∀ (b : Bool) (rest : List Char),
      hostSpan special (t ++ rest) b = (t ++ (hostSpan special rest b).1, (hostSpan special rest b).2)
  | [], _, _, _ => rfl
  | c :: t, ht, b, rest => by
    have hc := ht c List.mem_cons_self
    obtain ⟨-, -, h3, -, -, h6, -, h8⟩ := hc.ne
    have ih := hostSpan_chars special (fun d hd => ht d (List.mem_cons_of_mem c hd)) b rest
    simp [hostSpan, endsAuthority_of_hostChar hc, h3, h6, h8, ih]

/-- Inside brackets a `:` ends no host. -/
theorem hostSpan_inner (special : Bool) : ∀ {t : List Char}, (∀ c ∈ t, c = ':' ∨ HostChar c) →
    ∀ rest : List Char, hostSpan special (t ++ rest) true =
      (t ++ (hostSpan special rest true).1, (hostSpan special rest true).2)
  | [], _, _ => rfl
  | c :: t, ht, rest => by
    have ih := hostSpan_inner special (fun d hd => ht d (List.mem_cons_of_mem c hd)) rest
    rcases ht c List.mem_cons_self with rfl | hc
    · simp [hostSpan, endsAuthority, isSlash, ih]
    · obtain ⟨-, -, -, -, -, h6, -, h8⟩ := hc.ne
      simp [hostSpan, endsAuthority_of_hostChar hc, h6, h8, ih]

theorem hostSpan_ends {special : Bool} {rest : List Char} (h : EndsHost special rest) :
    hostSpan special rest false = ([], rest) := by
  cases rest with
  | nil => rfl
  | cons c tl =>
    rcases h c tl rfl with rfl | hc
    · simp [hostSpan]
    · simp [hostSpan, hc]

/-- **A host's text is read as the host**, up to where it ends. -/
theorem hostSpan_hostText {special : Bool} {t rest : List Char} (ht : HostText t)
    (hrest : EndsHost special rest) : hostSpan special (t ++ rest) false = (t, rest) := by
  rcases ht with ht | ⟨inner, rfl, hi⟩
  · rw [hostSpan_chars special ht false rest, hostSpan_ends hrest, List.append_nil]
  · simp [hostSpan, endsAuthority, isSlash, hostSpan_inner special hi, hostSpan_ends hrest]

end SmartHelmet.Url
