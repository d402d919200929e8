import Mathlib
import SmartHelmet.Url.Domain
import SmartHelmet.Proofs.Url.Punycode
/-!
# Domains to ASCII, twice

The ASCII form of a domain, put through the steps again, comes out as itself with its ASCII
letters lowercased (`domainToAscii_domainToAscii`). Every label of an ASCII form is one of three
kinds, and each survives the second pass:

* a label of ASCII characters that was valid as it stood: it has no uppercase letter, maps to
  itself and is kept;
* a label that was written `xn--` and its Punycode: lowercased, its digits read the same
  (`Punycode.decode_map_toLower`), so it decodes to the same valid label;
* a label with characters beyond ASCII, now `xn--` and its Punycode in small letters and digits:
  it decodes back to the label (`Punycode.decode_encode`).

The labels decode to the same Unicode labels as the first time, so they pass the same checks.
Only an `xn--` label can hold an uppercase letter, among its digits, where a mapping table could
have put one. Also here: an ASCII form holds only ASCII characters that no domain may lack
(`mem_domainToAscii`).
-/

namespace SmartHelmet.Url

open SmartHelmet.Unicode

/-! ## 1. Splitting at a separator -/

/-- `splitAt` is the library's `List.splitOn`. -/
theorem splitAt_eq_splitOn {α : Type} [BEq α] (sep : α) :
    ∀ l : List α, splitAt sep l = l.splitOn sep
  | [] => rfl
  | c :: l => by
    rw [splitAt, splitAt_eq_splitOn sep l]
    simp only [List.splitOn]
    rw [List.splitOnP_cons_eq_if_modifyHead]
    split
    · rfl
    · cases h : List.splitOnP (· == sep) l with
      | nil => exact absurd h (List.splitOnP_ne_nil _ _)
      | cons p ps => rfl

/-- A part holds no separator, only what the whole held. -/
theorem mem_splitAt {α : Type} [BEq α] [LawfulBEq α] {sep : α} :
    ∀ {l part : List α}, part ∈ splitAt sep l → sep ∉ part ∧ ∀ y ∈ part, y ∈ l
  | [], part, h => by simp [splitAt] at h; simp [h]
  | c :: l, part, h => by
    rw [splitAt] at h
    split at h
    · rcases List.mem_cons.1 h with rfl | h
      · simp
      · exact ⟨(mem_splitAt h).1, fun y hy => List.mem_cons_of_mem c ((mem_splitAt h).2 y hy)⟩
    · rename_i hc
      split at h
      · rename_i p ps hparts
        rcases List.mem_cons.1 h with rfl | h
        · have hp : sep ∉ p ∧ ∀ y ∈ p, y ∈ l := mem_splitAt (by rw [hparts]; exact List.mem_cons_self)
          refine ⟨fun hm => ?_, fun y hy => ?_⟩
          · rcases List.mem_cons.1 hm with rfl | hm
            · simp at hc
            · exact hp.1 hm
          · rcases List.mem_cons.1 hy with rfl | hy
            · exact List.mem_cons_self
            · exact List.mem_cons_of_mem c (hp.2 y hy)
        · have hq : sep ∉ part ∧ ∀ y ∈ part, y ∈ l :=
            mem_splitAt (by rw [hparts]; exact List.mem_cons_of_mem p h)
          exact ⟨hq.1, fun y hy => List.mem_cons_of_mem c (hq.2 y hy)⟩
      · rename_i hparts
        exact absurd hparts (by rw [splitAt_eq_splitOn]; exact List.splitOnP_ne_nil _ _)

theorem map_intercalate {α β : Type} (f : α → β) (sep : α) :
    ∀ ls : List (List α), (List.intercalate [sep] ls).map f = List.intercalate [f sep] (ls.map (·.map f))
  | [] => rfl
  | [l] => by simp [List.intercalate_singleton]
  | l :: l' :: ls => by
    rw [List.intercalate_cons_cons, List.map_cons, List.map_cons, List.intercalate_cons_cons,
      ← List.map_cons, ← map_intercalate f sep (l' :: ls)]
    simp

theorem mem_intercalate {α : Type} {sep c : α} :
    ∀ {ls : List (List α)}, c ∈ List.intercalate [sep] ls → c = sep ∨ ∃ l ∈ ls, c ∈ l
  | [], h => by simp at h
  | [l], h => .inr ⟨l, List.mem_singleton_self l, by rwa [List.intercalate_singleton] at h⟩
  | l :: l' :: ls, h => by
    rw [List.intercalate_cons_cons] at h
    rcases List.mem_append.1 h with h | h
    · rcases List.mem_append.1 h with h | h
      · exact .inr ⟨l, List.mem_cons_self, h⟩
      · exact .inl (List.mem_singleton.1 h)
    · rcases mem_intercalate h with h | ⟨l'', hl'', h⟩
      · exact .inl h
      · exact .inr ⟨l'', List.mem_cons_of_mem l hl'', h⟩

theorem toList_intercalate_dot (parts : List String) :
    (".".intercalate parts).toList = ['.'].intercalate (parts.map String.toList) := by
  rw [String.toList_intercalate]
  rfl

theorem toLower_intercalate_dot (parts : List String) :
    (".".intercalate parts).toLower = ".".intercalate (parts.map String.toLower) := by
  rw [← String.toList_inj, String.toLower, String.toList_map, toList_intercalate_dot,
    toList_intercalate_dot, map_intercalate, List.map_map, List.map_map]
  congr 1
  exact List.map_congr_left fun s _ => by simp [String.toLower, String.toList_map]

/-! ## 2. Mapping ASCII -/

theorem mapM_eq_some_map {α β : Type} {f : α → Option β} {g : α → β} :
    ∀ {cs : List α}, (∀ c ∈ cs, f c = some (g c)) → cs.mapM f = some (cs.map g)
  | [], _ => rfl
  | c :: cs, h => by
    rw [List.mapM_cons, h c List.mem_cons_self,
      mapM_eq_some_map fun x hx => h x (List.mem_cons_of_mem c hx)]
    rfl

/-- An ASCII character maps to itself lowercased. -/
theorem mapDomain_ascii {cs : List Char} (h : ∀ c ∈ cs, c.toNat < 0x80) :
    mapDomain cs = some (cs.map fun c => c.toLower.toNat) := by
  unfold mapDomain
  rw [mapM_eq_some_map (g := fun c => [c.toLower.toNat]) fun c hc => ?_]
  · simp only [Option.map_some, Option.some.injEq]
    induction cs with
    | nil => rfl
    | cons c cs ih => simp [ih fun x hx => h x (List.mem_cons_of_mem c hx)]
  · have hstatus : idnaStatus c.toNat =
        if 0x41 ≤ c.toNat ∧ c.toNat ≤ 0x5A then .mapped [c.toNat + 0x20] else .valid := by
      simp [idnaStatus, h c hc]
    rw [hstatus, Punycode.toNat_toLower]
    by_cases hup : 0x41 ≤ c.toNat ∧ c.toNat ≤ 0x5A <;> simp [hup]

theorem nfcCodes_ascii {cs : List Nat} (h : ∀ n ∈ cs, n < 0x80) : nfcCodes cs = cs := by
  rw [nfcCodes, if_pos (List.all_eq_true.2 fun n hn => decide_eq_true (h n hn))]

/-! ## 3. Valid labels -/

theorem validLabel_allowed {u : List Nat} (h : validLabel u = true) :
    ∀ x ∈ u, allowedInLabel x = true := by
  simp only [validLabel, Bool.and_eq_true, List.all_eq_true] at h
  exact h.1.2

/-- A valid label has no uppercase ASCII letter: those are mapped. -/
theorem validLabel_not_upper {u : List Nat} (h : validLabel u = true) :
    ∀ x ∈ u, ¬(0x41 ≤ x ∧ x ≤ 0x5A) := fun x hx hup => by
  have := validLabel_allowed h x hx
  simp [allowedInLabel, idnaStatus, show x < 0x80 by omega, hup.1, hup.2] at this

/-- A valid label's code points are characters. -/
theorem validLabel_isValidChar {u : List Nat} (h : validLabel u = true) :
    ∀ x ∈ u, x.isValidChar := fun x hx => by
  have := validLabel_allowed h x hx
  simp only [allowedInLabel, idnaStatus] at this
  unfold Nat.isValidChar
  by_contra hn
  rw [if_neg (by omega), if_pos (by simp; omega)] at this
  simp at this

/-! ## 4. One label, twice -/

/-- The code points the second pass reads a text as: its characters, ASCII lowercased. -/
def lowerCodes (s : String) : List Nat := s.toList.map fun c => c.toLower.toNat

theorem toNat_ofNat_of_valid {n : Nat} (h : n.isValidChar) : (Char.ofNat n).toNat = n := by
  rw [Char.toNat_ofNat, if_pos h]

theorem isValidChar_of_ascii {n : Nat} (h : n < 0x80) : n.isValidChar := Or.inl (by omega)

theorem toLower_of_not_upper {c : Char} (h : ¬(0x41 ≤ c.toNat ∧ c.toNat ≤ 0x5A)) :
    c.toLower = c :=
  Char.toLower_eq_of_not_isUpper (mt (Punycode.isUpper_iff c).1 h)

/-- A text of ASCII characters none of which is an uppercase letter is read as its code
    points, and is its own lowercase. -/
theorem lowerCodes_of_lower {s : String}
    (h : ∀ c ∈ s.toList, ¬(0x41 ≤ c.toNat ∧ c.toNat ≤ 0x5A)) :
    lowerCodes s = s.toList.map Char.toNat ∧ s.toLower = s := by
  have hc : ∀ c ∈ s.toList, c.toLower = c := fun c hc => toLower_of_not_upper (h c hc)
  refine ⟨List.map_congr_left fun c hc' => by rw [hc c hc'], ?_⟩
  rw [← String.toList_inj, String.toLower, String.toList_map]
  exact (List.map_congr_left hc).trans (List.map_id _)

/-- The code points no domain may hold. -/
theorem forbiddenInDomain_iff (n : Nat) :
    forbiddenInDomain n = true ↔
      n < 0x21 ∨ n = 0x7F ∨ n ∈ [35, 37, 47, 58, 60, 62, 63, 64, 91, 92, 93, 94, 124] := by
  have hcodes : "#%/:<>?@[\\]^|".toList.map Char.toNat =
      [35, 37, 47, 58, 60, 62, 63, 64, 91, 92, 93, 94, 124] := by decide
  have hany : ("#%/:<>?@[\\]^|".any fun c => c.toNat == n) =
      [35, 37, 47, 58, 60, 62, 63, 64, 91, 92, 93, 94, 124].any (· == n) := by
    rw [← hcodes, List.any_map]
    exact String.contains_bool_eq
  rw [forbiddenInDomain, hany]
  simp only [Bool.or_eq_true, decide_eq_true_eq, beq_iff_eq, List.any_eq_true, exists_eq_right,
    or_assoc]

theorem digitChar_not_upper {d : Nat} (h : d < 36) :
    ¬(0x41 ≤ (Punycode.digitChar d).toNat ∧ (Punycode.digitChar d).toNat ≤ 0x5A) := by
  have hall : ∀ e ∈ List.range 36,
      ¬(0x41 ≤ (Punycode.digitChar e).toNat ∧ (Punycode.digitChar e).toNat ≤ 0x5A) := by decide
  exact hall d (List.mem_range.2 h)

theorem digitChar_ascii {d : Nat} (h : d < 36) :
    (Punycode.digitChar d).toNat < 0x80 ∧ forbiddenInDomain (Punycode.digitChar d).toNat = false ∧
      Punycode.digitChar d ≠ '.' := by
  have hall : ∀ e ∈ List.range 36, (Punycode.digitChar e).toNat < 0x80 ∧
      forbiddenInDomain (Punycode.digitChar e).toNat = false ∧ Punycode.digitChar e ≠ '.' := by
    simp only [Bool.eq_false_iff, ne_eq, forbiddenInDomain_iff]
    decide
  exact hall d (List.mem_range.2 h)

/-- What `labelToUnicode` accepts: an `xn--` label of ASCII that decodes to a label not all
    ASCII, or any other label, as it is. -/
theorem labelToUnicode_some {l u : List Nat} (h : labelToUnicode l = some u) :
    (acePrefix.isPrefixOf l = true ∧ (∀ n ∈ l, n < 0x80) ∧
      Punycode.decode ((l.drop 4).map Char.ofNat) = some u ∧ u ≠ [] ∧ ¬u.all (· < 0x80)) ∨
    (acePrefix.isPrefixOf l = false ∧ u = l) := by
  unfold labelToUnicode at h
  split at h
  · rename_i hace
    split at h
    · simp at h
    · rename_i hascii
      simp only [Option.bind_eq_bind, Option.bind_eq_some_iff] at h
      obtain ⟨decoded, hd, hu⟩ := h
      split at hu
      · simp at hu
      · rename_i hok
        obtain rfl := Option.some.inj hu
        refine .inl ⟨hace, fun n hn => ?_, hd, fun he => ?_, fun ha => ?_⟩
        · by_contra hge
          exact hascii (List.any_eq_true.2 ⟨n, hn, by simpa using hge⟩)
        · simp [he] at hok
        · simp [ha] at hok
  · rename_i hace
    exact .inr ⟨Bool.eq_false_iff.2 hace, (Option.some.inj h).symm⟩

/-- The prefix `xn--` has no uppercase letter. -/
theorem acePrefix_isPrefixOf_map {l : List Nat} (h : acePrefix.isPrefixOf l = true)
    {f : Nat → Nat} (hf : ∀ n ∈ acePrefix, f n = n) : acePrefix.isPrefixOf (l.map f) = true := by
  rw [List.isPrefixOf_iff_prefix] at h ⊢
  obtain ⟨rest, rfl⟩ := h
  rw [List.map_append, (List.map_congr_left hf).trans (List.map_id _)]
  exact List.prefix_append _ _

/-- The characters of a label's code points stand for them. -/
theorem map_toNat_ofNat {l : List Nat} (h : ∀ n ∈ l, n.isValidChar) :
    (l.map Char.ofNat).map Char.toNat = l := by
  rw [List.map_map]
  exact (List.map_congr_left fun n hn => toNat_ofNat_of_valid (h n hn)).trans (List.map_id _)

/-- **A label's ASCII form, twice**: it holds ASCII characters that no domain may lack and no
    `.`; read a second time it decodes to the same Unicode label, and written a second time it
    is itself lowercased. -/
theorem labelToAscii_twice {l u : List Nat} (hl : labelToUnicode l = some u)
    (hv : validLabel u = true) (hf : ∀ n ∈ l, forbiddenInDomain n = false ∧ n ≠ 0x2E) :
    (∀ c ∈ (labelToAscii l u).toList,
      c.toNat < 0x80 ∧ forbiddenInDomain c.toNat = false ∧ c ≠ '.') ∧
    labelToUnicode (lowerCodes (labelToAscii l u)) = some u ∧
    labelToAscii (lowerCodes (labelToAscii l u)) u = (labelToAscii l u).toLower := by
  have hupper := validLabel_not_upper hv
  -- the characters of a label taken as it is
  have hchars : (∀ n ∈ l, n < 0x80) → ∀ c ∈ l.map Char.ofNat,
      c.toNat < 0x80 ∧ forbiddenInDomain c.toNat = false ∧ c ≠ '.' := fun hascii c hc => by
    obtain ⟨n, hn, rfl⟩ := List.mem_map.1 hc
    rw [toNat_ofNat_of_valid (isValidChar_of_ascii (hascii n hn))]
    refine ⟨hascii n hn, (hf n hn).1, fun hdot => (hf n hn).2 ?_⟩
    have := congrArg Char.toNat hdot
    rwa [toNat_ofNat_of_valid (isValidChar_of_ascii (hascii n hn))] at this
  rcases labelToUnicode_some hl with ⟨hace, hascii, hd, hne, hna⟩ | ⟨hace, rfl⟩
  · -- an `xn--` label: kept as written, its digits lowercased
    have hA : labelToAscii l u = String.ofList (l.map Char.ofNat) := by
      simp [labelToAscii, hace]
    have hlow : ∀ n ∈ l, (Char.ofNat ((Char.ofNat n).toLower.toNat)) = (Char.ofNat n).toLower :=
      fun n _ => Char.ofNat_toNat _
    have hcodes : lowerCodes (labelToAscii l u) = l.map fun n => (Char.ofNat n).toLower.toNat := by
      rw [hA, lowerCodes, String.toList_ofList, List.map_map]; rfl
    refine ⟨by rw [hA, String.toList_ofList]; exact hchars hascii, ?_, ?_⟩
    · have hace' : acePrefix.isPrefixOf (l.map fun n => (Char.ofNat n).toLower.toNat) = true :=
        acePrefix_isPrefixOf_map hace (by decide)
      have hascii' : (l.map fun n => (Char.ofNat n).toLower.toNat).any (· ≥ 0x80) = false := by
        simp only [List.any_map, List.any_eq_false, Function.comp, decide_eq_true_eq, not_le]
        intro n hn
        rw [Punycode.toNat_toLower, toNat_ofNat_of_valid (isValidChar_of_ascii (hascii n hn))]
        have := hascii n hn
        split <;> omega
      have hdigits : ((l.map fun n => (Char.ofNat n).toLower.toNat).drop 4).map Char.ofNat =
          ((l.drop 4).map Char.ofNat).map Char.toLower := by
        simp only [← List.map_drop, List.map_map]
        exact List.map_congr_left fun n hn => hlow n (List.mem_of_mem_drop hn)
      rw [hcodes, labelToUnicode, if_pos hace', if_neg (by simp [hascii']), hdigits,
        Punycode.decode_map_toLower hd hupper]
      simp only [Option.bind_eq_bind, Option.bind_some]
      rw [if_neg (by simpa [hne] using hna)]
    · have hace' : acePrefix.isPrefixOf (l.map fun n => (Char.ofNat n).toLower.toNat) = true :=
        acePrefix_isPrefixOf_map hace (by decide)
      rw [hcodes, labelToAscii, if_pos (by simp [hace']), hA]
      rw [← String.toList_inj, String.toLower, String.toList_map, String.toList_ofList,
        String.toList_ofList, List.map_map, List.map_map]
      exact List.map_congr_left hlow
  · -- a label that is not `xn--` is its own Unicode form: `u` stands for it from here
    by_cases hall : u.all (· < 0x80)
    · -- an ASCII label: kept as it is, already in small letters
      have hascii : ∀ n ∈ u, n < 0x80 := by simpa using hall
      have hA : labelToAscii u u = String.ofList (u.map Char.ofNat) := by
        simp [labelToAscii, hall]
      have hnot : ∀ c ∈ (labelToAscii u u).toList, ¬(0x41 ≤ c.toNat ∧ c.toNat ≤ 0x5A) := by
        rw [hA, String.toList_ofList]
        intro c hc
        obtain ⟨n, hn, rfl⟩ := List.mem_map.1 hc
        rw [toNat_ofNat_of_valid (isValidChar_of_ascii (hascii n hn))]
        exact hupper n hn
      obtain ⟨hcodes, hlower⟩ := lowerCodes_of_lower hnot
      have hback : (labelToAscii u u).toList.map Char.toNat = u := by
        rw [hA, String.toList_ofList, map_toNat_ofNat fun n hn => isValidChar_of_ascii (hascii n hn)]
      refine ⟨by rw [hA, String.toList_ofList]; exact hchars hascii, ?_, ?_⟩
      · rw [hcodes, hback]
        exact hl
      · rw [hlower, hcodes, hback]
    · -- a label beyond ASCII: now `xn--` and its Punycode
      have hvalid := validLabel_isValidChar hv
      have hA : labelToAscii u u = "xn--" ++ Punycode.encode (u.map Char.ofNat) := by
        simp only [labelToAscii, hace, Bool.false_or, hall, if_false, Bool.false_eq_true]
      have hmem : ∀ c ∈ (labelToAscii u u).toList,
          (c.toNat < 0x80 ∧ forbiddenInDomain c.toNat = false ∧ c ≠ '.') ∧
            ¬(0x41 ≤ c.toNat ∧ c.toNat ≤ 0x5A) := by
        rw [hA, String.toList_append]
        intro c hc
        rcases List.mem_append.1 hc with hc | hc
        · have hpre : ∀ c ∈ "xn--".toList, (c.toNat < 0x80 ∧ forbiddenInDomain c.toNat = false ∧
              c ≠ '.') ∧ ¬(0x41 ≤ c.toNat ∧ c.toNat ≤ 0x5A) := by
            simp [Bool.eq_false_iff, forbiddenInDomain_iff]
          exact hpre c hc
        · rcases Punycode.mem_encode hc with ⟨hcl, hca⟩ | rfl | ⟨d, hd, rfl⟩
          · obtain ⟨n, hn, rfl⟩ := List.mem_map.1 hcl
            rw [toNat_ofNat_of_valid (hvalid n hn)] at hca ⊢
            refine ⟨⟨hca, (hf n hn).1, fun hdot => (hf n hn).2 ?_⟩, hupper n hn⟩
            have := congrArg Char.toNat hdot
            rwa [toNat_ofNat_of_valid (hvalid n hn)] at this
          · simp [Bool.eq_false_iff, forbiddenInDomain_iff]
          · exact ⟨digitChar_ascii hd, digitChar_not_upper hd⟩
      obtain ⟨hcodes, hlower⟩ := lowerCodes_of_lower fun c hc => (hmem c hc).2
      have hcodesA : (labelToAscii u u).toList.map Char.toNat =
          acePrefix ++ (Punycode.encode (u.map Char.ofNat)).toList.map Char.toNat := by
        rw [hA, String.toList_append, List.map_append]
        rfl
      have hace' : acePrefix.isPrefixOf ((labelToAscii u u).toList.map Char.toNat) = true := by
        rw [hcodesA, List.isPrefixOf_iff_prefix]
        exact List.prefix_append _ _
      refine ⟨fun c hc => (hmem c hc).1, ?_, ?_⟩
      · have hascii' : ((labelToAscii u u).toList.map Char.toNat).any (· ≥ 0x80) = false := by
          simp only [List.any_map, List.any_eq_false, Function.comp, decide_eq_true_eq, not_le]
          exact fun c hc => (hmem c hc).1.1
        have hdrop : (((labelToAscii u u).toList.map Char.toNat).drop 4).map Char.ofNat =
            (Punycode.encode (u.map Char.ofNat)).toList := by
          rw [hcodesA, List.drop_left' (by decide), List.map_map]
          exact (List.map_congr_left fun c _ => Char.ofNat_toNat c).trans (List.map_id _)
        have hne : u ≠ [] := by rintro rfl; simp at hall
        rw [hcodes, labelToUnicode, if_pos hace', if_neg (by simp [hascii']), hdrop,
          Punycode.decode_encode, map_toNat_ofNat hvalid]
        simp only [Option.bind_eq_bind, Option.bind_some]
        rw [if_neg (by simpa [hne] using hall)]
      · rw [hlower, hcodes, labelToAscii, if_pos (by simp [hace']), List.map_map]
        rw [← String.toList_inj, String.toList_ofList]
        exact (List.map_congr_left fun c _ => Char.ofNat_toNat c).trans (List.map_id _)

/-! ## 5. Domains, twice -/

theorem mapM_forall₂ {α β : Type} {f : α → Option β} :
    ∀ {l : List α} {u : List β}, l.mapM f = some u → List.Forall₂ (fun a b => f a = some b) l u
  | [], u, h => by simp at h; subst h; exact .nil
  | a :: l, u, h => by
    rw [List.mapM_cons] at h
    simp only [Option.bind_eq_bind, Option.bind_eq_some_iff] at h
    obtain ⟨b, hb, bs, hbs, hu⟩ := h
    obtain rfl := Option.some.inj hu
    exact .cons hb (mapM_forall₂ hbs)

/-- A domain that passes through holds small letters, digits, `-` and `.`. -/
theorem passesThrough_chars {cs : List Char} (h : passesThrough cs = true) :
    ∀ c ∈ cs, (0x61 ≤ c.toNat ∧ c.toNat ≤ 0x7A) ∨ (0x30 ≤ c.toNat ∧ c.toNat ≤ 0x39) ∨
      c.toNat = 0x2D ∨ c.toNat = 0x2E := fun c hc => by
  simp only [passesThrough, Bool.and_eq_true, List.all_eq_true] at h
  have := h.1 c hc
  simp only [Bool.or_eq_true, Bool.and_eq_true, decide_eq_true_eq, beq_iff_eq, Char.le_def,
    UInt32.le_iff_toNat_le] at this
  rcases this with ((h1 | h1) | h1) | h1
  · simp at h1; omega
  · simp at h1; omega
  · subst h1; simp
  · subst h1; simp

theorem passesThrough_not_upper {cs : List Char} (h : passesThrough cs = true) :
    ∀ c ∈ cs, ¬(0x41 ≤ c.toNat ∧ c.toNat ≤ 0x5A) := fun c hc => by
  have := passesThrough_chars h c hc
  omega

/-- What a domain passes through becomes its ASCII form. -/
theorem domainToAscii_some {x d : String} (h : domainToAscii x = some d) :
    (passesThrough x.toList = true ∧ d = x) ∨
    ∃ labels unicode, labels ≠ [] ∧
      (∀ l ∈ labels, ∀ n ∈ l, forbiddenInDomain n = false ∧ n ≠ 0x2E) ∧
      List.Forall₂ (fun l u => labelToUnicode l = some u) labels unicode ∧
      unicode.all validLabel = true ∧
      (unicode.any isRightToLeft && !unicode.all keepsBidiRule) = false ∧
      d = ".".intercalate (List.zipWith labelToAscii labels unicode) := by
  unfold domainToAscii at h
  split at h
  · exact .inl ⟨by assumption, (Option.some.inj h).symm⟩
  · simp only [Option.bind_eq_bind, Option.bind_eq_some_iff] at h
    obtain ⟨mapped, -, h⟩ := h
    split at h
    · simp at h
    · rename_i hforbidden
      simp only [Option.bind_eq_some_iff] at h
      obtain ⟨unicode, hu, h⟩ := h
      split at h
      · simp at h
      · rename_i hvalid
        split at h
        · simp at h
        · rename_i hbidi
          refine .inr ⟨_, unicode, by rw [splitAt_eq_splitOn]; exact List.splitOnP_ne_nil _ _,
            fun l hl n hn => ?_, mapM_forall₂ hu, by simpa using hvalid, by simpa using hbidi,
            (Option.some.inj h).symm⟩
          obtain ⟨hdot, hmem⟩ := mem_splitAt hl
          refine ⟨?_, fun he => hdot (by rw [he] at hn; exact hn)⟩
          simp only [List.any_eq_true, not_exists, not_and, Bool.not_eq_true] at hforbidden
          exact hforbidden n (hmem n hn)

/-- The labels of an ASCII form, twice: each holds ASCII characters a domain may hold, reads
    back to its Unicode label and is written again lowercased. -/
theorem labels_twice : ∀ {labels unicode : List (List Nat)},
    List.Forall₂ (fun l u => labelToUnicode l = some u) labels unicode →
    (∀ u ∈ unicode, validLabel u = true) →
    (∀ l ∈ labels, ∀ n ∈ l, forbiddenInDomain n = false ∧ n ≠ 0x2E) →
    (∀ A ∈ List.zipWith labelToAscii labels unicode, ∀ c ∈ A.toList,
      c.toNat < 0x80 ∧ forbiddenInDomain c.toNat = false ∧ c ≠ '.') ∧
    ((List.zipWith labelToAscii labels unicode).map lowerCodes).mapM labelToUnicode =
      some unicode ∧
    List.zipWith labelToAscii ((List.zipWith labelToAscii labels unicode).map lowerCodes) unicode =
      (List.zipWith labelToAscii labels unicode).map String.toLower
  | [], [], .nil, _, _ => by simp
  | l :: ls, u :: us, .cons hl hrest, hv, hf => by
    obtain ⟨h1, h2, h3⟩ :=
      labelToAscii_twice hl (hv u List.mem_cons_self) (hf l List.mem_cons_self)
    obtain ⟨ih1, ih2, ih3⟩ := labels_twice hrest (fun u hu => hv u (List.mem_cons_of_mem _ hu))
      (fun l hl => hf l (List.mem_cons_of_mem _ hl))
    refine ⟨?_, ?_, ?_⟩
    · simp only [List.zipWith_cons_cons, List.mem_cons]
      rintro A (rfl | hA)
      exacts [h1, ih1 A hA]
    · rw [List.zipWith_cons_cons, List.map_cons, List.mapM_cons, h2, ih2]
      rfl
    · rw [List.zipWith_cons_cons, List.map_cons, List.zipWith_cons_cons, h3, ih3, List.map_cons]

theorem forbiddenInDomain_toLower {c : Char} (h : forbiddenInDomain c.toNat = false) :
    forbiddenInDomain c.toLower.toNat = false := by
  rw [Punycode.toNat_toLower]
  split
  · rename_i hup
    rw [Bool.eq_false_iff, ne_eq, forbiddenInDomain_iff]
    simp only [List.mem_cons, List.not_mem_nil, or_false]
    omega
  · exact h

theorem toLower_ne_dot {c : Char} (h : c ≠ '.') : c.toLower.toNat ≠ 0x2E := by
  rw [Punycode.toNat_toLower]
  split
  · omega
  · intro he
    exact h (Char.toNat_inj.1 (by rw [he]; rfl))

/-- Labels joined by `.` hold what the labels hold, and `.`. -/
theorem mem_intercalate_dot {As : List String}
    (h : ∀ A ∈ As, ∀ c ∈ A.toList, c.toNat < 0x80 ∧ forbiddenInDomain c.toNat = false ∧ c ≠ '.') :
    ∀ c ∈ (".".intercalate As).toList, c.toNat < 0x80 ∧ forbiddenInDomain c.toNat = false := by
  intro c hc
  rw [toList_intercalate_dot] at hc
  rcases mem_intercalate hc with rfl | ⟨l, hl, hc⟩
  · refine ⟨by decide, ?_⟩
    rw [Bool.eq_false_iff, ne_eq, forbiddenInDomain_iff]
    decide
  · obtain ⟨A, hA, rfl⟩ := List.mem_map.1 hl
    exact ⟨(h A hA c hc).1, (h A hA c hc).2.1⟩

/-- **An ASCII form holds ASCII characters that no domain may lack.** -/
theorem mem_domainToAscii {x d : String} (h : domainToAscii x = some d) :
    ∀ c ∈ d.toList, c.toNat < 0x80 ∧ forbiddenInDomain c.toNat = false := by
  rcases domainToAscii_some h with ⟨hpass, rfl⟩ |
    ⟨labels, unicode, -, hf, h2, hvalid, -, rfl⟩
  · intro c hc
    have := passesThrough_chars hpass c hc
    refine ⟨by omega, ?_⟩
    rw [Bool.eq_false_iff, ne_eq, forbiddenInDomain_iff]
    simp only [List.mem_cons, List.not_mem_nil, or_false]
    omega
  · exact mem_intercalate_dot (labels_twice h2 (by simpa using hvalid) hf).1

/-- **A domain's ASCII form, turned to ASCII again, is itself lowercased.** -/
theorem domainToAscii_domainToAscii {x d : String} (h : domainToAscii x = some d) :
    domainToAscii d = some d.toLower := by
  rcases domainToAscii_some h with ⟨hpass, rfl⟩ |
    ⟨labels, unicode, hne, hf, h2, hvalid, hbidi, rfl⟩
  · rw [(lowerCodes_of_lower (passesThrough_not_upper hpass)).2, domainToAscii, if_pos hpass]
  · obtain ⟨hchars, hread, hwrite⟩ := labels_twice h2 (by simpa using hvalid) hf
    generalize hAs : List.zipWith labelToAscii labels unicode = As at hchars hread hwrite
    have hAs_ne : As ≠ [] := by
      rw [← hAs]
      obtain ⟨l, ls, rfl⟩ := List.exists_cons_of_ne_nil hne
      cases h2 with
      | cons _ _ => simp
    -- the text is the labels joined by `.`
    have htext := toList_intercalate_dot As
    have hdchars := mem_intercalate_dot hchars
    by_cases hp : passesThrough (".".intercalate As).toList = true
    · rw [(lowerCodes_of_lower (passesThrough_not_upper hp)).2, domainToAscii, if_pos hp]
    · have hmap : mapDomain (".".intercalate As).toList = some (lowerCodes (".".intercalate As)) :=
        mapDomain_ascii fun c hc => (hdchars c hc).1
      have hcodes : lowerCodes (".".intercalate As) = [0x2E].intercalate (As.map lowerCodes) := by
        rw [lowerCodes, htext, map_intercalate, List.map_map]
        rfl
      have hnfc : nfcCodes (lowerCodes (".".intercalate As)) = lowerCodes (".".intercalate As) :=
        nfcCodes_ascii fun n hn => by
          obtain ⟨c, hc, rfl⟩ := List.mem_map.1 hn
          rw [Punycode.toNat_toLower]
          have := (hdchars c hc).1
          split <;> omega
      have hforbidden : (lowerCodes (".".intercalate As)).any forbiddenInDomain = false := by
        simp only [lowerCodes, List.any_map, List.any_eq_false, Function.comp, Bool.not_eq_true]
        exact fun c hc => forbiddenInDomain_toLower (hdchars c hc).2
      have hsplit : splitAt '.'.toNat (lowerCodes (".".intercalate As)) = As.map lowerCodes := by
        rw [hcodes, splitAt_eq_splitOn]
        refine List.splitOn_intercalate _ (fun l hl hdot => ?_) (by simpa using hAs_ne)
        obtain ⟨A, hA, rfl⟩ := List.mem_map.1 hl
        obtain ⟨c, hc, he⟩ := List.mem_map.1 hdot
        exact toLower_ne_dot (hchars A hA c hc).2.2 he
      unfold domainToAscii
      rw [if_neg hp, hmap]
      simp only [Option.bind_eq_bind, Option.bind_some, hnfc, hforbidden, hsplit, hread, hvalid,
        hbidi, hwrite, Bool.not_true, Bool.false_eq_true, if_false, toLower_intercalate_dot]
      rfl

end SmartHelmet.Url
