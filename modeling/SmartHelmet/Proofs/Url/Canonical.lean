import Mathlib
import SmartHelmet.Proofs.Url.Hosts
import SmartHelmet.Proofs.Url.Paths
/-!
# What parsing leaves in a URL

Every part of a URL that parsing gives is written as the parser writes it: the scheme in
lowercase, credentials, query and fragment percent-encoded by their sets, a port that fits in
sixteen bits, a host that its own reading gave, and a path that a reading left.
`Url.Canonical` collects these facts; they are what writing the URL out and reading it again
rests on.

* `splitScheme_schemeForm` — a scheme as read is an ASCII letter, then scheme characters, in
  lowercase; `splitScheme_text` reads such a scheme back;
* `parsePort_le` and `parsePort_toDigits` — a port read fits in sixteen bits, and its digits read
  back;
* `parse_canonical` — **every URL that parsing gives, and that can be a base, is canonical**.
-/

namespace SmartHelmet.Url

/-! ## 1. Schemes -/

theorem isSchemeChar_iff (c : Char) : isSchemeChar c = true ↔ c.toNat < 0x80 ∧
    ((0x41 ≤ c.toNat ∧ c.toNat ≤ 0x5A) ∨ (0x61 ≤ c.toNat ∧ c.toNat ≤ 0x7A) ∨
      (0x30 ≤ c.toNat ∧ c.toNat ≤ 0x39) ∨ c.toNat = 0x2B ∨ c.toNat = 0x2D ∨ c.toNat = 0x2E) := by
  simp only [isSchemeChar, Char.isAlphanum, Char.isAlpha, Char.isUpper, Char.isLower, Char.isDigit,
    Bool.and_eq_true, Bool.or_eq_true, decide_eq_true_eq, beq_iff_eq, ge_iff_le,
    UInt32.le_iff_toNat_le, ← Char.toNat_inj, Char.toNat_val, Char.reduceToNat, Char.reduceVal,
    UInt32.reduceToNat]
  omega

theorem isAsciiAlpha_iff (c : Char) : isAsciiAlpha c = true ↔
    (0x41 ≤ c.toNat ∧ c.toNat ≤ 0x5A) ∨ (0x61 ≤ c.toNat ∧ c.toNat ≤ 0x7A) := by
  simp only [isAsciiAlpha, Char.isAlpha, Char.isUpper, Char.isLower, Bool.and_eq_true,
    Bool.or_eq_true, decide_eq_true_eq, ge_iff_le, UInt32.le_iff_toNat_le, Char.toNat_val,
    Char.reduceVal, UInt32.reduceToNat]
  omega

theorem toLower_toLower (c : Char) : c.toLower.toLower = c.toLower := by
  rw [← Char.toNat_inj, Punycode.toNat_toLower, Punycode.toNat_toLower]
  split_ifs <;> omega

/-- A scheme as parsing leaves it: an ASCII letter, then scheme characters, in lowercase. -/
structure SchemeForm (s : List Char) : Prop where
  head : ∃ c cs, s = c :: cs ∧ isAsciiAlpha c = true
  chars : ∀ c ∈ s, isSchemeChar c = true ∧ c.toLower = c

/-- **A scheme as read is in form.** -/
theorem splitScheme_schemeForm {cs rest : List Char} {scheme : String}
    (h : splitScheme cs = some (scheme, rest)) : SchemeForm scheme.toList := by
  unfold splitScheme at h
  split at h
  · rename_i c tl
    split_ifs at h with hc
    split at h
    · rename_i rest' _
      simp only [Option.some.injEq, Prod.mk.injEq] at h
      obtain ⟨rfl, -⟩ := h
      rw [String.toList_ofList]
      have hhead : isAsciiAlpha c = true := hc
      refine ⟨⟨c.toLower, ((c :: tl).takeWhile isSchemeChar).tail.map Char.toLower, ?_, ?_⟩, ?_⟩
      · have hsc : isSchemeChar c = true := by
          rw [isSchemeChar_iff]
          rw [isAsciiAlpha_iff] at hhead
          omega
        simp [hsc]
      · rw [isAsciiAlpha_iff] at hhead ⊢
        rw [Punycode.toNat_toLower]
        split_ifs <;> omega
      · intro d hd
        obtain ⟨e, he, rfl⟩ := List.mem_map.1 hd
        have hs := List.mem_takeWhile_imp he
        refine ⟨?_, toLower_toLower e⟩
        rw [isSchemeChar_iff] at hs ⊢
        rw [Punycode.toNat_toLower]
        split_ifs <;> omega
    · cases h
  · cases h

/-- **A scheme in form reads back as itself**, up to its colon. -/
theorem splitScheme_text {s : List Char} (hs : SchemeForm s) (rest : List Char) :
    splitScheme (s ++ ':' :: rest) = some (String.ofList s, rest) := by
  obtain ⟨c, cs, rfl, hc⟩ := hs.head
  have hcolon : isSchemeChar ':' = false := by decide
  have hall : ∀ d ∈ c :: cs, isSchemeChar d = true := fun d hd => (hs.chars d hd).1
  have hdrop : (c :: cs ++ ':' :: rest).dropWhile isSchemeChar = ':' :: rest := by
    rw [List.dropWhile_append_of_pos hall, List.dropWhile_cons_of_neg (by simp [hcolon])]
  have htake : (c :: cs ++ ':' :: rest).takeWhile isSchemeChar = c :: cs := by
    rw [List.takeWhile_append_of_pos hall, List.takeWhile_cons_of_neg (by simp [hcolon]),
      List.append_nil]
  have hlower : (c :: cs).map Char.toLower = c :: cs :=
    (List.map_congr_left fun d hd => (hs.chars d hd).2).trans (List.map_id _)
  unfold splitScheme
  simp only [List.cons_append] at hdrop htake ⊢
  have hc' : (c.toNat < 0x80 && c.isAlpha) = true := hc
  rw [if_pos hc', hdrop]
  simp only [htake, hlower]

/-- A scheme of lowercase ASCII letters is in form. -/
theorem schemeForm_of_lower {c : Char} {cs : List Char}
    (h : ∀ d ∈ c :: cs, 0x61 ≤ d.toNat ∧ d.toNat ≤ 0x7A) : SchemeForm (c :: cs) := by
  refine ⟨⟨c, cs, rfl, (isAsciiAlpha_iff c).2 (.inr (h c List.mem_cons_self))⟩, fun d hd => ?_⟩
  have hd := h d hd
  exact ⟨(isSchemeChar_iff d).2 ⟨by omega, .inr (.inl hd)⟩, toLower_of_not_upper (by omega)⟩

/-! ## 2. Ports -/

section Ports

variable (default : Option Nat)

/-- **A port as read fits in sixteen bits.** -/
theorem parsePort_le : ∀ (cs : List Char) (port : Nat) (seen : Bool) {p : Nat} {rest : List Char},
    port ≤ 65535 → parsePort default cs port seen = .ok (some p, rest) → p ≤ 65535
  | c :: cs, port, seen, p, rest, hport, h => by
    rw [parsePort] at h
    dsimp only at h
    by_cases hd : c.isDigit = true
    · rw [if_pos hd] at h
      split_ifs at h with hbig
      exact parsePort_le cs _ true (by omega) h
    · rw [if_neg hd] at h
      split_ifs at h with hstop hn
      · cases h
      · simp only [Except.ok.injEq, Prod.mk.injEq, Option.some.injEq] at h
        omega
  | [], port, seen, p, rest, hport, h => by
    rw [parsePort] at h
    split_ifs at h with hn
    · cases h
    · simp only [Except.ok.injEq, Prod.mk.injEq, Option.some.injEq] at h
      omega

theorem digitChar_digit {m : Nat} (hm : m < 10) :
    (Nat.digitChar m).isDigit = true ∧ (Nat.digitChar m).toNat - 48 = m := by
  have hall : ∀ m ∈ List.range 10,
      (Nat.digitChar m).isDigit = true ∧ (Nat.digitChar m).toNat - 48 = m := by decide
  exact hall m (List.mem_range.2 hm)

/-- **The digits of a port read back as the port.** -/
theorem parsePort_toDigits (n : Nat) : n ≤ 65535 → ∀ rest : List Char,
    parsePort default (Nat.toDigits 10 n ++ rest) 0 false = parsePort default rest n true := by
  induction n using Nat.base_induction 10 (by decide) with
  | single m hm =>
    intro _ rest
    obtain ⟨hd, hv⟩ := digitChar_digit hm
    rw [Nat.toDigits_of_lt_base hm, List.singleton_append, parsePort]
    simp [hd, hv, show ¬65535 < m by omega]
  | digit m k hk hm ih =>
    intro hn rest
    obtain ⟨hd, hv⟩ := digitChar_digit hk
    rw [← Nat.toDigits_append_toDigits (by decide) hm hk, List.append_assoc, ih (by omega),
      Nat.toDigits_of_lt_base hk, List.singleton_append, parsePort]
    simp [hd, hv, show ¬65535 < m * 10 + k by omega, Nat.mul_comm]

/-- Reading a port stops at a slash, `?`, `#` or the end. -/
theorem parsePort_stop {rest : List Char}
    (h : ∀ c tl, rest = c :: tl → (c == '/' || c == '\\' || c == '?' || c == '#') = true) (n : Nat) :
    ∃ port, parsePort default rest n true = .ok (port, rest) := by
  cases rest with
  | nil => exact ⟨_, rfl⟩
  | cons c tl =>
    have hc := h c tl rfl
    have hdigit : c.isDigit = false := by
      simp only [Bool.or_eq_true, beq_iff_eq] at hc
      rcases hc with ((rfl | rfl) | rfl) | rfl <;> decide
    exact ⟨_, by rw [parsePort, if_neg (by simp [hdigit]), if_pos hc]⟩

end Ports

/-! ## 3. Canonical URLs -/

/-- The host of a URL as the reading of its kind gives it: a file URL's host, maybe empty; a
    special URL's host; any other URL's host, or none. -/
def HostFits : PathKind → Option Host → Prop
  | .file, some h => h = .domain "" ∨ ∃ x, Host.parse x = .ok h
  | .special, some h => ∃ x, Host.parse x = .ok h
  | .plain, some h => ∃ x, Host.parsePlain x = .ok h
  | .plain, none => True
  | _, none => False

/-- The path of a URL that can be a base, as a reading leaves it: written with what the path
    set keeps; a file path starts with a slash; a special path is in form; another path is in
    form or, after a host, empty; after no host it is written after `/.` when it starts
    with `//`. -/
def PathFits (kind : PathKind) (hasHost : Bool) : Path → Prop
  | .unsegmented _ => False
  | .hierarchical text dotted => PathChars text.toList ∧
    match kind, hasHost with
    | .file, _ => text.toList.head? = some '/'
    | .special, _ => PathForm .special text.toList
    | .plain, true => text.toList = [] ∨ PathForm .plain text.toList
    | .plain, false => PathForm .plain text.toList ∧ (text.toList.take 2 = ['/', '/'] → dotted = true)

/-- The query set of a scheme. -/
def querySetOf (scheme : String) : EncodeSet :=
  if isSpecial scheme then specialQuerySet else querySet

/-- **A URL as parsing leaves it**, every part written as the parser writes it. -/
structure Canonical (u : Url) : Prop where
  scheme : SchemeForm u.scheme.toList
  username : ∀ c ∈ u.username.toList, Written userinfoSet c
  password : ∀ c ∈ u.password.toList, Written userinfoSet c
  port : ∀ p ∈ u.port, p ≤ 65535
  host : HostFits (pathKind u.scheme) u.host
  /-- An empty host, and a file URL's host, stand alone. -/
  bare : u.host = some (.domain "") ∨ pathKind u.scheme = .file →
    u.username = "" ∧ u.password = "" ∧ u.port = none
  path : PathFits (pathKind u.scheme) u.host.isSome u.path
  query : ∀ q ∈ u.query, ∀ c ∈ q.toList, Written (querySetOf u.scheme) c
  fragment : ∀ f ∈ u.fragment, ∀ c ∈ f.toList, Written fragmentSet c

/-- A canonical URL can be a base: its path has segments. -/
theorem Canonical.hierarchical {u : Url} (hu : u.Canonical) : ∃ t d, u.path = .hierarchical t d := by
  have hpath := hu.path
  cases hp : u.path with
  | unsegmented _ =>
    rw [hp] at hpath
    exact hpath.elim
  | hierarchical t d => exact ⟨t, d, rfl⟩

/-! ## 4. The parts of a URL with an authority -/

theorem written_percentEncode (set : EncodeSet) (s : String) :
    ∀ c ∈ (percentEncode set s).toList, Written set c := fun _ hc => mem_percentEncode hc

theorem percentEncode_ofList_nil (set : EncodeSet) : percentEncode set (String.ofList []) = "" := by
  rw [← String.toList_inj, percentEncode_toList]
  simp [Text.Utf8.encode_eq_flatMap]

/-- **What the credentials of an authority are**: percent-encoded, and empty unless written. -/
theorem userinfoOf_spec {special : Bool} {cs : List Char} {username password : String}
    {hostPart : List Char} {credentials : Bool}
    (h : userinfoOf special cs = .ok (username, password, hostPart, credentials)) :
    (∀ c ∈ username.toList, Written userinfoSet c) ∧ (∀ c ∈ password.toList, Written userinfoSet c) ∧
      (credentials = false → username = "" ∧ password = "") := by
  unfold userinfoOf at h
  dsimp only at h
  split at h
  · cases h
    simp
  · split at h
    · split_ifs at h
      cases h
      simp
    · cases h
      simp
  · simp only [credentialsOf] at h
    cases h
    refine ⟨written_percentEncode _ _, written_percentEncode _ _, fun hc => ?_⟩
    simp only [Bool.or_eq_false_iff, Bool.not_eq_false', List.isEmpty_iff, String.isEmpty_iff] at hc
    rw [hc.1, percentEncode_ofList_nil]
    exact ⟨rfl, hc.2⟩

theorem pathKind_isSpecial (scheme : String) : (pathKind scheme).isSpecial = isSpecial scheme := by
  unfold pathKind
  split_ifs with hfile hspecial
  · rw [beq_iff_eq.1 hfile]
    rfl
  · rw [hspecial]
    rfl
  · simp only [Bool.not_eq_true] at hspecial
    rw [hspecial]
    rfl

theorem pathKind_isFile {scheme : String} (hfile : pathKind scheme ≠ .file) :
    (pathKind scheme).isFile = false := by
  cases h : pathKind scheme with
  | file => exact absurd h hfile
  | special => rfl
  | plain => rfl

/-- **The host of an authority** is what the reading of its kind gives. -/
theorem authorityHost_fits {scheme hostText : String} {host : Host} (hfile : pathKind scheme ≠ .file)
    (h : authorityHost (isSpecial scheme) hostText = .ok host) :
    HostFits (pathKind scheme) (some host) := by
  have hkind := pathKind_isSpecial scheme
  unfold authorityHost at h
  cases hk : pathKind scheme with
  | file => exact absurd hk hfile
  | special =>
    rw [hk] at hkind
    rw [← hkind] at h
    simp only [PathKind.isSpecial, Bool.true_and, if_true] at h
    split_ifs at h
    exact ⟨_, h⟩
  | plain =>
    rw [hk] at hkind
    rw [← hkind] at h
    simp only [PathKind.isSpecial, Bool.false_and, Bool.false_eq_true, if_false] at h
    exact ⟨_, h⟩

theorem beq_domain_empty (h : Host) : (h == .domain "") = true ↔ h = .domain "" := by
  cases h with
  | domain n =>
    show (n == "") = true ↔ _
    simp
  | ipv4 a =>
    show false = true ↔ _
    simp
  | ipv6 ps =>
    show false = true ↔ _
    simp

theorem beq_domain_empty_eq_false {h : Host} (hne : h ≠ .domain "") : (h == .domain "") = false := by
  rw [Bool.eq_false_iff, ne_eq, beq_domain_empty]
  exact hne

/-- **The port after a host** fits in sixteen bits; an empty host has neither port nor
    credentials. -/
theorem portAfterHost_spec {scheme : String} {host : Host} {credentials : Bool}
    {rest rest' : List Char} {port : Option Nat}
    (h : portAfterHost scheme host credentials rest = .ok (port, rest')) :
    (∀ p ∈ port, p ≤ 65535) ∧ (host = .domain "" → port = none ∧ credentials = false) := by
  -- the two branches of the model: a `:` after the host, then a port, or no port at all
  obtain ⟨more, rfl⟩ | hr : (∃ more, rest = ':' :: more) ∨ rest.head? ≠ some ':' := by
    rcases rest with _ | ⟨c, more⟩
    · simp
    · by_cases hc : c = ':' <;> simp [hc]
  · by_cases hempty : host = .domain ""
    · simp [portAfterHost, beq_domain_empty, hempty, except_throw_bind, except_throw_eq_ok] at h
    · simp only [portAfterHost, beq_domain_empty_eq_false hempty, Bool.false_and, Bool.false_eq_true,
        if_false] at h
      obtain ⟨⟨port', rest''⟩, hport, h⟩ := except_bind_eq_ok.1 h
      simp only [pure, Except.pure, Except.ok.injEq, Prod.mk.injEq] at h
      refine ⟨?_, fun h' => absurd h' hempty⟩
      rw [← h.1]
      intro p hp
      rw [Option.mem_def] at hp
      subst hp
      exact parsePort_le _ _ 0 false (by omega) hport
  · have he : (host == .domain "" && rest.head? == some ':') = false := by simp [hr]
    simp only [portAfterHost, he, Bool.false_eq_true, if_false] at h
    split at h
    · simp at hr
    rw [pure_bind] at h
    split_ifs at h with hcred
    · simp [except_map_throw, except_throw_eq_ok] at h
    · simp only [pure, Except.pure, Except.ok.injEq, Prod.mk.injEq] at h
      refine ⟨by simp [← h.1], fun hempty => ⟨h.1.symm, ?_⟩⟩
      simpa [hempty, beq_domain_empty] using hcred

/-- The path after an authority, as a reading from its root slash leaves it. -/
theorem pathAfterAuthority_fits {kind : PathKind} (hfile : kind.isFile = false) (cs : List Char) :
    PathFits kind true (.hierarchical (pathAfterAuthority kind cs).1 false) := by
  -- every path read here is read from a root slash, save one that stops at once
  have hread : ∀ input, PathFits kind true
      (.hierarchical (String.ofList (readPath kind false ['/'] true input).1) false) := by
    intro input
    have hchars := pathChars_slash.readPath kind false true input
    have hform := readPath_pathForm hfile true input
    cases kind with
    | file => cases hfile
    | special => exact ⟨by simpa using hchars, by simpa using hform⟩
    | plain => exact ⟨by simpa using hchars, .inr (by simpa using hform)⟩
  cases kind with
  | file => cases hfile
  | special =>
    rcases cs with _ | ⟨c, more⟩
    · exact hread []
    · exact hread _
  | plain =>
    rcases cs with _ | ⟨c, more⟩
    · have hnil : (pathAfterAuthority .plain []).1 = "" := by decide +kernel
      rw [hnil]
      exact ⟨by simp [PathChars], .inl rfl⟩
    unfold pathAfterAuthority
    dsimp only
    by_cases hstop : (c == '?' || c == '#') = true
    · rw [if_pos hstop]
      exact ⟨by simp [PathChars], .inl rfl⟩
    rw [if_neg hstop]
    by_cases hslash : c = '/'
    · subst hslash
      rw [if_pos (by decide : ('/' == '/') = true), readPath_root rfl]
      exact hread more
    · rw [if_neg (by simpa using hslash)]
      exact hread (c :: more)

/-- **What reading the query and the fragment gives** is written by their sets. -/
theorem queryAndFragment_written (special : Bool) (cs : List Char) :
    (∀ q ∈ (queryAndFragment special cs).1, ∀ c ∈ q.toList,
      Written (if special then specialQuerySet else querySet) c) ∧
    (∀ f ∈ (queryAndFragment special cs).2, ∀ c ∈ f.toList, Written fragmentSet c) := by
  unfold queryAndFragment
  dsimp only
  split
  · split
    · exact ⟨by simpa using written_percentEncode _ _, by simpa using written_percentEncode _ _⟩
    · exact ⟨by simpa using written_percentEncode _ _, by simp⟩
  · exact ⟨by simp, by simpa using written_percentEncode _ _⟩
  · simp

/-- **A URL read with an authority is canonical.** -/
theorem parseAuthority_canonical {scheme : String} {cs : List Char} {u : Url}
    (hs : SchemeForm scheme.toList) (hfile : pathKind scheme ≠ .file)
    (h : parseAuthority scheme cs = .ok u) : u.Canonical := by
  unfold parseAuthority at h
  obtain ⟨⟨username, password, hostPart, credentials⟩, hinfo, h⟩ := except_bind_eq_ok.1 h
  dsimp only at h
  obtain ⟨host, hhost, h⟩ := except_bind_eq_ok.1 h
  obtain ⟨⟨port, rest⟩, hport, h⟩ := except_bind_eq_ok.1 h
  cases h
  obtain ⟨huser, hpass, hcred⟩ := userinfoOf_spec hinfo
  obtain ⟨hle, hempty⟩ := portAfterHost_spec hport
  obtain ⟨hquery, hfragment⟩ := queryAndFragment_written (isSpecial scheme)
    (pathAfterAuthority (pathKind scheme) rest).2
  refine ⟨hs, huser, hpass, hle, authorityHost_fits hfile hhost, ?_,
    pathAfterAuthority_fits (pathKind_isFile hfile) rest, hquery, hfragment⟩
  -- an empty host takes neither credentials nor a port
  rintro (hh | hf)
  · obtain ⟨hnone, hnocred⟩ := hempty (Option.some.inj hh)
    exact ⟨(hcred hnocred).1, (hcred hnocred).2, hnone⟩
  · exact absurd hf hfile

/-! ## 5. File URLs -/

theorem schemeForm_file : SchemeForm "file".toList := by
  rw [show "file".toList = ['f', 'i', 'l', 'e'] from rfl]
  exact schemeForm_of_lower (by simp)

/-- A file path as read starts with a slash and holds what the path set keeps. -/
theorem readPath_file_fits {start : List Char} (hstart : PathChars start) (h : Bool) (input : List Char) :
    PathChars (readPath .file false start h input).1 ∧ (readPath .file false start h input).1.head? = some '/' :=
  ⟨hstart.readPath .file false h input, by simp [readPath, PathKind.isFile]⟩

/-- A file URL is canonical when its host was read and its path starts with a slash. -/
theorem fileUrl_canonical {host : Option Host} {path : List Char} {hasHost : Bool} {rest : List Char}
    (hhost : ∀ h ∈ host, ∃ x, Host.parse x = .ok h) (hchars : PathChars path)
    (hroot : path.head? = some '/') : (fileUrl host path hasHost rest).Canonical := by
  obtain ⟨hquery, hfragment⟩ := queryAndFragment_written true rest
  refine ⟨schemeForm_file, by simp [fileUrl], by simp [fileUrl], by simp [fileUrl], ?_,
    fun _ => ⟨rfl, rfl, rfl⟩, ?_, hquery, hfragment⟩
  · -- the host kept, or the empty host in its place
    show HostFits .file (some ((if hasHost then host else none).getD (.domain "")))
    cases hasHost with
    | false => exact .inl rfl
    | true =>
      cases host with
      | none => exact .inl rfl
      | some h => exact .inr (hhost h rfl)
  · show PathFits .file true (.hierarchical (String.ofList path) false)
    exact ⟨by simpa using hchars, by simpa using hroot⟩

theorem fileWithoutHost_canonical (cs : List Char) : (fileWithoutHost cs).Canonical :=
  fileUrl_canonical (by simp) (readPath_file_fits pathChars_slash false cs).1
    (readPath_file_fits pathChars_slash false cs).2

theorem fileAfterSlashes_canonical {cs : List Char} {u : Url} (h : fileAfterSlashes cs = .ok u) :
    u.Canonical := by
  unfold fileAfterSlashes at h
  dsimp only at h
  by_cases hdrive : isDriveLetter (cs.takeWhile (!endsAuthority true ·)) = true
  · rw [if_pos hdrive] at h
    cases h
    exact fileWithoutHost_canonical cs
  rw [if_neg hdrive] at h
  -- past its host, a file URL is built one way, whatever the host
  have hbuild : ∀ host : Option Host, (∀ h ∈ host, ∃ x, Host.parse x = .ok h) → ∀ input,
      (fileUrl host (readPath .file false (if host.isSome then ['/'] else []) host.isSome input).1
        (readPath .file false (if host.isSome then ['/'] else []) host.isSome input).2.1
        (readPath .file false (if host.isSome then ['/'] else []) host.isSome input).2.2).Canonical := by
    intro host hread input
    have hstart : PathChars (if host.isSome then ['/'] else []) := by
      split_ifs
      · exact pathChars_slash
      · simp [PathChars]
    exact fileUrl_canonical hread (readPath_file_fits hstart _ _).1 (readPath_file_fits hstart _ _).2
  split_ifs at h with hempty
  · rw [pure_bind] at h
    cases h
    exact hbuild none (by simp) _
  · obtain ⟨h', hparse, h⟩ := except_bind_eq_ok.1 h
    rw [pure_bind] at h
    cases h
    refine hbuild _ (fun h hmem => ?_) _
    -- `localhost` is dropped; any other host is the one read
    split_ifs at hmem
    · cases hmem
    · cases hmem
      exact ⟨_, hparse⟩

/-- **A file URL as read is canonical.** -/
theorem parseFile_canonical {cs : List Char} {u : Url} (h : parseFile cs = .ok u) : u.Canonical := by
  rcases cs with _ | ⟨a, _ | ⟨b, more⟩⟩
  · cases h
    exact fileWithoutHost_canonical _
  · cases h
    exact fileWithoutHost_canonical _
  · simp only [parseFile] at h
    by_cases hslashes : (isFileSlash a && isFileSlash b) = true
    · rw [if_pos hslashes] at h
      exact fileAfterSlashes_canonical h
    · rw [if_neg hslashes] at h
      cases h
      exact fileWithoutHost_canonical _

/-! ## 6. Every URL as read -/

/-- A URL with no host, read from its root slash, is canonical. -/
theorem hostless_canonical {scheme : String} {more : List Char} (hs : SchemeForm scheme.toList)
    (hplain : pathKind scheme = .plain) :
    let read := readPath .plain false ['/'] false more
    let parts := queryAndFragment false read.2.2
    Canonical ⟨scheme, "", "", none, none,
      .hierarchical (String.ofList read.1) (read.1.take 2 == ['/', '/']), parts.1, parts.2⟩ := by
  intro read parts
  have hspecial : isSpecial scheme = false := by
    rw [← pathKind_isSpecial, hplain]
    rfl
  obtain ⟨hquery, hfragment⟩ := queryAndFragment_written false read.2.2
  refine ⟨hs, by simp, by simp, by simp, by simp [hplain, HostFits], by simp [hplain], ?_,
    by simpa [querySetOf, hspecial] using hquery, hfragment⟩
  rw [hplain]
  refine ⟨by simpa using pathChars_slash.readPath .plain false false more, ?_, fun h2 => ?_⟩
  · simpa using readPath_pathForm rfl false more
  · simpa using h2

/-- **Every URL that parsing gives, and that can be a base, is canonical.** -/
theorem parse_canonical {s : String} {u : Url} (h : parse s = .ok u) (hb : u.cannotBeBase = false) :
    u.Canonical := by
  unfold parse at h
  split at h
  · simp [except_throw_eq_ok] at h
  rename_i scheme rest hsplit
  have hs := splitScheme_schemeForm hsplit
  by_cases hfile : (scheme == "file") = true
  · rw [if_pos hfile] at h
    exact parseFile_canonical h
  rw [if_neg hfile] at h
  have hkind : pathKind scheme ≠ .file := by
    unfold pathKind
    rw [if_neg hfile]
    split_ifs <;> simp
  by_cases hspecial : isSpecial scheme = true
  · rw [if_pos hspecial] at h
    exact parseAuthority_canonical hs hkind h
  rw [if_neg hspecial] at h
  have hplain : pathKind scheme = .plain := by simp [pathKind, hfile, hspecial]
  -- after no special scheme: an authority, a path from its root slash, or an opaque path
  split at h
  · exact parseAuthority_canonical hs hkind h
  · rename_i more _
    cases h
    exact @hostless_canonical scheme more hs hplain
  · cases h
    simp [cannotBeBase] at hb

/-! ### The scheme a URL is read with -/

theorem parseAuthority_scheme {scheme : String} {cs : List Char} {u : Url}
    (h : parseAuthority scheme cs = .ok u) : u.scheme = scheme := by
  unfold parseAuthority at h
  obtain ⟨⟨_, _, _, _⟩, -, h⟩ := except_bind_eq_ok.1 h
  dsimp only at h
  obtain ⟨_, -, h⟩ := except_bind_eq_ok.1 h
  obtain ⟨⟨_, _⟩, -, h⟩ := except_bind_eq_ok.1 h
  cases h
  rfl

theorem fileAfterSlashes_scheme {cs : List Char} {u : Url} (h : fileAfterSlashes cs = .ok u) :
    u.scheme = "file" := by
  unfold fileAfterSlashes at h
  dsimp only at h
  split_ifs at h
  · cases h
    rfl
  · rw [pure_bind] at h
    cases h
    rfl
  · obtain ⟨_, -, h⟩ := except_bind_eq_ok.1 h
    rw [pure_bind] at h
    cases h
    rfl

theorem parseFile_scheme {cs : List Char} {u : Url} (h : parseFile cs = .ok u) : u.scheme = "file" := by
  rcases cs with _ | ⟨a, _ | ⟨b, more⟩⟩
  · cases h
    rfl
  · cases h
    rfl
  · simp only [parseFile] at h
    by_cases hslashes : (isFileSlash a && isFileSlash b) = true
    · rw [if_pos hslashes] at h
      exact fileAfterSlashes_scheme h
    · rw [if_neg hslashes] at h
      cases h
      rfl

/-- **A URL is read with the scheme split off its text.** -/
theorem parse_scheme {s : String} {u : Url} (h : parse s = .ok u) :
    ∃ rest, splitScheme (preprocess s) = some (u.scheme, rest) := by
  unfold parse at h
  split at h
  · simp [except_throw_eq_ok] at h
  rename_i scheme rest hsplit
  refine ⟨rest, ?_⟩
  rw [hsplit]
  suffices u.scheme = scheme by rw [this]
  split_ifs at h with hfile hspecial
  · rw [parseFile_scheme h, eq_comm, ← beq_iff_eq]
    exact hfile
  · exact parseAuthority_scheme h
  · split at h
    · exact parseAuthority_scheme h
    · cases h
      rfl
    · cases h
      rfl

end SmartHelmet.Url
