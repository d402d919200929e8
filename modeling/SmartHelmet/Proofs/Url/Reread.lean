import Mathlib
import SmartHelmet.Proofs.Url.Canonical
/-!
# A URL written out reads back

A canonical URL (`Url.Canonical`), written out by `Url.text`, parses again, and the reading
gives back its query and its fragment, and, unless it is a file URL, the text of its path:

* `preprocess_visible` — a text with no blank or control character is read as it is;
* `queryAndFragment_partsText` — the query and the fragment, written after `?` and `#`, read
  back;
* `userinfoOf_credentials`, `portAfterHost_text`, `pathAfterAuthority_text` — each part of an
  authority reads back, and `parseAuthority_text` puts them together;
* `parse_text` — **a canonical URL written out parses again, with its query, its fragment and,
  unless it is a file URL, the text of its path**.

The other parts read back as well, but what writing a URL out and reading it again is used for is
the path and the query; a file path is left out, since reading a drive letter after no host
differs from reading it after a slash (see `SmartHelmet.Proofs.Url.Paths`).
-/

namespace SmartHelmet.Url

open Text.Utf8

/-! ## 1. Characters a URL is written with -/

theorem Keeps.ne {set : EncodeSet} {c d : Char} (h : Keeps set c)
    (hd : set (UInt8.ofNat d.toNat) = true) : c ≠ d := by
  rintro rfl
  rw [h.2] at hd
  cases hd

/-- A written character is none that its set writes in percent form, save `%` and the digits. -/
theorem Written.ne {set : EncodeSet} {c d : Char} (h : Written set c)
    (hd : set (UInt8.ofNat d.toNat) = true) (hpct : d ≠ '%') (hhex : ¬IsUpperHex d) : c ≠ d := by
  rcases h with hk | rfl | hx
  · exact hk.ne hd
  · exact hpct.symm
  · rintro rfl
    exact hhex hx

/-- A set that writes every blank and control in percent form writes only visible characters. -/
theorem Written.visible {set : EncodeSet} (hset : ∀ b : UInt8, b.toNat ≤ 0x20 → set b = true)
    {c : Char} (h : Written set c) : 0x20 < c.toNat := by
  rcases h with ⟨hlt, hk⟩ | rfl | hx
  · by_contra hle
    have hb : (UInt8.ofNat c.toNat).toNat = c.toNat := toNat_byte (by omega)
    rw [hset _ (by omega)] at hk
    cases hk
  · decide
  · unfold IsUpperHex at hx
    omega

theorem Keeps.mono {small big : EncodeSet} (hsub : ∀ b, small b = true → big b = true) {c : Char}
    (h : Keeps big c) : Keeps small c :=
  ⟨h.1, Bool.eq_false_iff.2 fun hs => by
    have hbig := h.2
    rw [hsub _ hs] at hbig
    cases hbig⟩

theorem fragmentSet_low (b : UInt8) (hb : b.toNat ≤ 0x20) : fragmentSet b = true := by
  rcases Nat.lt_or_eq_of_le hb with hlt | heq
  · simp [fragmentSet, controls, UInt8.lt_iff_toNat_lt, hlt]
  · simp [fragmentSet, among_eq, heq]

theorem querySet_low (b : UInt8) (hb : b.toNat ≤ 0x20) : querySet b = true := by
  rcases Nat.lt_or_eq_of_le hb with hlt | heq
  · simp [querySet, controls, UInt8.lt_iff_toNat_lt, hlt]
  · simp [querySet, among_eq, heq]

theorem querySetOf_low (scheme : String) (b : UInt8) (hb : b.toNat ≤ 0x20) :
    querySetOf scheme b = true := by
  unfold querySetOf
  split
  · simp [specialQuerySet, querySet_low b hb]
  · exact querySet_low b hb

theorem userinfoSet_low (b : UInt8) (hb : b.toNat ≤ 0x20) : userinfoSet b = true := by
  simp [userinfoSet, pathSet, fragmentSet_low b hb]

theorem pathSet_low (b : UInt8) (hb : b.toNat ≤ 0x20) : pathSet b = true := by
  simp [pathSet, fragmentSet_low b hb]

/-- The query sets write a `#` in percent form, so a written query holds none. -/
theorem querySetOf_hash (scheme : String) : querySetOf scheme (UInt8.ofNat '#'.toNat) = true := by
  unfold querySetOf
  split <;> simp [specialQuerySet, querySet, among_eq]

/-- `%` and the digits of a percent form stand as they are in a query. -/
theorem keeps_querySetOf_of_written {scheme : String} {c : Char} (h : Written (querySetOf scheme) c) :
    Keeps (querySetOf scheme) c := by
  rcases h with hk | hpct | hx
  · exact hk
  · have hb : (UInt8.ofNat c.toNat).toNat = c.toNat := toNat_byte (by subst hpct; decide)
    subst hpct
    unfold querySetOf
    split <;> exact ⟨by decide, by simp [specialQuerySet, querySet, controls, among_eq]⟩
  · unfold IsUpperHex at hx
    have hb : (UInt8.ofNat c.toNat).toNat = c.toNat := toNat_byte (by omega)
    refine ⟨by omega, ?_⟩
    unfold querySetOf
    split <;>
    · simp [specialQuerySet, querySet, controls, among_eq, ← UInt8.toNat_inj, UInt8.lt_iff_toNat_lt, hb]
      omega

theorem keeps_fragmentSet_of_written {c : Char} (h : Written fragmentSet c) : Keeps fragmentSet c := by
  rcases h with hk | h | h
  · exact hk
  all_goals
    refine Keeps.mono (fun b hb => ?_) (@segmentChar_of_written .plain c (by simp [h])).1
    simp [pathSet, hb]

/-! ## 2. The text of a URL -/

/-- The port of a URL as written after its host. -/
def portText : Option Nat → List Char
  | some p => ':' :: Nat.toDigits 10 p
  | none => []

/-- What follows the path of a URL: its query after `?` and its fragment after `#`. -/
def partsText (query fragment : Option String) : List Char :=
  (match query with | some q => '?' :: q.toList | none => []) ++
    match fragment with | some f => '#' :: f.toList | none => []

/-- What stands between the `:` after the scheme and the path: `//`, the credentials, the host
    and the port; `/.` before a path that starts with `//` after no host. -/
def authorityText (u : Url) : List Char :=
  match u.host with
  | some h => '/' :: '/' :: (u.credentials.toList ++ h.text.toList ++ portText u.port)
  | none => match u.path with
    | .hierarchical _ true => ['/', '.']
    | _ => []

theorem text_toList (u : Url) : u.text.toList =
    u.scheme.toList ++ ':' :: (authorityText u ++ u.path.text.toList ++ partsText u.query u.fragment) := by
  obtain ⟨scheme, username, password, host, port, path, query, fragment⟩ := u
  -- each part is written after its mark, or not at all
  rcases query with _ | q <;> rcases fragment with _ | f <;> rcases host with _ | h <;>
    rcases port with _ | p <;> rcases path with _ | ⟨t, _ | _⟩ <;>
    simp [Url.text, authorityText, partsText, portText, Nat.toList_repr]

theorem dropWhile_visible {l : List Char} (h : ∀ c ∈ l, 0x20 < c.toNat) :
    l.dropWhile isControlOrSpace = l := by
  cases l with
  | nil => rfl
  | cons c l =>
    have hc := h c List.mem_cons_self
    simp [List.dropWhile_cons, isControlOrSpace]
    omega

theorem preprocess_visible {s : String} (h : ∀ c ∈ s.toList, 0x20 < c.toNat) : preprocess s = s.toList := by
  unfold preprocess
  dsimp only
  rw [dropWhile_visible h, dropWhile_visible (fun c hc => h c (List.mem_reverse.1 hc)),
    List.reverse_reverse]
  refine List.filter_eq_self.2 fun c hc => ?_
  have hvisible := h c hc
  have hne : c ≠ '\t' ∧ c ≠ '\n' ∧ c ≠ '\r' := by
    refine ⟨?_, ?_, ?_⟩ <;> rintro rfl <;> simp at hvisible
  simp [isTabOrNewline, hne]

/-! ## 3. The query and the fragment -/

theorem partsText_stops (query fragment : Option String) : Stops (partsText query fragment) := by
  unfold partsText Stops
  cases query <;> cases fragment <;> simp

theorem percentEncode_fragment {f : String} (hf : ∀ c ∈ f.toList, Written fragmentSet c) :
    percentEncode fragmentSet f = f :=
  percentEncode_of_keeps fun c hc => keeps_fragmentSet_of_written (hf c hc)

/-- **The query and the fragment read back** from their text after the path. -/
theorem queryAndFragment_partsText {scheme : String} {query fragment : Option String}
    (hq : ∀ q ∈ query, ∀ c ∈ q.toList, Written (querySetOf scheme) c)
    (hf : ∀ f ∈ fragment, ∀ c ∈ f.toList, Written fragmentSet c) :
    queryAndFragment (isSpecial scheme) (partsText query fragment) = (query, fragment) := by
  cases query with
  | none =>
    cases fragment with
    | none => rfl
    | some f => simp [partsText, queryAndFragment, percentEncode_fragment (hf f rfl)]
  | some q =>
    -- a written query holds no `#`, so the query ends where the fragment starts
    have hhash : ∀ c ∈ q.toList, (c != '#') = true := fun c hc => by
      simpa using (hq q rfl c hc).ne (querySetOf_hash scheme) (by decide) (by unfold IsUpperHex; decide)
    have hquery : percentEncode (if isSpecial scheme then specialQuerySet else querySet) q = q :=
      percentEncode_of_keeps fun c hc => keeps_querySetOf_of_written (hq q rfl c hc)
    cases fragment with
    | none =>
      simp [partsText, queryAndFragment, List.takeWhile_eq_self_iff.2 hhash,
        List.dropWhile_eq_nil_iff.2 hhash, hquery]
    | some f =>
      simp [partsText, queryAndFragment, List.takeWhile_append_of_pos hhash,
        List.dropWhile_append_of_pos hhash, hquery, percentEncode_fragment (hf f rfl)]

/-! ## 4. The authority -/

theorem lastAt_none {cs : List Char} (h : '@' ∉ cs) : lastAt cs = none := by
  have hnil : cs.zipIdx.filter (·.1 == '@') = [] := by
    rw [List.filter_eq_nil_iff]
    intro x hx hat
    exact h (by simpa using (beq_iff_eq.1 hat) ▸ List.fst_mem_of_mem_zipIdx hx)
  simp [lastAt, hnil]

theorem lastAt_append {xs ys : List Char} (h : '@' ∉ ys) : lastAt (xs ++ '@' :: ys) = some xs.length := by
  have hnil : (ys.zipIdx (xs.length + 1)).filter (·.1 == '@') = [] := by
    rw [List.filter_eq_nil_iff]
    intro x hx hat
    exact h (by simpa using (beq_iff_eq.1 hat) ▸ List.fst_mem_of_mem_zipIdx hx)
  simp [lastAt, List.zipIdx_append, List.filter_append, hnil]

theorem userinfoSet_marks : ∀ d ∈ ['/', '\\', '?', '#', '@', ':'],
    userinfoSet (UInt8.ofNat d.toNat) = true ∧ d ≠ '%' ∧ ¬IsUpperHex d := by
  simp [userinfoSet, pathSet, fragmentSet, controls, among_eq, IsUpperHex]

/-- The characters credentials are written with end no authority and hold no `@` or `:`. -/
theorem Written.userinfo {c : Char} (h : Written userinfoSet c) (special : Bool) :
    endsAuthority special c = false ∧ c ≠ '@' ∧ c ≠ ':' := by
  have hne : ∀ d ∈ ['/', '\\', '?', '#', '@', ':'], c ≠ d := fun d hd => by
    obtain ⟨hset, hpct, hhex⟩ := userinfoSet_marks d hd
    exact h.ne hset hpct hhex
  simp only [List.mem_cons, List.not_mem_nil, or_false, forall_eq_or_imp, forall_eq] at hne
  obtain ⟨h1, h2, h3, h4, h5, h6⟩ := hne
  exact ⟨by simp [endsAuthority, isSlash, h1, h2, h3, h4], h5, h6⟩

/-- **Credentials read back**: whatever follows them up to the end of the authority holds no
    `@`, so the last `@` is the one written after them. -/
theorem userinfoOf_credentials {special : Bool} {u : Url}
    (huser : ∀ c ∈ u.username.toList, Written userinfoSet c)
    (hpass : ∀ c ∈ u.password.toList, Written userinfoSet c) {rest : List Char}
    (hrest : '@' ∉ rest.takeWhile (!endsAuthority special ·)) :
    ∃ user pass cred, userinfoOf special (u.credentials.toList ++ rest) = .ok (user, pass, rest, cred) ∧
      (u.credentials = "" → cred = false) := by
  unfold Url.credentials
  by_cases hempty : (u.username.isEmpty && u.password.isEmpty) = true
  · rw [if_pos hempty]
    refine ⟨"", "", false, ?_, fun _ => rfl⟩
    simp [userinfoOf, lastAt_none hrest, pure, Except.pure]
  rw [if_neg hempty]
  -- the credentials are `info@`, and `info` is not empty
  set info := u.username.toList ++ (if u.password.isEmpty then [] else ':' :: u.password.toList)
    with hinfo
  have htext : (u.username ++ (if u.password.isEmpty then "" else ":" ++ u.password) ++ "@").toList =
      info ++ ['@'] := by
    rw [hinfo]
    split_ifs <;> simp
  have hchars : ∀ c ∈ info, endsAuthority special c = false ∧ c ≠ '@' := by
    intro c hc
    rw [hinfo, List.mem_append] at hc
    rcases hc with hc | hc
    · exact ⟨((huser c hc).userinfo special).1, ((huser c hc).userinfo special).2.1⟩
    · split_ifs at hc
      · cases hc
      rcases List.mem_cons.1 hc with rfl | hc
      · exact ⟨by simp [endsAuthority, isSlash], by decide⟩
      · exact ⟨((hpass c hc).userinfo special).1, ((hpass c hc).userinfo special).2.1⟩
  have hlen : info.length ≠ 0 := by
    intro h0
    rw [List.length_eq_zero_iff, hinfo, List.append_eq_nil_iff] at h0
    obtain ⟨huser0, hpass0⟩ := h0
    have hp : u.password.isEmpty = true := by
      by_contra hp
      rw [if_neg hp] at hpass0
      exact List.cons_ne_nil _ _ hpass0
    apply hempty
    simp only [hp, Bool.and_true, String.isEmpty_iff]
    exact String.toList_eq_nil_iff.1 huser0
  have hauthority : (info ++ '@' :: rest).takeWhile (!endsAuthority special ·) =
      info ++ '@' :: rest.takeWhile (!endsAuthority special ·) := by
    rw [List.takeWhile_append_of_pos (fun c hc => by simp [(hchars c hc).1]),
      List.takeWhile_cons_of_pos (by simp [endsAuthority, isSlash])]
  have hne : u.username ++ (if u.password.isEmpty then "" else ":" ++ u.password) ++ "@" ≠ "" := by
    rw [ne_eq, ← String.toList_inj, htext]
    simp
  obtain ⟨n, hn⟩ := Nat.exists_eq_succ_of_ne_zero hlen
  have hrun : userinfoOf special (info ++ '@' :: rest) = .ok ((credentialsOf info).1,
      (credentialsOf info).2, rest,
      !(info.takeWhile (· != ':')).isEmpty || !(credentialsOf info).2.isEmpty) := by
    have htake : (info ++ '@' :: rest.takeWhile (!endsAuthority special ·)).take (n + 1) = info :=
      List.take_left' hn
    have hdrop : (info ++ '@' :: rest).drop (n + 1 + 1) = rest := by
      rw [← Nat.succ_eq_add_one n, ← hn]
      simp
    simp only [userinfoOf, hauthority, lastAt_append hrest, hn, htake, hdrop]
    rfl
  rw [htext, List.append_assoc, List.singleton_append]
  exact ⟨_, _, _, hrun, fun h => absurd h hne⟩

/-- A host that reads as the empty host was written empty. -/
theorem Host.text_eq_empty {h : Host} (he : h.text = "") : h = .domain "" := by
  cases h with
  | domain n => exact congrArg Host.domain he
  | ipv4 a => exact absurd (congrArg String.toList he) (ipv4Text_toList_ne_nil a)
  | ipv6 ps =>
    have := congrArg String.toList he
    simp [Host.text] at this

theorem encodeByte_ne_nil (set : EncodeSet) (b : UInt8) : (encodeByte set b).toList ≠ [] := by
  unfold encodeByte
  split <;> simp [percentByte]

theorem percentEncode_eq_empty {set : EncodeSet} {s : String} (h : percentEncode set s = "") : s = "" := by
  have hnil := congrArg String.toList h
  rw [percentEncode_toList, String.toList_empty, List.flatMap_eq_nil_iff] at hnil
  rw [← String.toList_inj, String.toList_empty]
  by_contra hne
  obtain ⟨c, cs, hcs⟩ := List.exists_cons_of_ne_nil hne
  obtain ⟨b, bs, hb⟩ := List.exists_cons_of_ne_nil (String.utf8EncodeChar_ne_nil (c := c))
  refine encodeByte_ne_nil set b (hnil b ?_)
  simp [encode_eq_flatMap, hcs, hb]

/-- The special reading never gives the empty host. -/
theorem Host.parse_ne_empty {x : String} {h : Host} (hx : Host.parse x = .ok h) : h ≠ .domain "" := by
  unfold Host.parse at hx
  split at hx
  · split at hx
    · obtain ⟨ps, -, rfl⟩ := except_map_eq_ok hx
      nofun
    · cases hx
  · dsimp only at hx
    split at hx
    · cases hx
    · split at hx
      · cases hx
      · split at hx
        · obtain ⟨a, -, rfl⟩ := except_map_eq_ok hx
          nofun
        · rename_i d _ hempty _
          cases hx
          intro hd
          simp only [Host.domain.injEq] at hd
          simp [hd] at hempty

/-- The other reading gives the empty host from the empty text only. -/
theorem Host.parsePlain_eq_empty {x : String} (hx : Host.parsePlain x = .ok (.domain "")) : x = "" := by
  unfold Host.parsePlain at hx
  split at hx
  · split at hx
    · obtain ⟨ps, -, h⟩ := except_map_eq_ok hx
      cases h
    · cases hx
  · split at hx
    · cases hx
    · simp only [Except.ok.injEq, Host.domain.injEq] at hx
      exact percentEncode_eq_empty hx

/-- **A host reads back** as a host of the same kind; the empty host only from the empty host. -/
theorem authorityHost_text {scheme : String} {h : Host} (hfile : pathKind scheme ≠ .file)
    (hfits : HostFits (pathKind scheme) (some h)) :
    ∃ h', authorityHost (isSpecial scheme) (String.ofList h.text.toList) = .ok h' ∧
      (h' = .domain "" → h = .domain "") := by
  have hkind := pathKind_isSpecial scheme
  rw [String.ofList_toList]
  unfold authorityHost
  cases hk : pathKind scheme with
  | file => exact absurd hk hfile
  | special =>
    rw [hk] at hfits hkind
    obtain ⟨x, hx⟩ := hfits
    obtain ⟨h', hh'⟩ := Host.parse_text hx
    have hne : h.text.isEmpty = false := by
      rw [Bool.eq_false_iff, ne_eq, String.isEmpty_iff, ← String.toList_eq_nil_iff]
      exact (Host.parse_hostText hx).2
    refine ⟨h', ?_, fun he => absurd he (Host.parse_ne_empty hh')⟩
    simp [← hkind, PathKind.isSpecial, hne, hh']
  | plain =>
    rw [hk] at hfits hkind
    obtain ⟨x, hx⟩ := hfits
    obtain ⟨h', hh'⟩ := Host.parsePlain_text hx
    refine ⟨h', ?_, fun he => Host.text_eq_empty (Host.parsePlain_eq_empty (he ▸ hh'))⟩
    simp [← hkind, PathKind.isSpecial, hh']

/-- **A port reads back**, and an empty host takes none. -/
theorem portAfterHost_text {scheme : String} {host : Host} {cred : Bool} {port : Option Nat}
    {rest : List Char} (hport : ∀ p ∈ port, p ≤ 65535)
    (hempty : host = .domain "" → port = none ∧ cred = false)
    (hrest : ∀ c tl, rest = c :: tl → (c == '/' || c == '\\' || c == '?' || c == '#') = true) :
    ∃ port', portAfterHost scheme host cred (portText port ++ rest) = .ok (port', rest) := by
  cases port with
  | none =>
    -- no `:` follows the host, and an empty host stands without credentials
    have hcolon : ∀ tl, rest ≠ ':' :: tl := fun tl h => by simpa using hrest ':' tl h
    have hcred : (host == .domain "" && cred) = false := by
      by_cases hh : host = .domain ""
      · simp [(hempty hh).2]
      · simp [beq_domain_empty_eq_false hh]
    have hhead : (host == .domain "" && rest.head? == some ':') = false := by
      rcases rest with _ | ⟨c, tl⟩
      · simp
      · have : c ≠ ':' := fun hc => hcolon tl (by rw [hc])
        simp [this]
    refine ⟨none, ?_⟩
    simp only [portText, List.nil_append, portAfterHost, hhead, hcred, Bool.false_eq_true, if_false]
    rfl
  | some p =>
    have hh : host ≠ .domain "" := fun hh => by simpa using (hempty hh).1
    obtain ⟨port', hport'⟩ := parsePort_stop ((defaultPort scheme).getD none) hrest p
    refine ⟨port', ?_⟩
    simp only [portText, List.cons_append, portAfterHost, beq_domain_empty_eq_false hh, Bool.false_and,
      Bool.false_eq_true, if_false, parsePort_toDigits _ p (hport p rfl), hport']
    rfl

/-- A path in form, read from its root slash, reads as itself. -/
theorem readPath_text {kind : PathKind} (hfile : kind.isFile = false) {segs : List (List Char)}
    {T s : List Char} (hT : Segmented kind segs T) (hs : Clean kind s) (h : Bool) {rest : List Char}
    (hrest : Stops rest) : readPath kind false ['/'] h ((T ++ s).tail ++ rest) = (T ++ s, h, rest) := by
  simp [readPath, read_pathForm hfile hT hs h hrest, hfile]

theorem PathForm.cons {kind : PathKind} {t : List Char} (h : PathForm kind t) :
    ∃ segs T s tail, Segmented kind segs T ∧ Clean kind s ∧ t = T ++ s ∧ T ++ s = '/' :: tail := by
  obtain ⟨segs, T, s, hT, hs, rfl⟩ := h
  obtain ⟨c, T', hc⟩ := List.exists_cons_of_ne_nil hT.ne_nil
  have : c = '/' := by simpa [hc] using hT.head?
  exact ⟨segs, T, s, T' ++ s, hT, hs, rfl, by simp [hc, this]⟩

/-- **A path after an authority reads back**, up to its query or fragment. -/
theorem pathAfterAuthority_text {kind : PathKind} (hfile : kind.isFile = false) {t : String}
    {d : Bool} (hpath : PathFits kind true (.hierarchical t d)) {rest : List Char} (hrest : Stops rest) :
    pathAfterAuthority kind (t.toList ++ rest) = (t, rest) := by
  obtain ⟨-, hform⟩ := hpath
  -- a path in form starts with its root slash and reads from there
  have hread : PathForm kind t.toList → pathAfterAuthority kind (t.toList ++ rest) = (t, rest) := by
    intro hform
    obtain ⟨segs, T, s, tail, hT, hs, ht, htail⟩ := hform.cons
    have hback := readPath_text hfile hT hs true hrest
    rw [htail, List.tail_cons] at hback
    rw [ht, htail, List.cons_append]
    unfold pathAfterAuthority
    cases kind with
    | file => cases hfile
    | special => simp [hback, ← htail, ← ht]
    | plain =>
      simp only [show ('/' == '?' || '/' == '#') = false from rfl, Bool.false_eq_true, if_false,
        show ('/' == '/') = true from rfl, if_true, @readPath_root .plain rfl true (tail ++ rest), hback]
      simp [← htail, ← ht]
  cases kind with
  | file => cases hfile
  | special => exact hread hform
  | plain =>
    rcases hform with hnil | hform
    · rw [hnil, List.nil_append, show t = "" from String.toList_eq_nil_iff.1 hnil]
      rcases hrest.eq with rfl | ⟨c, tl, hc, rfl⟩
      · decide +kernel
      · have hstop : (c == '?' || c == '#') = true := by rcases hc with rfl | rfl <;> rfl
        unfold pathAfterAuthority
        dsimp only
        rw [if_pos hstop]
    · exact hread hform

/-- The text after a host up to the path: its port after `:`, if any. -/
theorem at_not_mem_portText (port : Option Nat) : '@' ∉ portText port := by
  cases port with
  | none => simp [portText]
  | some p =>
    simp only [portText, List.mem_cons, not_or]
    refine ⟨by decide, fun hm => ?_⟩
    obtain ⟨k, hk, hc⟩ := mem_toDigits (by decide) p '@' hm
    have hdigit := (digitChar_digit hk).1
    rw [← hc] at hdigit
    exact absurd hdigit (by decide)

theorem HostText.at_not_mem {t : List Char} (ht : HostText t) : '@' ∉ t := by
  rcases ht with ht | ⟨inner, rfl, hi⟩
  · exact fun hm => (ht '@' hm).ne.2.2.2.2.1 rfl
  · simp only [List.cons_append, List.mem_cons, List.mem_append, not_or]
    refine ⟨by decide, fun hm => ?_, by decide⟩
    rcases hi '@' hm with h | h
    · exact absurd h (by decide)
    · exact h.ne.2.2.2.2.1 rfl

/-- No `@` stands in an authority after its host. -/
theorem at_not_mem_authority {special : Bool} {A B : List Char} (hA : '@' ∉ A)
    (hB : ∀ c tl, B = c :: tl → endsAuthority special c = true) :
    '@' ∉ (A ++ B).takeWhile (!endsAuthority special ·) := by
  have hstop : B.takeWhile (!endsAuthority special ·) = [] := by
    cases B with
    | nil => rfl
    | cons c tl => simp [hB c tl rfl]
  intro hm
  rw [List.takeWhile_append] at hm
  split_ifs at hm
  · rw [hstop, List.append_nil] at hm
    exact hA hm
  · exact hA ((List.takeWhile_sublist _).subset hm)

/-- After the host and the port, a URL with a host goes on with its path's slash, or with its
    query or fragment. -/
theorem pathParts_head {kind : PathKind} {t : String} {d : Bool}
    (hpath : PathFits kind true (.hierarchical t d)) (hfile : kind.isFile = false)
    (query fragment : Option String) :
    ∀ c tl, t.toList ++ partsText query fragment = c :: tl → c = '/' ∨ c = '?' ∨ c = '#' := by
  obtain ⟨-, hform⟩ := hpath
  have hslash : PathForm kind t.toList → ∀ c tl, t.toList ++ partsText query fragment = c :: tl →
      c = '/' ∨ c = '?' ∨ c = '#' := by
    intro hform c tl h
    obtain ⟨segs, T, s, tail, -, -, ht, htail⟩ := hform.cons
    rw [ht, htail, List.cons_append, List.cons.injEq] at h
    exact .inl h.1.symm
  cases kind with
  | file => cases hfile
  | special => exact hslash hform
  | plain =>
    rcases hform with hnil | hform
    · intro c tl h
      rw [hnil, List.nil_append] at h
      rcases (partsText_stops query fragment).eq with hp | ⟨c', tl', hc, hp⟩
      · rw [hp] at h
        cases h
      · rw [hp, List.cons.injEq] at h
        rw [← h.1]
        exact .inr hc
    · exact hslash hform

theorem HostFits.hostText {kind : PathKind} {h : Host} (hfits : HostFits kind (some h)) :
    HostText h.text.toList := by
  cases kind with
  | file =>
    rcases hfits with rfl | ⟨x, hx⟩
    · exact .inl (by simp [Host.text])
    · exact (Host.parse_hostText hx).1
  | special =>
    obtain ⟨x, hx⟩ := hfits
    exact (Host.parse_hostText hx).1
  | plain =>
    obtain ⟨x, hx⟩ := hfits
    exact Host.parsePlain_hostText hx

theorem endsAuthority_of_head {special : Bool} {c : Char} (h : c = '/' ∨ c = '?' ∨ c = '#') :
    endsAuthority special c = true := by
  rcases h with rfl | rfl | rfl <;> simp [endsAuthority, isSlash]

/-- **An authority reads back**: credentials, host, port, path, query and fragment, each in
    turn. -/
theorem parseAuthority_text {u : Url} (hu : u.Canonical) (hfile : pathKind u.scheme ≠ .file)
    {h : Host} (hh : u.host = some h) {t : String} {d : Bool} (ht : u.path = .hierarchical t d) :
    ∃ v, parseAuthority u.scheme (u.credentials.toList ++ (h.text.toList ++ (portText u.port ++
        (t.toList ++ partsText u.query u.fragment)))) = .ok v ∧
      v.query = u.query ∧ v.fragment = u.fragment ∧ v.cannotBeBase = false ∧ v.path.text = t := by
  have hfits := hu.path
  rw [ht, hh] at hfits
  have hhost := hu.host
  rw [hh] at hhost
  have hafter := pathParts_head hfits (pathKind_isFile hfile) u.query u.fragment
  have hstop : ∀ c tl, t.toList ++ partsText u.query u.fragment = c :: tl →
      (c == '/' || c == '\\' || c == '?' || c == '#') = true := fun c tl hc => by
    rcases hafter c tl hc with rfl | rfl | rfl <;> rfl
  -- the credentials, up to the last `@`
  obtain ⟨user, pass, cred, hinfo, hcred⟩ := @userinfoOf_credentials (isSpecial u.scheme) u
    hu.username hu.password (h.text.toList ++ (portText u.port ++
      (t.toList ++ partsText u.query u.fragment)))
    (by
      rw [← List.append_assoc]
      refine at_not_mem_authority ?_ fun c tl hc => endsAuthority_of_head (hafter c tl hc)
      exact List.not_mem_append hhost.hostText.at_not_mem (at_not_mem_portText u.port))
  -- the host, up to the port or the path
  have hspan : hostSpan (isSpecial u.scheme) (h.text.toList ++ (portText u.port ++
      (t.toList ++ partsText u.query u.fragment))) false =
      (h.text.toList, portText u.port ++ (t.toList ++ partsText u.query u.fragment)) := by
    refine hostSpan_hostText hhost.hostText fun c tl hc => ?_
    cases hport : u.port with
    | none =>
      rw [hport, portText, List.nil_append] at hc
      exact .inr (endsAuthority_of_head (hafter c tl hc))
    | some p =>
      rw [hport, portText, List.cons_append, List.cons.injEq] at hc
      exact .inl hc.1.symm
  obtain ⟨h', hh', hempty⟩ := authorityHost_text hfile hhost
  -- an empty host stands alone, as it was written
  have hbare : h' = .domain "" → u.port = none ∧ cred = false := fun he => by
    obtain ⟨huser, hpass, hport⟩ := hu.bare (.inl (by rw [hh, hempty he]))
    refine ⟨hport, hcred ?_⟩
    simp [Url.credentials, huser, hpass]
  obtain ⟨port', hport'⟩ := @portAfterHost_text u.scheme h' cred u.port _ hu.port hbare hstop
  have hpath := pathAfterAuthority_text (pathKind_isFile hfile) hfits (partsText_stops u.query u.fragment)
  have hparts := queryAndFragment_partsText hu.query hu.fragment
  refine ⟨⟨u.scheme, user, pass, some h', port', .hierarchical t false, u.query, u.fragment⟩,
    ?_, rfl, rfl, rfl, rfl⟩
  simp only [parseAuthority, hinfo, except_ok_bind, hspan, hh', hport', hpath, hparts]
  rfl

/-! ## 5. File URLs -/

theorem HostText.chars {t : List Char} (ht : HostText t) :
    ∀ c ∈ t, HostChar c ∨ c = '[' ∨ c = ']' ∨ c = ':' := by
  rcases ht with ht | ⟨inner, rfl, hi⟩
  · exact fun c hc => .inl (ht c hc)
  · intro c hc
    simp only [List.cons_append, List.mem_cons, List.mem_append, List.not_mem_nil, or_false] at hc
    rcases hc with rfl | hc | rfl
    · exact .inr (.inl rfl)
    · rcases hi c hc with rfl | h
      · exact .inr (.inr (.inr rfl))
      · exact .inl h
    · exact .inr (.inr (.inl rfl))

/-- A host's text ends no authority and holds no `?` or `#`. -/
theorem HostText.inside {t : List Char} (ht : HostText t) (special : Bool) :
    ∀ c ∈ t, endsAuthority special c = false ∧ c ≠ '?' ∧ c ≠ '#' := by
  intro c hc
  rcases ht.chars c hc with h | rfl | rfl | rfl
  · exact ⟨endsAuthority_of_hostChar h special, h.ne.2.2.2.1, h.ne.1⟩
  all_goals exact ⟨by simp [endsAuthority, isSlash], by decide, by decide⟩

/-- What a reading hands on after a path: the query and the fragment. -/
theorem readPath_rest (kind : PathKind) {X : List Char} (hX : ∀ c ∈ X, c ≠ '?' ∧ c ≠ '#')
    (start : List Char) (h : Bool) (query fragment : Option String) :
    (readPath kind false start h (X ++ partsText query fragment)).2.2 = partsText query fragment := by
  simp only [readPath]
  exact read_rest kind hX _ (partsText_stops query fragment)

theorem isSpecial_file : isSpecial "file" = true := rfl

/-- A file URL built on the query and the fragment keeps them. -/
theorem fileUrl_partsText {query fragment : Option String}
    (hq : ∀ q ∈ query, ∀ c ∈ q.toList, Written (querySetOf "file") c)
    (hf : ∀ f ∈ fragment, ∀ c ∈ f.toList, Written fragmentSet c) (host : Option Host)
    (path : List Char) (hasHost : Bool) :
    (fileUrl host path hasHost (partsText query fragment)).query = query ∧
      (fileUrl host path hasHost (partsText query fragment)).fragment = fragment ∧
      (fileUrl host path hasHost (partsText query fragment)).cannotBeBase = false := by
  have hparts := @queryAndFragment_partsText "file" query fragment hq hf
  rw [isSpecial_file] at hparts
  simp [fileUrl, hparts, Url.cannotBeBase]

/-- **A file URL reads back** with its query and fragment, whether what follows `//` is read as
    a host or, as a drive letter, as the start of the path. -/
theorem fileAfterSlashes_text {h : Host} (hh : h = .domain "" ∨ ∃ x, Host.parse x = .ok h)
    {t : String} (hchars : PathChars t.toList) (hroot : t.toList.head? = some '/')
    {query fragment : Option String}
    (hq : ∀ q ∈ query, ∀ c ∈ q.toList, Written (querySetOf "file") c)
    (hf : ∀ f ∈ fragment, ∀ c ∈ f.toList, Written fragmentSet c) :
    ∃ v, fileAfterSlashes (h.text.toList ++ (t.toList ++ partsText query fragment)) = .ok v ∧
      v.query = query ∧ v.fragment = fragment ∧ v.cannotBeBase = false := by
  have hhost : HostText h.text.toList := @HostFits.hostText .file h hh
  obtain ⟨tail, htail⟩ : ∃ tail, t.toList = '/' :: tail := by
    cases ht : t.toList with
    | nil => rw [ht] at hroot; cases hroot
    | cons c tail =>
      rw [ht, List.head?_cons, Option.some.injEq] at hroot
      exact ⟨tail, by rw [hroot]⟩
  have hinside := hhost.inside true
  -- the host is read up to the path's slash
  have htake : (h.text.toList ++ (t.toList ++ partsText query fragment)).takeWhile
      (!endsAuthority true ·) = h.text.toList := by
    rw [List.takeWhile_append_of_pos fun c hc => by simp [(hinside c hc).1], htail]
    simp [endsAuthority, isSlash]
  have hdrop : (h.text.toList ++ (t.toList ++ partsText query fragment)).dropWhile
      (!endsAuthority true ·) = '/' :: (tail ++ partsText query fragment) := by
    rw [List.dropWhile_append_of_pos fun c hc => by simp [(hinside c hc).1], htail]
    simp [endsAuthority, isSlash]
  have hpathStops : ∀ c ∈ tail, c ≠ '?' ∧ c ≠ '#' := fun c hc =>
    hchars.ne_stop c (by rw [htail]; exact List.mem_cons_of_mem _ hc)
  unfold fileAfterSlashes
  dsimp only
  rw [htake, hdrop]
  by_cases hdrive : isDriveLetter h.text.toList = true
  · -- a drive letter: the whole text is read as a path
    rw [if_pos hdrive]
    have hrest : (readPath .file false ['/'] false
        (h.text.toList ++ (t.toList ++ partsText query fragment))).2.2 = partsText query fragment := by
      rw [← List.append_assoc]
      refine readPath_rest .file (fun c hc => ?_) _ _ _ _
      rcases List.mem_append.1 hc with hc | hc
      · exact (hinside c hc).2
      · exact hchars.ne_stop c hc
    refine ⟨_, rfl, ?_⟩
    simp only [fileWithoutHost]
    rw [hrest]
    exact fileUrl_partsText hq hf _ _ _
  rw [if_neg hdrive]
  -- past the host, the path is read after its slash, and hands on the query and fragment
  have hbuild : ∀ host : Option Host,
      let read := readPath .file false (if host.isSome then ['/'] else []) host.isSome
        (tail ++ partsText query fragment)
      (fileUrl host read.1 read.2.1 read.2.2).query = query ∧
        (fileUrl host read.1 read.2.1 read.2.2).fragment = fragment ∧
        (fileUrl host read.1 read.2.1 read.2.2).cannotBeBase = false := by
    intro host read
    rw [show read.2.2 = partsText query fragment from readPath_rest .file hpathStops _ _ _ _]
    exact fileUrl_partsText hq hf _ _ _
  have hslash : isFileSlash '/' = true := rfl
  split_ifs with hempty
  · rw [pure_bind]
    refine ⟨_, rfl, ?_⟩
    simp only [hslash, if_true]
    exact hbuild none
  · -- a host that is not empty was read by the special reading, and reads again
    have hne : h ≠ .domain "" := fun he => by simp [he, Host.text] at hempty
    obtain ⟨x, hx⟩ := hh.resolve_left hne
    obtain ⟨h', hh'⟩ := Host.parse_text hx
    rw [String.ofList_toList, hh', except_ok_bind, pure_bind]
    refine ⟨_, rfl, ?_⟩
    simp only [hslash, if_true]
    exact hbuild _

/-! ## 6. URLs without a host -/

/-- A `.` segment read after the root slash leaves the root slash. -/
theorem read_dot_slash (h : Bool) (rest : List Char) :
    PathReader.read .plain false ⟨['/'], 1, h⟩ ('.' :: '/' :: rest) =
      PathReader.read .plain false ⟨['/'], 1, h⟩ rest := by
  have hdot : SegmentChar .plain '.' :=
    ⟨by simp [Keeps, pathSet, fragmentSet, controls, among_eq], by decide, nofun⟩
  have hclose : (⟨['/', '.', '/'], 1, h⟩ : PathReader).close .plain true = ⟨['/'], 1, h⟩ := by
    have hsingle : isSingleDot ['.'] = true := by decide +kernel
    have hdouble : isDoubleDot ['.'] = false := by decide +kernel
    simp [PathReader.close, hsingle, hdouble]
  rw [show '.' :: '/' :: rest = ['.'] ++ '/' :: rest from rfl,
    read_chars rfl (by simpa using hdot) _ _ _ _, read_separator (.inl rfl)]
  simp [hclose]

/-! ## 7. Every canonical URL -/

theorem credentials_chars {u : Url} (huser : ∀ c ∈ u.username.toList, Written userinfoSet c)
    (hpass : ∀ c ∈ u.password.toList, Written userinfoSet c) :
    ∀ c ∈ u.credentials.toList, Written userinfoSet c ∨ c = ':' ∨ c = '@' := by
  intro c hc
  unfold Url.credentials at hc
  split_ifs at hc with hempty hp
  · simp at hc
  · simp only [String.toList_append, String.toList_empty, List.append_nil, List.mem_append] at hc
    rcases hc with hc | hc
    · exact .inl (huser c hc)
    · exact .inr (.inr (by simpa using hc))
  · simp only [String.toList_append, List.mem_append] at hc
    rcases hc with (hc | hc | hc) | hc
    · exact .inl (huser c hc)
    · exact .inr (.inl (by simpa using hc))
    · exact .inl (hpass c hc)
    · exact .inr (.inr (by simpa using hc))

theorem SchemeForm.visible {s : List Char} (hs : SchemeForm s) : ∀ c ∈ s, 0x20 < c.toNat := by
  intro c hc
  have := (isSchemeChar_iff c).1 (hs.chars c hc).1
  omega

theorem HostText.visible {t : List Char} (ht : HostText t) : ∀ c ∈ t, 0x20 < c.toNat := by
  intro c hc
  rcases ht.chars c hc with h | rfl | rfl | rfl
  · exact h.1
  all_goals decide

theorem visible_portText (port : Option Nat) : ∀ c ∈ portText port, 0x20 < c.toNat := by
  intro c hc
  cases port with
  | none => simp [portText] at hc
  | some p =>
    rcases List.mem_cons.1 hc with rfl | hc
    · decide
    · obtain ⟨k, hk, rfl⟩ := mem_toDigits (by decide) p c hc
      have hdigits : ∀ k < 10, 0x20 < (Nat.digitChar k).toNat := by decide
      exact hdigits k hk

theorem visible_partsText {scheme : String} {query fragment : Option String}
    (hq : ∀ q ∈ query, ∀ c ∈ q.toList, Written (querySetOf scheme) c)
    (hf : ∀ f ∈ fragment, ∀ c ∈ f.toList, Written fragmentSet c) :
    ∀ c ∈ partsText query fragment, 0x20 < c.toNat := by
  intro c hc
  unfold partsText at hc
  rcases List.mem_append.1 hc with hc | hc
  · cases query with
    | none => cases hc
    | some q =>
      rcases List.mem_cons.1 hc with rfl | hc
      · decide
      · exact (hq q rfl c hc).visible (querySetOf_low scheme)
  · cases fragment with
    | none => cases hc
    | some f =>
      rcases List.mem_cons.1 hc with rfl | hc
      · decide
      · exact (hf f rfl c hc).visible fragmentSet_low

/-- **A canonical URL is written without blanks or controls**, so reading it drops nothing. -/
theorem text_visible {u : Url} (hu : u.Canonical) : ∀ c ∈ u.text.toList, 0x20 < c.toNat := by
  rw [text_toList]
  intro c hc
  simp only [List.mem_append, List.mem_cons] at hc
  rcases hc with hc | rfl | (hc | hc) | hc
  · exact hu.scheme.visible c hc
  · decide
  · -- the authority: `//`, the credentials, the host and the port, or `/.`
    unfold authorityText at hc
    split at hc
    · rename_i h hh
      have hhost := hu.host
      rw [hh] at hhost
      simp only [List.mem_cons, List.mem_append] at hc
      rcases hc with rfl | rfl | (hc | hc) | hc
      · decide
      · decide
      · rcases credentials_chars hu.username hu.password c hc with hc | rfl | rfl
        · exact hc.visible userinfoSet_low
        · decide
        · decide
      · exact hhost.hostText.visible c hc
      · exact visible_portText u.port c hc
    · split at hc
      · simp only [List.mem_cons, List.not_mem_nil, or_false] at hc
        rcases hc with rfl | rfl <;> decide
      · cases hc
  · -- the path, written with what the path set keeps
    obtain ⟨t, d, hp⟩ := hu.hierarchical
    have hpath := hu.path
    rw [hp] at hpath hc
    exact Written.visible pathSet_low (.inl (hpath.1 c hc))
  · exact visible_partsText hu.query hu.fragment c hc

/-- **A path after no host reads back** from the root slash: written after `/.` when it starts
    with `//`, and on its own otherwise, it never reads as the `//` of an authority. -/
theorem hostless_read {t : String} {d : Bool} (hfits : PathFits .plain false (.hierarchical t d))
    {rest : List Char} (hrest : Stops rest) :
    ∃ more, (if d then ['/', '.'] else []) ++ t.toList ++ rest = '/' :: more ∧
      (∀ x, more ≠ '/' :: x) ∧ readPath .plain false ['/'] false more = (t.toList, false, rest) := by
  obtain ⟨-, hform, hdotted⟩ := hfits
  obtain ⟨segs, T, s, tail, hT, hs, ht, htail⟩ := hform.cons
  have hback := readPath_text rfl hT hs false hrest
  rw [htail, List.tail_cons] at hback
  rw [ht, htail]
  cases d with
  | true =>
    -- `/.` and then the path: the `.` segment is dropped again
    refine ⟨'.' :: '/' :: (tail ++ rest), by simp, fun x h => by simp at h, ?_⟩
    rw [← hback]
    simp only [readPath, List.length_singleton, read_dot_slash]
  | false =>
    -- the path does not start with `//`, so what follows its root slash is no second slash
    refine ⟨tail ++ rest, by simp, fun x h => ?_, hback⟩
    cases tail with
    | nil =>
      rw [List.nil_append] at h
      rcases hrest.eq with rfl | ⟨c, tl, hc, rfl⟩
      · cases h
      · rw [List.cons.injEq] at h
        rcases hc with rfl | rfl <;> exact absurd h.1 (by decide)
    | cons c tl =>
      rw [List.cons_append, List.cons.injEq] at h
      have := hdotted (by rw [ht, htail, h.1]; rfl)
      cases this

theorem authorityText_some {u : Url} {h : Host} (hh : u.host = some h) :
    authorityText u = '/' :: '/' :: (u.credentials.toList ++ h.text.toList ++ portText u.port) := by
  simp [authorityText, hh]

theorem authorityText_none {u : Url} {t : String} {d : Bool} (hh : u.host = none)
    (ht : u.path = .hierarchical t d) : authorityText u = if d then ['/', '.'] else [] := by
  cases d <;> simp [authorityText, hh, ht]

/-- After `//`, an authority starts with neither slash: its credentials or its host come first. -/
theorem dropWhile_authority {u : Url} (hu : u.Canonical) {h : Host} (hh : u.host = some h)
    (hne : h.text.toList ≠ []) (rest : List Char) :
    ('/' :: '/' :: (u.credentials.toList ++ h.text.toList ++ rest)).dropWhile isFileSlash =
      u.credentials.toList ++ h.text.toList ++ rest := by
  have hhost := hu.host
  rw [hh] at hhost
  have hchars : ∀ c ∈ u.credentials.toList ++ h.text.toList, endsAuthority true c = false := by
    intro c hc
    rcases List.mem_append.1 hc with hc | hc
    · rcases credentials_chars hu.username hu.password c hc with hc | rfl | rfl
      · exact (hc.userinfo true).1
      · decide
      · decide
    · exact (hhost.hostText.inside true c hc).1
  obtain ⟨c, cs, hcs⟩ := List.exists_cons_of_ne_nil
    (List.append_ne_nil_of_right_ne_nil u.credentials.toList hne)
  have hc : isFileSlash c = false := by
    have := hchars c (by rw [hcs]; exact List.mem_cons_self)
    simp only [endsAuthority, isSlash, Bool.true_and, Bool.or_eq_false_iff] at this
    simp [isFileSlash, this.1.1]
  rw [hcs, List.cons_append, List.dropWhile_cons_of_pos rfl, List.dropWhile_cons_of_pos rfl,
    List.dropWhile_cons_of_neg (a := c) (by simp [hc])]

theorem HostFits.exists_of_ne_plain {kind : PathKind} {host : Option Host}
    (hfits : HostFits kind host) (hk : kind ≠ .plain) : ∃ h, host = some h := by
  cases host with
  | some h => exact ⟨h, rfl⟩
  | none =>
    cases kind with
    | file => exact hfits.elim
    | special => exact hfits.elim
    | plain => exact absurd rfl hk

theorem pathKind_file {scheme : String} (h : pathKind scheme = .file) : scheme = "file" := by
  unfold pathKind at h
  split_ifs at h with hfile
  exact beq_iff_eq.1 hfile

theorem beq_file_eq_false {scheme : String} (h : pathKind scheme ≠ .file) : (scheme == "file") = false := by
  rw [Bool.eq_false_iff, ne_eq, beq_iff_eq]
  rintro rfl
  exact h rfl

/-- **A canonical URL written out parses again**, as a URL that can be a base, with its query and
    its fragment, and, unless it is a file URL, with the text of its path. -/
theorem parse_text {u : Url} (hu : u.Canonical) :
    ∃ v, parse u.text = .ok v ∧ v.query = u.query ∧ v.fragment = u.fragment ∧
      v.cannotBeBase = false ∧ (pathKind u.scheme ≠ .file → v.path.text = u.path.text) := by
  obtain ⟨t, d, ht⟩ := hu.hierarchical
  have hfits := hu.path
  have hhost := hu.host
  rw [ht] at hfits
  unfold parse
  rw [preprocess_visible (text_visible hu), text_toList, splitScheme_text hu.scheme,
    String.ofList_toList, ht]
  dsimp only
  simp only [Path.text]
  have hparts := queryAndFragment_partsText hu.query hu.fragment
  cases hk : pathKind u.scheme with
  | file =>
    -- `file://`, the host, and the path
    have hscheme := pathKind_file hk
    rw [hk] at hfits hhost
    obtain ⟨h, hh⟩ : ∃ h, u.host = some h := by
      cases hh : u.host with
      | none =>
        rw [hh] at hhost
        exact hhost.elim
      | some h => exact ⟨h, rfl⟩
    rw [hh] at hhost
    obtain ⟨huser, hpass, hport⟩ := hu.bare (.inr hk)
    have hcred : u.credentials = "" := by simp [Url.credentials, huser, hpass]
    have hq := hu.query
    rw [hscheme] at hq
    obtain ⟨v, hv, hvq, hvf, hvb⟩ := fileAfterSlashes_text hhost hfits.1 hfits.2 hq hu.fragment
    refine ⟨v, ?_, hvq, hvf, hvb, fun hne => absurd rfl hne⟩
    rw [authorityText_some hh, hcred, hport, if_pos (by rw [hscheme]; rfl)]
    simpa [parseFile, portText, isFileSlash] using hv
  | special =>
    -- `//` and an authority, whose host is never empty
    have hspecial : isSpecial u.scheme = true := by
      rw [← pathKind_isSpecial, hk]
      rfl
    have hnotfile := beq_file_eq_false (by rw [hk]; decide)
    rw [hk] at hhost
    obtain ⟨h, hh⟩ := hhost.exists_of_ne_plain (by decide)
    rw [hh] at hhost
    obtain ⟨x, hx⟩ := hhost
    obtain ⟨v, hv, hvq, hvf, hvb, hvp⟩ := parseAuthority_text hu (by rw [hk]; decide) hh ht
    refine ⟨v, ?_, hvq, hvf, hvb, fun _ => hvp⟩
    rw [if_neg (by simp [hnotfile]), if_pos hspecial, authorityText_some hh]
    rw [show '/' :: '/' :: (u.credentials.toList ++ h.text.toList ++ portText u.port) ++ t.toList ++
        partsText u.query u.fragment = '/' :: '/' :: (u.credentials.toList ++ h.text.toList ++
        (portText u.port ++ (t.toList ++ partsText u.query u.fragment))) by simp,
      dropWhile_authority hu hh (Host.parse_hostText hx).2]
    simpa using hv
  | plain =>
    have hspecial : isSpecial u.scheme = false := by
      rw [← pathKind_isSpecial, hk]
      rfl
    have hnotfile := beq_file_eq_false (by rw [hk]; decide)
    rw [if_neg (by simp [hnotfile]), if_neg (by simp [hspecial])]
    cases hh : u.host with
    | some h =>
      -- `//` and an authority
      obtain ⟨v, hv, hvq, hvf, hvb, hvp⟩ := parseAuthority_text hu (by rw [hk]; decide) hh ht
      refine ⟨v, ?_, hvq, hvf, hvb, fun _ => hvp⟩
      rw [authorityText_some hh]
      simpa using hv
    | none =>
      -- a path from its root slash, after `/.` when it starts with `//`
      rw [hk, hh] at hfits
      obtain ⟨more, hmore, hnot, hread⟩ := hostless_read hfits (partsText_stops u.query u.fragment)
      rw [hspecial] at hparts
      rw [authorityText_none hh ht, hmore]
      split
      · rename_i x heq
        exact absurd (List.cons.inj heq).2 (hnot x)
      · rename_i x _ heq
        rw [List.cons.inj heq |>.2.symm, hread]
        refine ⟨_, rfl, ?_, ?_, rfl, fun _ => ?_⟩ <;> simp [hparts]
      · rename_i hslash
        exact (hslash more rfl).elim

/-- A canonical URL written out reads with its own scheme. -/
theorem parse_text_scheme {u v : Url} (hu : u.Canonical) (hv : parse u.text = .ok v) :
    v.scheme = u.scheme := by
  obtain ⟨rest, hsplit⟩ := parse_scheme hv
  rw [preprocess_visible (text_visible hu), text_toList, splitScheme_text hu.scheme,
    String.ofList_toList, Option.some.injEq, Prod.mk.injEq] at hsplit
  exact hsplit.1.symm

end SmartHelmet.Url
