import Mathlib
import SmartHelmet.Service.Endpoint
import SmartHelmet.Proofs.Url.Reread
/-!
# The status URL of a device, read back

`Endpoint.checkUrl` builds the URL of a device's status from the service's base URL: the base's
path without its trailing slash, then the segments `device` and `check`, and the query
`device_id=` with the device form-encoded. Written out and read again, that URL has

* a query that form-decodes to the one pair `("device_id", device)`, whatever the device holds
  and whatever query the base had;
* unless the base is a file URL, the base's path segments with a trailing empty segment dropped,
  then `device` and `check` (`statusSegments`). A lone empty segment left after that is dropped
  as well: a base whose path is `//` gives `/device/check`, not `//device/check`, since dropping
  the trailing slash leaves the root slash, after which a segment is added without another one.

A file base is left out of the second part: reading a file path again can rewrite a drive letter
in it, so its segments need not come back as they were.

* `statusText_eq`, `statusText_form` — the edited path, and the segments it has;
* `formDecode_statusQuery` — the query decodes to the device;
* `checkUrl_canonical` — the status URL of a canonical base is canonical;
* `statusUrl_reads_back` — **the status URL reads back with its query and its segments**.
-/

namespace SmartHelmet.Url

/-! ## 1. Path segments -/

/-- The segments of a path that can be a base: the parts after its root slash; none for an
    opaque path. -/
def Path.segments : Path → Option (List String)
  | .hierarchical text _ => some ((pathSegments text.toList).map String.ofList)
  | .unsegmented _ => none

/-- Segments without a trailing empty one, and without a lone empty one left after that. -/
def keptSegments (segs : List String) : List String :=
  let kept := if 2 ≤ segs.length ∧ segs.getLast? = some "" then segs.dropLast else segs
  if kept = [""] then [] else kept

/-- **The segments of a device's status below a base with segments `segs`.** -/
def statusSegments (segs : List String) : List String := keptSegments segs ++ ["device", "check"]

theorem keptSegments_nil : keptSegments [] = [] := by decide

theorem keptSegments_root : keptSegments [""] = [] := by decide

theorem keptSegments_of_last {segs : List String} {s : String} (hs : s ≠ "") :
    keptSegments (segs ++ [s]) = segs ++ [s] := by
  have hkept : segs ++ [s] ≠ [""] := by
    intro h
    rcases List.append_eq_singleton_iff.1 h with ⟨-, h⟩ | ⟨-, h⟩
    · exact hs (List.singleton_inj.1 h)
    · simp at h
  simp [keptSegments, hs, hkept]

theorem keptSegments_of_empty_last (segs : List String) (s : String) :
    keptSegments (segs ++ [s, ""]) = if segs = [] ∧ s = "" then [] else segs ++ [s] := by
  have hcond : 2 ≤ (segs ++ [s, ""]).length ∧ (segs ++ [s, ""]).getLast? = some "" := by
    simp
  have hdrop : (segs ++ [s, ""]).dropLast = segs ++ [s] := by
    rw [show segs ++ [s, ""] = (segs ++ [s]) ++ [""] by simp, List.dropLast_concat]
  unfold keptSegments
  dsimp only
  rw [if_pos hcond, hdrop]
  by_cases h : segs = [] ∧ s = ""
  · obtain ⟨rfl, rfl⟩ := h
    simp
  · rw [if_neg h, if_neg]
    intro hk
    rcases List.append_eq_singleton_iff.1 hk with ⟨rfl, hk⟩ | ⟨-, hk⟩
    · exact h ⟨rfl, List.singleton_inj.1 hk⟩
    · simp at hk

/-! ## 2. The path below a base -/

/-- The text a segment is added after: closed by a slash, unless it is only its root slash. -/
def beforeSegment (t : List Char) : List Char :=
  if t.length > 1 || t.isEmpty then t ++ ['/'] else t

theorem beforeSegment_of_long {t : List Char} (h : t.length > 1) : beforeSegment t = t ++ ['/'] := by
  simp [beforeSegment, h]

theorem prefix_popIfEmpty (t : List Char) : popIfEmpty t <+: t := by
  unfold popIfEmpty
  split_ifs
  · exact List.prefix_refl t
  · exact List.dropLast_prefix t
  · exact List.prefix_refl t

/-- A closing slash after a segment goes. -/
theorem popIfEmpty_closed {t : List Char} (ht : t ≠ []) (s : List Char) :
    popIfEmpty (t ++ s ++ ['/']) = t ++ s := by
  have hlen : ¬(t ++ s ++ ['/']).length ≤ 1 := by
    have := List.length_pos_of_ne_nil ht
    simp only [List.length_append, List.length_singleton]
    omega
  rw [popIfEmpty, if_neg hlen, if_pos (by simp), List.dropLast_concat]

theorem popIfEmpty_of_getLast {t : List Char} (hlen : 2 ≤ t.length) (hlast : t.getLast? ≠ some '/') :
    popIfEmpty t = t := by
  rw [popIfEmpty, if_neg (by omega), if_neg (by simpa using hlast)]

/-- The names of a status path stand as they are in a path of any kind. -/
theorem statusName_fits (kind : PathKind) :
    ∀ name ∈ ["device", "check"], (name == "." || name == "..") = false ∧
      (∀ c ∈ name.toList, Keeps specialSegmentSet c) ∧ Clean kind name.toList := by
  simp only [List.mem_cons, List.not_mem_nil, or_false, forall_eq_or_imp, forall_eq]
  refine ⟨⟨by decide, ?_, ⟨?_, by decide +kernel, by decide +kernel⟩⟩,
    ⟨by decide, ?_, ⟨?_, by decide +kernel, by decide +kernel⟩⟩⟩
  all_goals
    simp [show "device".toList = ['d', 'e', 'v', 'i', 'c', 'e'] from rfl,
      show "check".toList = ['c', 'h', 'e', 'c', 'k'] from rfl, SegmentChar, Keeps,
      specialSegmentSet, segmentSet, pathSet, fragmentSet, controls, among_eq]

theorem Segmented.segs_eq_nil_iff {kind : PathKind} {segs : List (List Char)} {t : List Char}
    (h : Segmented kind segs t) : segs = [] ↔ t = ['/'] := by
  cases h with
  | root => simp
  | snoc ht _ =>
    refine ⟨fun h => by simp at h, fun h => ?_⟩
    -- a closed segment stands after a text that is not empty
    have hlen := congrArg List.length h
    have := List.length_pos_of_ne_nil ht.ne_nil
    simp only [List.length_append, List.length_singleton] at hlen
    omega

/-- **A status path is in form**, with the segments `device` and `check` after those its
    start closes. -/
theorem Segmented.status {kind : PathKind} {segs : List (List Char)} {Y : List Char}
    (hY : Segmented kind segs Y) :
    PathForm kind (Y ++ "device/check".toList) ∧
      pathSegments (Y ++ "device/check".toList) = segs ++ ["device".toList, "check".toList] := by
  obtain ⟨-, -, hdevice⟩ := statusName_fits kind "device" (by simp)
  obtain ⟨-, -, hcheck⟩ := statusName_fits kind "check" (by simp)
  have hsplit : Y ++ "device/check".toList = Y ++ "device".toList ++ ['/'] ++ "check".toList := by
    simp only [List.append_assoc]
    rfl
  have hclosed := hY.snoc hdevice
  refine ⟨⟨_, _, _, hclosed, hcheck, hsplit⟩, ?_⟩
  rw [hsplit, pathSegments_pathForm hclosed hcheck, List.append_assoc]
  rfl

/-- A text starts with `//` after a segment is added only where the text it came from does. -/
theorem take_beforeSegment {p t x : List Char} (hpre : p <+: t) (hx : x.head? ≠ some '/')
    (h : (beforeSegment p ++ x).take 2 = ['/', '/']) : t.take 2 = ['/', '/'] := by
  rcases p with _ | ⟨c, _ | ⟨d, p⟩⟩
  · -- the root slash alone, then the first character of `x`
    cases x <;> simp_all [beforeSegment]
  · cases x <;> simp_all [beforeSegment]
  · obtain ⟨r, rfl⟩ := hpre
    simp_all [beforeSegment]

/-- Below a path closed by a slash after a segment, the slash goes and that segment is the last
    one kept, unless only the root slash is left. -/
theorem beforeSegment_popIfEmpty_closed {kind : PathKind} {segs : List (List Char)}
    {T s : List Char} (hT : Segmented kind segs T) (hs : Clean kind s) :
    ∃ segsY, Segmented kind segsY (beforeSegment (popIfEmpty (T ++ s ++ ['/']))) ∧
      segsY.map String.ofList = keptSegments ((segs ++ [s] ++ [[]]).map String.ofList) := by
  rw [popIfEmpty_closed hT.ne_nil, List.map_append, List.map_append, List.map_singleton,
    List.map_singleton, List.append_assoc, List.singleton_append, keptSegments_of_empty_last]
  have hempty : segs.map String.ofList = [] ∧ String.ofList s = "" ↔ segs = [] ∧ s = [] := by
    simp
  by_cases hlong : (T ++ s).length > 1
  · have hkept : ¬(segs = [] ∧ s = []) := by
      rintro ⟨rfl, rfl⟩
      rw [hT.segs_eq_nil_iff.1 rfl] at hlong
      simp at hlong
    rw [beforeSegment_of_long hlong, if_neg (hempty.not.2 hkept)]
    exact ⟨segs ++ [s], hT.snoc hs, by simp⟩
  · -- only the root slash is left, after which a segment goes without another slash
    have hT1 : T.length = 1 ∧ s = [] := by
      have := List.length_pos_of_ne_nil hT.ne_nil
      simp only [List.length_append, gt_iff_lt, not_lt] at hlong
      exact ⟨by omega, List.eq_nil_of_length_eq_zero (by omega)⟩
    obtain ⟨c, rfl⟩ := List.length_eq_one_iff.1 hT1.1
    have hc : c = '/' := by simpa using hT.head?
    subst hc
    obtain ⟨rfl, rfl⟩ : segs = [] ∧ s = [] := ⟨hT.segs_eq_nil_iff.2 rfl, hT1.2⟩
    exact ⟨[], .root, by simp⟩

/-- Below a path whose last segment is not empty, that segment is kept and closed by a slash. -/
theorem beforeSegment_popIfEmpty_open {kind : PathKind} {segs : List (List Char)} {T s : List Char}
    (hT : Segmented kind segs T) (hs : Clean kind s) (hs0 : s ≠ []) :
    ∃ segsY, Segmented kind segsY (beforeSegment (popIfEmpty (T ++ s))) ∧
      segsY.map String.ofList = keptSegments ((segs ++ [s]).map String.ofList) := by
  have hlen : 2 ≤ (T ++ s).length := by
    have := List.length_pos_of_ne_nil hT.ne_nil
    have := List.length_pos_of_ne_nil hs0
    simp only [List.length_append]
    omega
  have hlast : (T ++ s).getLast? ≠ some '/' := by
    rw [List.getLast?_append_of_ne_nil _ hs0]
    intro h
    exact (hs.chars _ (List.mem_of_getLast? h)).ne_slash rfl
  rw [popIfEmpty_of_getLast hlen hlast, beforeSegment_of_long (by omega), List.map_append,
    List.map_singleton, keptSegments_of_last (by simpa using hs0)]
  exact ⟨segs ++ [s], hT.snoc hs, by simp⟩

/-- **The segments a status path starts with**: those of the base without a trailing empty one,
    and without a lone empty one left after that. -/
theorem beforeSegment_popIfEmpty {kind : PathKind} {t : List Char} (ht : t = [] ∨ PathForm kind t) :
    ∃ segs, Segmented kind segs (beforeSegment (popIfEmpty t)) ∧
      segs.map String.ofList = keptSegments ((pathSegments t).map String.ofList) := by
  rcases ht with rfl | ⟨segs, T, s, hT, hs, rfl⟩
  · exact ⟨[], .root, keptSegments_nil.symm⟩
  rw [pathSegments_pathForm hT hs]
  by_cases hs0 : s = []
  · -- a path ending in a slash: the root slash alone, or one that closes a segment
    subst hs0
    cases hT with
    | root => exact ⟨[], .root, keptSegments_root.symm⟩
    | snoc hT hs =>
      rw [List.append_nil]
      exact beforeSegment_popIfEmpty_closed hT hs
  · exact beforeSegment_popIfEmpty_open hT hs hs0

/-! ## 3. The status path -/

/-- The text a path gets from the status edit: its trailing slash dropped, then `device` and
    `check` added. -/
def statusText (kind : PathKind) (t : List Char) : List Char :=
  pushSegment kind (pushSegment kind (popIfEmpty t) "device") "check"

section Status

variable {kind : PathKind} (hfile : kind.isFile = false)
include hfile

theorem pushSegment_statusName {name : String} (hname : name ∈ ["device", "check"]) (t : List Char) :
    pushSegment kind t name = beforeSegment t ++ name.toList := by
  obtain ⟨h1, h2, h3⟩ := statusName_fits kind name hname
  exact pushSegment_name hfile h1 h2 h3 t

theorem statusText_eq (t : List Char) :
    statusText kind t = beforeSegment (popIfEmpty t) ++ "device/check".toList := by
  -- the first name leaves more than one character, so the second goes after a slash
  have hlong : (beforeSegment (popIfEmpty t) ++ "device".toList).length > 1 := by
    simp only [List.length_append, show "device".toList.length = 6 from rfl]
    omega
  rw [statusText, pushSegment_statusName hfile (by simp), pushSegment_statusName hfile (by simp),
    beforeSegment_of_long hlong, List.append_assoc, List.append_assoc]
  rfl

/-- **The status path of a path in form is in form**, with the status segments of the
    path's segments. -/
theorem statusText_form {t : List Char} (ht : t = [] ∨ PathForm kind t) :
    PathForm kind (statusText kind t) ∧
      (pathSegments (statusText kind t)).map String.ofList =
        statusSegments ((pathSegments t).map String.ofList) := by
  obtain ⟨segs, hY, hsegs⟩ := beforeSegment_popIfEmpty ht
  obtain ⟨hform, hstatus⟩ := hY.status
  rw [statusText_eq hfile]
  refine ⟨hform, ?_⟩
  rw [hstatus, List.map_append, hsegs, statusSegments]
  rfl

/-- A status path starts with `//` only where its base does. -/
theorem take_statusText (t : List Char) (h : (statusText kind t).take 2 = ['/', '/']) :
    t.take 2 = ['/', '/'] := by
  rw [statusText_eq hfile] at h
  exact take_beforeSegment (prefix_popIfEmpty t) (by decide) h

end Status

theorem PathChars.beforeSegment {t : List Char} (h : PathChars t) : PathChars (beforeSegment t) := by
  unfold Url.beforeSegment
  split
  · exact h.append pathChars_slash
  · exact h

theorem PathChars.pushSegment {t : List Char} (h : PathChars t) (kind : PathKind) (name : String) :
    PathChars (pushSegment kind t name) := by
  unfold Url.pushSegment
  split
  · exact h
  · exact h.beforeSegment.readPath kind true true _

theorem PathChars.statusText {t : List Char} (h : PathChars t) (kind : PathKind) :
    PathChars (statusText kind t) :=
  ((h.sub fun _ hc => (prefix_popIfEmpty t).subset hc).pushSegment kind "device").pushSegment kind "check"

/-- A file path stays rooted. -/
theorem statusText_file_head (t : List Char) : (statusText .file t).head? = some '/' := by
  unfold statusText Url.pushSegment
  simp [readPath, PathKind.isFile]

/-- **A status path fits where its base's path fits.** -/
theorem PathFits.statusText {kind : PathKind} {hasHost : Bool} {t : String} {d : Bool}
    (h : PathFits kind hasHost (.hierarchical t d)) :
    PathFits kind hasHost (.hierarchical (String.ofList (statusText kind t.toList)) d) := by
  obtain ⟨hchars, hform⟩ := h
  refine ⟨by simpa using hchars.statusText kind, ?_⟩
  simp only [String.toList_ofList]
  cases kind with
  | file => exact statusText_file_head _
  | special => exact (statusText_form rfl (.inr hform)).1
  | plain =>
    cases hasHost with
    | true => exact .inr (statusText_form rfl hform).1
    | false =>
      exact ⟨(statusText_form rfl (.inr hform.1)).1, fun h => hform.2 (take_statusText rfl _ h)⟩

/-- The path of a URL with a host or of a special URL is in form, or empty. -/
theorem PathFits.form {kind : PathKind} (hfile : kind.isFile = false) {hasHost : Bool} {t : String}
    {d : Bool} (h : PathFits kind hasHost (.hierarchical t d)) : t.toList = [] ∨ PathForm kind t.toList := by
  obtain ⟨-, hform⟩ := h
  cases kind with
  | file => cases hfile
  | special => exact .inr hform
  | plain =>
    cases hasHost with
    | true => exact hform
    | false => exact .inr hform.1

theorem segments_of_cannotBeBase {u : Url} (h : u.cannotBeBase = false) :
    u.path.segments = some ((pathSegments u.path.text.toList).map String.ofList) := by
  unfold Url.cannotBeBase at h
  split at h
  · cases h
  · rename_i hp
    rw [hp]
    rfl

/-! ## 4. The status query -/

theorem formKeeps_deviceId :
    ∀ c ∈ "device_id".toList, c.toNat < 0x80 ∧ formKeeps (UInt8.ofNat c.toNat) = true := by
  simp [show "device_id".toList = ['d', 'e', 'v', 'i', 'c', 'e', '_', 'i', 'd'] from rfl, formKeeps,
    among_eq]

/-- What a form encoding writes, and `=`, stand as they are in a query. -/
theorem keeps_querySetOf_of_form {scheme : String} {c : Char}
    (h : c.toNat < 0x80 ∧ formKeeps (UInt8.ofNat c.toNat) = true ∨ c = '+' ∨ c = '=') :
    Keeps (querySetOf scheme) c := by
  rcases h with ⟨hlt, hk⟩ | rfl | rfl
  · have hb : (UInt8.ofNat c.toNat).toNat = c.toNat := Text.Utf8.toNat_byte (by omega)
    rw [formKeeps_iff, hb] at hk
    refine ⟨hlt, ?_⟩
    unfold querySetOf
    split <;>
    · simp [specialQuerySet, querySet, controls, among_eq, ← UInt8.toNat_inj, UInt8.lt_iff_toNat_lt, hb]
      omega
  all_goals
    unfold querySetOf
    split <;> exact ⟨by decide, by simp [specialQuerySet, querySet, controls, among_eq]⟩

/-- The query of a device's status is written as the query set of any scheme writes it. -/
theorem statusQuery_written (scheme device : String) :
    ∀ c ∈ ("device_id=" ++ formEncode device).toList, Written (querySetOf scheme) c := by
  intro c hc
  rw [show "device_id=" = "device_id" ++ "=" from rfl, String.toList_append, String.toList_append,
    List.mem_append, List.mem_append] at hc
  rcases hc with (hc | hc) | hc
  · exact .inl (keeps_querySetOf_of_form (.inl (formKeeps_deviceId c hc)))
  · exact .inl (keeps_querySetOf_of_form (.inr (.inr (by simpa using hc))))
  · rw [formEncode_toList, List.mem_flatMap] at hc
    obtain ⟨b, -, hc⟩ := hc
    rcases mem_formByte hc with hk | hplus | hpct | hhex
    · exact .inl (keeps_querySetOf_of_form (.inl hk))
    · exact .inl (keeps_querySetOf_of_form (.inr (.inl hplus)))
    · exact .inr (.inl hpct)
    · exact .inr (.inr hhex)

/-- **The query of a device's status decodes to the device**, whatever it holds. -/
theorem formDecode_statusQuery (device : String) :
    formDecode ("device_id=" ++ formEncode device) = [("device_id", device)] := by
  have h := formDecode_pair "device_id" device
  rwa [formEncode_of_keeps formKeeps_deviceId] at h

end SmartHelmet.Url

namespace SmartHelmet.Service

open Url

theorem checkUrl_path {e : Endpoint} {t : String} {d : Bool} (ht : e.base.path = .hierarchical t d)
    (device : String) :
    (e.checkUrl device).path = .hierarchical (String.ofList (statusText (pathKind e.base.scheme) t.toList)) d := by
  simp [Endpoint.checkUrl, ht, statusText]

/-- **The status URL of a canonical base is canonical.** -/
theorem checkUrl_canonical {e : Endpoint} (hbase : e.base.Canonical) (device : String) :
    (e.checkUrl device).Canonical := by
  obtain ⟨t, d, ht⟩ := hbase.hierarchical
  have hfits := hbase.path
  rw [ht] at hfits
  refine ⟨hbase.scheme, hbase.username, hbase.password, hbase.port, hbase.host, hbase.bare, ?_, ?_,
    hbase.fragment⟩
  · show PathFits (pathKind e.base.scheme) e.base.host.isSome (e.checkUrl device).path
    rw [checkUrl_path ht]
    exact hfits.statusText
  · show ∀ q ∈ some ("device_id=" ++ formEncode device), ∀ c ∈ q.toList, Written (querySetOf e.base.scheme) c
    simpa using statusQuery_written e.base.scheme device

/-- The base of an endpoint is a URL as parsing leaves it. -/
theorem ofSettings_canonical {s : ServiceSettings} {e : Endpoint} (he : Endpoint.ofSettings s = .ok e) :
    e.base.Canonical := by
  unfold Endpoint.ofSettings at he
  split at he
  · cases he
  · rename_i u hu
    split at he
    · cases he
    · rename_i hb
      cases he
      exact parse_canonical hu (by simpa using hb)

/-- An `http` URL of a lowercase domain that reads as itself, with a path in form and no other
    part, is canonical. -/
theorem http_canonical {name path : String} (hname : domainToAscii name = some name)
    (hne : name.isEmpty = false) (hnum : endsInNumber name = false)
    (hlower : name.toList.map Char.toLower = name.toList) (hchars : PathChars path.toList)
    (hform : PathForm .special path.toList) :
    Url.Canonical { scheme := "http", host := some (.domain name), path := .hierarchical path false } := by
  have hscheme : SchemeForm "http".toList := by
    rw [show "http".toList = ['h', 't', 't', 'p'] from rfl]
    exact schemeForm_of_lower (by simp)
  have hl : name.toLower = name := String.toList_inj.1 (by rw [toList_toLower, hlower])
  have hhost : Host.parse name = .ok (.domain name) := by
    rw [Host.parse_domain hname hne hnum, hl]
  exact ⟨hscheme, by simp, by simp, by simp, ⟨name, hhost⟩, fun _ => ⟨rfl, rfl, rfl⟩,
    ⟨hchars, hform⟩, by simp, by simp⟩

/-- **The status URL below a canonical base reads back** with the device as the one pair of its
    query, and, unless the base is a file URL, with the status segments of the base's segments. -/
theorem parse_checkUrl {e : Endpoint} (hbase : e.base.Canonical) (device : String) :
    ∃ v, Url.parse (e.checkUrl device).text = .ok v ∧
      v.query.map formDecode = some [("device_id", device)] ∧
      (pathKind e.base.scheme ≠ .file → v.path.segments = e.base.path.segments.map statusSegments) := by
  obtain ⟨t, d, ht⟩ := hbase.hierarchical
  obtain ⟨v, hv, hquery, -, hbase', hpath⟩ := parse_text (checkUrl_canonical hbase device)
  refine ⟨v, hv, ?_, fun hfile => ?_⟩
  · rw [hquery]
    exact congrArg some (formDecode_statusQuery device)
  · have hfits := hbase.path
    rw [ht] at hfits
    have hform := (statusText_form (pathKind_isFile hfile) (hfits.form (pathKind_isFile hfile))).2
    rw [segments_of_cannotBeBase hbase', hpath hfile, checkUrl_path ht, ht]
    simp only [Path.text, String.toList_ofList, hform]
    rfl

/-- **Every canonical URL written out is accepted as a base**, read with its scheme and, unless it
    is a file URL, with its segments. -/
theorem ofSettings_text {s : ServiceSettings} {u : Url} (hu : u.Canonical) (hs : s.baseUrl = u.text) :
    ∃ e, Endpoint.ofSettings s = .ok e ∧ e.base.scheme = u.scheme ∧
      (pathKind u.scheme ≠ .file → e.base.path.segments = u.path.segments) := by
  obtain ⟨v, hv, -, -, hvb, hpath⟩ := parse_text hu
  refine ⟨⟨v, s.timeout⟩, ?_, parse_text_scheme hu hv, fun hfile => ?_⟩
  · rw [Endpoint.ofSettings, hs, hv]
    simp [hvb]
  · obtain ⟨t, d, ht⟩ := hu.hierarchical
    rw [segments_of_cannotBeBase hvb, hpath hfile, ht]
    rfl

/-- **The status URL of a device reads back** with the device as the one pair of its query, and,
    unless the base is a file URL, with the base's segments without a trailing empty one, then
    `device` and `check`. -/
theorem statusUrl_reads_back {s : ServiceSettings} {e : Endpoint} (he : Endpoint.ofSettings s = .ok e)
    (device : String) :
    ∃ v, Url.parse (e.checkUrl device).text = .ok v ∧
      v.query.map formDecode = some [("device_id", device)] ∧
      (pathKind e.base.scheme ≠ .file → v.path.segments = e.base.path.segments.map statusSegments) :=
  parse_checkUrl (ofSettings_canonical he) device

/-- On the default base `http://localhost/api/fast`, a device whose id holds `&` and `=` is still
    the one pair of the query, below `api/fast/device/check`. -/
theorem statusUrl_reads_back_default :
    ∃ e, Endpoint.ofSettings {} = .ok e ∧ ∃ v, Url.parse (e.checkUrl "a&b=c").text = .ok v ∧
      v.query.map formDecode = some [("device_id", "a&b=c")] ∧
      v.path.segments = some ["api", "fast", "device", "check"] := by
  have hapi : Clean .special "api".toList :=
    ⟨by simp [show "api".toList = ['a', 'p', 'i'] from rfl, SegmentChar, Keeps, pathSet, fragmentSet,
      controls, among_eq], by decide +kernel, by decide +kernel⟩
  have hfast : Clean .special "fast".toList :=
    ⟨by simp [show "fast".toList = ['f', 'a', 's', 't'] from rfl, SegmentChar, Keeps, pathSet,
      fragmentSet, controls, among_eq], by decide +kernel, by decide +kernel⟩
  have hchars : PathChars "/api/fast".toList := by
    simp [show "/api/fast".toList = ['/', 'a', 'p', 'i', '/', 'f', 'a', 's', 't'] from rfl, PathChars,
      Keeps, pathSet, fragmentSet, controls, among_eq]
  have hbase := @http_canonical "localhost" "/api/fast" (by decide) (by decide) (by decide)
    (by decide) hchars ⟨_, _, _, Segmented.root.snoc hapi, hfast, rfl⟩
  obtain ⟨e, he, hscheme, hsegs⟩ := ofSettings_text (s := {}) hbase (by decide)
  obtain ⟨v, hv, hquery, hpath⟩ := statusUrl_reads_back he "a&b=c"
  refine ⟨e, he, v, hv, hquery, ?_⟩
  rw [hpath (by rw [hscheme]; decide), hsegs (by decide)]
  decide

/-- The base `http://h//` has two empty segments and its status path keeps neither of them:
    dropping the trailing one leaves the root slash alone, after which `device` is added without
    a slash of its own. -/
theorem double_slash_base_drops_both_segments :
    ∃ e, Endpoint.ofSettings { baseUrl := "http://h//" } = .ok e ∧
      e.base.path.segments = some ["", ""] ∧
      ∃ v, Url.parse (e.checkUrl "X").text = .ok v ∧ v.path.segments = some ["device", "check"] := by
  have hchars : PathChars "//".toList := by
    simp [show "//".toList = ['/', '/'] from rfl, PathChars, Keeps, pathSet, fragmentSet, controls,
      among_eq]
  have hbase := @http_canonical "h" "//" (by decide) (by decide) (by decide) (by decide) hchars
    ⟨_, _, _, Segmented.root.snoc (clean_nil .special), clean_nil .special, rfl⟩
  obtain ⟨e, he, hscheme, hsegs⟩ := ofSettings_text (s := { baseUrl := "http://h//" }) hbase (by decide)
  have hfile : pathKind e.base.scheme ≠ .file := by
    rw [hscheme]
    decide
  obtain ⟨v, hv, -, hpath⟩ := parse_checkUrl (ofSettings_canonical he) "X"
  refine ⟨e, he, by rw [hsegs (by decide)]; decide, v, hv, ?_⟩
  rw [hpath hfile, hsegs (by decide)]
  decide

end SmartHelmet.Service
