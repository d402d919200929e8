import Mathlib
import SmartHelmet.Url.Path
import SmartHelmet.Proofs.Url.Percent
/-!
# Paths, read twice

A path that is not a file path comes out of reading in one shape: a root slash, then segments
separated by slashes, each of characters the path set keeps and none of them `.` or `..`
(`PathForm`). Reading such a text again gives it back unchanged (`read_pathForm`), and every
reading leaves one (`read_leaves_pathForm`), whatever the input was: dot segments are resolved
as they come, and anything else is written in percent form. Adding a segment written as it
stands closes the last one with a slash and keeps the shape (`pushSegment_name`).

Reading stops at the first `?` or `#` of the input whatever the kind of path, so the rest it
hands on is the query and the fragment (`read_rest`).

File paths are left out of the round trip: a drive letter is read differently after no host
than after a slash, so reading a file path again can change it.
-/

namespace SmartHelmet.Url

/-! ## 1. Clean segments and closed texts -/

/-- A character a segment holds as it is: kept by the path set, no slash, and no backslash in a
    special path. -/
def SegmentChar (kind : PathKind) (c : Char) : Prop :=
  Keeps pathSet c ∧ c ≠ '/' ∧ (kind.isSpecial = true → c ≠ '\\')

/-- A segment that reads as itself: characters that stand as they are, and neither `.` nor
    `..`. -/
structure Clean (kind : PathKind) (s : List Char) : Prop where
  chars : ∀ c ∈ s, SegmentChar kind c
  not_single : isSingleDot s = false
  not_double : isDoubleDot s = false

/-- A path text up to a slash: the root slash, then clean segments, each closed by a slash. -/
inductive Segmented (kind : PathKind) : List (List Char) → List Char → Prop
  | root : Segmented kind [] ['/']
  | snoc {segs : List (List Char)} {t s : List Char} :
      Segmented kind segs t → Clean kind s → Segmented kind (segs ++ [s]) (t ++ s ++ ['/'])

/-- A path text as reading leaves it: closed segments, then a last clean segment, maybe empty. -/
def PathForm (kind : PathKind) (t : List Char) : Prop :=
  ∃ segs T s, Segmented kind segs T ∧ Clean kind s ∧ t = T ++ s

/-- The segments of a path text: the parts after its root slash, split at slashes; none when it
    does not start with a slash. -/
def pathSegments : List Char → List (List Char)
  | '/' :: rest => rest.splitOn '/'
  | _ => []

/-- Whether the rest of an input is where a path reading stops: the end, a query or a
    fragment. -/
def Stops (rest : List Char) : Prop :=
  rest = [] ∨ rest.head? = some '?' ∨ rest.head? = some '#'

theorem Stops.eq {rest : List Char} (h : Stops rest) :
    rest = [] ∨ ∃ c tl, (c = '?' ∨ c = '#') ∧ rest = c :: tl := by
  rcases h with rfl | h | h
  · exact .inl rfl
  all_goals
    cases rest with
    | nil => simp at h
    | cons c tl =>
      simp only [List.head?_cons, Option.some.injEq] at h
      exact .inr ⟨c, tl, by simp [h], rfl⟩

theorem SegmentChar.ne_slash {kind : PathKind} {c : Char} (h : SegmentChar kind c) : c ≠ '/' :=
  h.2.1

theorem SegmentChar.ne_stop {kind : PathKind} {c : Char} (h : SegmentChar kind c) :
    c ≠ '?' ∧ c ≠ '#' := by
  obtain ⟨⟨-, hset⟩, -, -⟩ := h
  constructor <;> rintro rfl <;> simp [pathSet, fragmentSet, controls, among_eq] at hset

theorem clean_nil (kind : PathKind) : Clean kind [] :=
  ⟨fun _ h => absurd h List.not_mem_nil, by decide +kernel, by decide +kernel⟩

/-- The percent sign and the digits of a percent form stand in any segment. -/
theorem segmentChar_of_written {kind : PathKind} {d : Char} (h : d = '%' ∨ IsUpperHex d) :
    SegmentChar kind d := by
  rcases h with rfl | h
  · exact ⟨by simp [Keeps, pathSet, fragmentSet, controls, among_eq], by decide, fun _ => by decide⟩
  · unfold IsUpperHex at h
    have hb : (UInt8.ofNat d.toNat).toNat = d.toNat := Text.Utf8.toNat_byte (by omega)
    refine ⟨⟨by omega, ?_⟩, ?_, fun _ => ?_⟩
    · simp [pathSet, fragmentSet, controls, among_eq, ← UInt8.toNat_inj, UInt8.lt_iff_toNat_lt, hb]
      omega
    all_goals rintro rfl; simp at h

theorem Segmented.ne_nil {kind : PathKind} {segs : List (List Char)} {t : List Char}
    (h : Segmented kind segs t) : t ≠ [] := by
  cases h <;> simp

theorem Segmented.getLast? {kind : PathKind} {segs : List (List Char)} {t : List Char}
    (h : Segmented kind segs t) : t.getLast? = some '/' := by
  cases h <;> simp

theorem Segmented.head? {kind : PathKind} {segs : List (List Char)} {t : List Char}
    (h : Segmented kind segs t) : t.head? = some '/' := by
  induction h with
  | root => rfl
  | snoc h _ ih =>
    obtain ⟨c, t', rfl⟩ := List.exists_cons_of_ne_nil h.ne_nil
    simpa using ih

/-- **The segments of a closed text and what follows it**: the closed segments, then the
    parts of the rest. -/
theorem Segmented.pathSegments_append {kind : PathKind} {segs : List (List Char)} {t : List Char}
    (h : Segmented kind segs t) (x : List Char) : pathSegments (t ++ x) = segs ++ x.splitOn '/' := by
  induction h generalizing x with
  | root => rfl
  | @snoc segs t s h hs ih =>
    have hslash : '/' ∉ s := fun hm => (hs.chars _ hm).ne_slash rfl
    rw [List.append_assoc, List.append_assoc, List.singleton_append, ih,
      List.splitOn_append_cons_self_of_not_mem hslash, List.append_assoc, List.singleton_append]

theorem pathSegments_pathForm {kind : PathKind} {segs : List (List Char)} {T s : List Char}
    (h : Segmented kind segs T) (hs : Clean kind s) : pathSegments (T ++ s) = segs ++ [s] := by
  rw [h.pathSegments_append, List.splitOn_eq_singleton fun hm => (hs.chars _ hm).ne_slash rfl]

/-! ## 2. The last slash -/

theorem lastSlash_append_slash (t : List Char) : lastSlash (t ++ ['/']) = some t.length := by
  simp [lastSlash, List.range_succ, List.zip_append, List.filter_append]

theorem lastSlash_append_ne {t : List Char} {c : Char} (hc : c ≠ '/') :
    lastSlash (t ++ [c]) = lastSlash t := by
  simp [lastSlash, List.range_succ, List.zip_append, List.filter_append, hc]

theorem lastSlash_append_of_not_mem {t s : List Char} (hs : '/' ∉ s) :
    lastSlash (t ++ s) = lastSlash t := by
  induction s using List.reverseRecOn with
  | nil => rw [List.append_nil]
  | append_singleton s c ih =>
    have hc : c ≠ '/' := fun he => hs (by simp [he])
    rw [← List.append_assoc, lastSlash_append_ne hc, ih fun hm => hs (List.mem_append_left _ hm)]

theorem Segmented.lastSlash_eq {kind : PathKind} {segs : List (List Char)} {t : List Char}
    (h : Segmented kind segs t) : lastSlash t = some (t.length - 1) := by
  cases h with
  | root => rfl
  | snoc _ _ => rw [lastSlash_append_slash]; simp

/-- A closed text loses nothing to `popSegment`: its last segment is the empty one after the
    slash. -/
theorem Segmented.popSegment_eq {kind : PathKind} {segs : List (List Char)} {t : List Char}
    (h : Segmented kind segs t) (file : Bool) : popSegment file t = t := by
  have hlen : t.length - 1 + 1 = t.length := by
    have := List.length_pos_of_ne_nil h.ne_nil
    omega
  simp only [popSegment, h.lastSlash_eq, hlen, List.drop_length, List.take_length]
  split <;> rfl

/-- Dropping the last segment of a closed text and the clean one after it. -/
theorem Segmented.popSegment_append {kind : PathKind} {segs : List (List Char)} {t s : List Char}
    (h : Segmented kind segs t) (hs : Clean kind s) :
    popSegment false (t ++ s) = t := by
  have hslash : '/' ∉ s := fun hm => (hs.chars _ hm).ne_slash rfl
  have hlen : t.length - 1 + 1 = t.length := by
    have := List.length_pos_of_ne_nil h.ne_nil
    omega
  simp [popSegment, lastSlash_append_of_not_mem hslash, h.lastSlash_eq, hlen]

/-! ## 3. Closing a segment

Outside file paths, closing a segment never touches the host, and either keeps the segment or
resolves it: `.` goes, and `..` takes the segment before it along, if there is one. -/

section Close

variable {kind : PathKind}

theorem shorten_ne_nil {t : List Char} (h : t ≠ []) : shorten false t = popSegment false t := by
  simp [shorten, List.isEmpty_iff, h]

/-- What a `..` leaves of a closed text: the text without its last segment, or the text itself
    when it has none. -/
theorem Segmented.shorten_double {segs : List (List Char)} {t : List Char}
    (h : Segmented kind segs t) :
    ∃ segs', Segmented kind segs'
      (shorten false (if t.getLast? == some '/' && lastSlashRemovable t then t.dropLast else t)) := by
  cases h with
  | root => exact ⟨[], .root⟩
  | @snoc segs t s ht hs =>
    rw [Segmented.getLast? (ht.snoc hs), beq_self_eq_true, Bool.true_and]
    split
    · -- the slash goes, and the segment before it with it
      have hne : t ++ s ≠ [] := by simp [ht.ne_nil]
      rw [List.dropLast_append_of_ne_nil (by simp), List.dropLast_singleton, List.append_nil,
        shorten_ne_nil hne, ht.popSegment_append hs]
      exact ⟨segs, ht⟩
    · rw [shorten_ne_nil (ht.snoc hs).ne_nil, (ht.snoc hs).popSegment_eq]
      exact ⟨segs ++ [s], ht.snoc hs⟩

variable (hfile : kind.isFile = false)
include hfile

theorem close_hasHost (r : PathReader) (slash : Bool) : (r.close kind slash).hasHost = r.hasHost := by
  unfold PathReader.close
  simp only [hfile, Bool.false_and, Bool.false_eq_true, if_false]
  split_ifs <;> rfl

/-- A clean segment ended by the end of the input stays. -/
theorem close_clean_end {T s : List Char} (hs : Clean kind s) (h : Bool) :
    (⟨T ++ s, T.length, h⟩ : PathReader).close kind false = ⟨T ++ s, T.length, h⟩ := by
  simp [PathReader.close, hs.not_single, hs.not_double, hfile]

/-- A clean segment ended by a slash stays. -/
theorem close_clean_slash {T s : List Char} (hs : Clean kind s) (h : Bool) :
    (⟨T ++ s ++ ['/'], T.length, h⟩ : PathReader).close kind true = ⟨T ++ s ++ ['/'], T.length, h⟩ := by
  simp [PathReader.close, hs.not_single, hs.not_double, hfile]

/-- **A segment ended by the end of the input** leaves a path in form. -/
theorem close_end_pathForm {segs : List (List Char)} {T p : List Char} (hT : Segmented kind segs T)
    (hp : ∀ c ∈ p, SegmentChar kind c) (h : Bool) :
    PathForm kind ((⟨T ++ p, T.length, h⟩ : PathReader).close kind false).text := by
  by_cases hd : isDoubleDot p = true
  · obtain ⟨segs', hT'⟩ := hT.shorten_double
    refine ⟨segs', _, [], hT', clean_nil kind, ?_⟩
    simp [PathReader.close, hd, hfile]
  by_cases hs : isSingleDot p = true
  · refine ⟨segs, T, [], hT, clean_nil kind, ?_⟩
    simp [PathReader.close, hd, hs, hT.getLast?]
  · rw [close_clean_end hfile ⟨hp, by simpa using hs, by simpa using hd⟩]
    exact ⟨segs, T, p, hT, ⟨hp, by simpa using hs, by simpa using hd⟩, rfl⟩

/-- **A segment ended by a slash** leaves a closed text. -/
theorem close_slash_segmented {segs : List (List Char)} {T p : List Char}
    (hT : Segmented kind segs T) (hp : ∀ c ∈ p, SegmentChar kind c) (h : Bool) :
    ∃ segs', Segmented kind segs'
      ((⟨T ++ p ++ ['/'], T.length, h⟩ : PathReader).close kind true).text := by
  by_cases hd : isDoubleDot p = true
  · obtain ⟨segs', hT'⟩ := hT.shorten_double
    have hl := hT'.getLast?
    simp only [beq_iff_eq, Bool.and_eq_true] at hT' hl
    refine ⟨segs', ?_⟩
    simpa [PathReader.close, hd, hfile, hl] using hT'
  by_cases hs : isSingleDot p = true
  · refine ⟨segs, ?_⟩
    simpa [PathReader.close, hd, hs, hT.getLast?] using hT
  · have hc : Clean kind p := ⟨hp, by simpa using hs, by simpa using hd⟩
    rw [close_clean_slash hfile hc]
    exact ⟨segs ++ [p], hT.snoc hc⟩

end Close

/-! ## 4. Reading, one character at a time -/

section Steps

variable {kind : PathKind}

theorem read_nil (whole : Bool) (r : PathReader) :
    PathReader.read kind whole r [] = (r.close kind false, []) := by
  rw [PathReader.read]

/-- A slash, or a backslash in a special path, closes the segment being read. -/
theorem read_separator {c : Char} (hc : c = '/' ∨ (kind.isSpecial = true ∧ c = '\\'))
    (r : PathReader) (rest : List Char) :
    PathReader.read kind false r (c :: rest) =
      PathReader.read kind false
        { (({ r with text := r.text ++ ['/'] } : PathReader).close kind true) with
          start := (({ r with text := r.text ++ ['/'] } : PathReader).close kind true).text.length }
        rest := by
  have hsep : (c == '/' || (kind.isSpecial && c == '\\')) = true := by
    rcases hc with rfl | ⟨hk, rfl⟩
    · simp
    · simp [hk]
  rw [PathReader.read, if_pos (by simpa using hsep)]

/-- A `?` or a `#` ends the path. -/
theorem read_stop {c : Char} (hc : c = '?' ∨ c = '#') (r : PathReader) (rest : List Char) :
    PathReader.read kind false r (c :: rest) = (r.close kind false, c :: rest) := by
  rcases hc with rfl | rfl <;> simp [PathReader.read]

/-- Any other character is written into the segment being read. -/
theorem read_other {c : Char} (h1 : c ≠ '/') (h2 : kind.isSpecial = true → c ≠ '\\')
    (h3 : c ≠ '?') (h4 : c ≠ '#') (r : PathReader) (rest : List Char) :
    PathReader.read kind false r (c :: rest) = PathReader.read kind false (r.add kind pathSet c) rest := by
  have hsep : ¬(c == '/' || (kind.isSpecial && c == '\\')) = true := by
    cases hk : kind.isSpecial
    · simp [h1]
    · simp [h1, h2 hk]
  rw [PathReader.read, if_neg (by simpa using hsep), if_neg (by simp [h3, h4])]
  rfl

theorem add_of_not_file (hfile : kind.isFile = false) (set : EncodeSet) (r : PathReader) (c : Char) :
    r.add kind set c = { r with text := r.text ++ (encodeChar set c).toList } := by
  simp [PathReader.add, hfile]

/-- **Characters that stand as they are go into the segment one by one.** -/
theorem read_chars (hfile : kind.isFile = false) :
    ∀ {s : List Char}, (∀ c ∈ s, SegmentChar kind c) → ∀ (t : List Char) (n : Nat) (h : Bool)
      (more : List Char),
      PathReader.read kind false ⟨t, n, h⟩ (s ++ more) = PathReader.read kind false ⟨t ++ s, n, h⟩ more
  | [], _, t, n, h, more => by rw [List.nil_append, List.append_nil]
  | c :: s, hs, t, n, h, more => by
    have hc := hs c List.mem_cons_self
    rw [List.cons_append, read_other hc.ne_slash hc.2.2 hc.ne_stop.1 hc.ne_stop.2,
      add_of_not_file hfile, encodeChar_keeps hc.1, String.toList_singleton]
    rw [read_chars hfile (fun d hd => hs d (List.mem_cons_of_mem c hd)), List.append_assoc,
      List.singleton_append]

end Steps

/-! ## 5. What reading leaves

Whatever the input, a reading outside file paths that starts at a closed text leaves a path
in form, and keeps the host. The induction runs over the input; the invariant is that the text
up to the segment being read is closed and the segment holds characters that stand as they
are. -/

theorem segmentChar_of_encodeChar {kind : PathKind} {c d : Char} (h1 : c ≠ '/')
    (h2 : kind.isSpecial = true → c ≠ '\\') (hd : d ∈ (encodeChar pathSet c).toList) :
    SegmentChar kind d := by
  rcases mem_encodeChar hd with ⟨rfl, hk⟩ | h
  · exact ⟨hk, h1, h2⟩
  · exact segmentChar_of_written h

/-- **A reading outside file paths leaves a path in form**, and keeps the host. -/
theorem read_leaves_pathForm {kind : PathKind} (hfile : kind.isFile = false) :
    ∀ (input : List Char) {segs : List (List Char)} {T p : List Char} (h : Bool),
      Segmented kind segs T → (∀ c ∈ p, SegmentChar kind c) →
      PathForm kind (PathReader.read kind false ⟨T ++ p, T.length, h⟩ input).1.text ∧
        (PathReader.read kind false ⟨T ++ p, T.length, h⟩ input).1.hasHost = h
  | [], _, T, p, h, hT, hp => by
    rw [read_nil]
    exact ⟨close_end_pathForm hfile hT hp h, close_hasHost hfile _ false⟩
  | c :: rest, _, T, p, h, hT, hp => by
    by_cases hsep : c = '/' ∨ (kind.isSpecial = true ∧ c = '\\')
    · -- the segment closes; reading goes on after the closed text it leaves
      rw [read_separator hsep]
      dsimp only
      obtain ⟨segs', hT'⟩ := close_slash_segmented hfile hT hp h
      have hhost := close_hasHost hfile (⟨T ++ p ++ ['/'], T.length, h⟩ : PathReader) true
      revert hT' hhost
      generalize PathReader.close kind ⟨T ++ p ++ ['/'], T.length, h⟩ true = r'
      obtain ⟨text', start', host'⟩ := r'
      rintro hT' (rfl : host' = h)
      simpa using read_leaves_pathForm hfile rest (p := []) host' hT'
        (fun _ hc => absurd hc List.not_mem_nil)
    by_cases hstop : c = '?' ∨ c = '#'
    · rw [read_stop hstop]
      exact ⟨close_end_pathForm hfile hT hp h, close_hasHost hfile _ false⟩
    · have h1 : c ≠ '/' := fun he => hsep (.inl he)
      have h2 : kind.isSpecial = true → c ≠ '\\' := fun hk he => hsep (.inr ⟨hk, he⟩)
      rw [read_other h1 h2 (fun he => hstop (.inl he)) (fun he => hstop (.inr he)),
        add_of_not_file hfile]
      have ih := read_leaves_pathForm hfile rest (p := p ++ (encodeChar pathSet c).toList) h hT
        (fun d hd => (List.mem_append.1 hd).elim (hp d) (segmentChar_of_encodeChar h1 h2))
      simpa only [List.append_assoc] using ih

/-! ## 6. Reading a path in form again -/

/-- Reading the closed segments of a text after its root slash comes to the text itself. -/
theorem Segmented.read_tail {kind : PathKind} (hfile : kind.isFile = false)
    {segs : List (List Char)} {T : List Char} (hT : Segmented kind segs T) (h : Bool)
    (more : List Char) :
    PathReader.read kind false ⟨['/'], 1, h⟩ (T.tail ++ more) =
      PathReader.read kind false ⟨T, T.length, h⟩ more := by
  induction hT generalizing more with
  | root => rfl
  | @snoc segs t s ht hs ih =>
    have htail : (t ++ s ++ ['/']).tail ++ more = t.tail ++ (s ++ '/' :: more) := by
      rw [List.append_assoc, List.tail_append_of_ne_nil ht.ne_nil]
      simp
    rw [htail, ih, read_chars hfile hs.chars, read_separator (.inl rfl)]
    dsimp only
    rw [close_clean_slash hfile hs]

/-- **A path in form reads as itself**, up to where the input goes on with a query, a fragment
    or nothing. -/
theorem read_pathForm {kind : PathKind} (hfile : kind.isFile = false) {segs : List (List Char)}
    {T s : List Char} (hT : Segmented kind segs T) (hs : Clean kind s) (h : Bool) {rest : List Char}
    (hrest : Stops rest) :
    PathReader.read kind false ⟨['/'], 1, h⟩ ((T ++ s).tail ++ rest) = (⟨T ++ s, T.length, h⟩, rest) := by
  obtain ⟨c, t', hT'⟩ := List.exists_cons_of_ne_nil hT.ne_nil
  have htail : (T ++ s).tail ++ rest = T.tail ++ (s ++ rest) := by simp [hT']
  rw [htail, hT.read_tail hfile, read_chars hfile hs.chars]
  rcases hrest.eq with rfl | ⟨d, tl, hd, rfl⟩
  · rw [read_nil, close_clean_end hfile hs]
  · rw [read_stop hd, close_clean_end hfile hs]

/-! ## 7. Where any reading stops -/

/-- **Reading stops at the first `?` or `#`**, in a path of any kind. -/
theorem read_rest (kind : PathKind) :
    ∀ {X : List Char}, (∀ c ∈ X, c ≠ '?' ∧ c ≠ '#') → ∀ (r : PathReader) {rest : List Char},
      Stops rest → (PathReader.read kind false r (X ++ rest)).2 = rest
  | [], _, r, rest, hrest => by
    rcases hrest.eq with rfl | ⟨d, tl, hd, rfl⟩
    · rfl
    · rw [List.nil_append, read_stop hd]
  | c :: X, hX, r, rest, hrest => by
    have hc := hX c List.mem_cons_self
    have hX' : ∀ d ∈ X, d ≠ '?' ∧ d ≠ '#' := fun d hd => hX d (List.mem_cons_of_mem c hd)
    rw [List.cons_append]
    by_cases hsep : c = '/' ∨ (kind.isSpecial = true ∧ c = '\\')
    · rw [read_separator hsep]
      exact read_rest kind hX' _ hrest
    · rw [read_other (fun he => hsep (.inl he)) (fun hk he => hsep (.inr ⟨hk, he⟩)) hc.1 hc.2]
      exact read_rest kind hX' _ hrest

/-! ## 8. The path of a reading, and the edits it takes

A reading starts at the root slash, or, in a URL that is not special, at nothing before a
slash, which comes to the same. Dropping a trailing slash and adding a segment whole keep a
path in form, and say what becomes of its segments. -/

section Edits

variable {kind : PathKind} (hfile : kind.isFile = false)
include hfile

/-- A reading that starts at nothing before a slash reads on from the root slash. -/
theorem read_root (h : Bool) (more : List Char) :
    PathReader.read kind false ⟨[], 0, h⟩ ('/' :: more) = PathReader.read kind false ⟨['/'], 1, h⟩ more := by
  have hclose : (⟨['/'], 0, h⟩ : PathReader).close kind true = ⟨['/'], 0, h⟩ :=
    close_clean_slash hfile (T := []) (clean_nil kind) h
  rw [read_separator (.inl rfl)]
  dsimp only
  rw [List.nil_append, hclose]
  rfl

theorem readPath_root (h : Bool) (more : List Char) :
    readPath kind false [] h ('/' :: more) = readPath kind false ['/'] h more := by
  simp only [readPath, List.length_nil, read_root hfile, List.length_singleton]

/-- **A path read from the root slash is in form.** -/
theorem readPath_pathForm (h : Bool) (input : List Char) :
    PathForm kind (readPath kind false ['/'] h input).1 := by
  have := (read_leaves_pathForm hfile input (p := []) h Segmented.root
    (fun _ hc => absurd hc List.not_mem_nil)).1
  simpa [readPath, hfile] using this

/-- A segment added whole, written with characters that stand as they are. -/
theorem read_whole_chars :
    ∀ {s : List Char}, (∀ c ∈ s, Keeps specialSegmentSet c) → ∀ (t : List Char) (n : Nat) (h : Bool),
      PathReader.read kind true ⟨t, n, h⟩ s = PathReader.read kind true ⟨t ++ s, n, h⟩ []
  | [], _, t, n, h => by rw [List.append_nil]
  | c :: s, hs, t, n, h => by
    have hc := hs c List.mem_cons_self
    -- kept by the larger set, so by the set of either kind
    have hkeep : Keeps (if kind.isSpecial then specialSegmentSet else segmentSet) c := by
      refine ⟨hc.1, ?_⟩
      have h2 := hc.2
      split
      · exact h2
      · simp only [specialSegmentSet, Bool.or_eq_false_iff] at h2
        exact h2.1
    rw [PathReader.read.eq_2, if_neg (by simp), if_neg (by simp)]
    simp only [Bool.not_true, Bool.false_eq_true, if_false]
    rw [add_of_not_file hfile, encodeChar_keeps hkeep, String.toList_singleton,
      read_whole_chars (fun d hd => hs d (List.mem_cons_of_mem c hd)), List.append_assoc,
      List.singleton_append]

/-- **Adding a segment whole** that is written as it stands: a slash, unless the path is only
    its root slash, then the segment. -/
theorem pushSegment_name {name : String} (hname : (name == "." || name == "..") = false)
    (hkeep : ∀ c ∈ name.toList, Keeps specialSegmentSet c) (hclean : Clean kind name.toList)
    (t : List Char) :
    pushSegment kind t name = (if t.length > 1 || t.isEmpty then t ++ ['/'] else t) ++ name.toList := by
  have hfilter : name.toList.filter (!isTabOrNewline ·) = name.toList := by
    refine List.filter_eq_self.2 fun c hc => ?_
    have := (hkeep c hc).2
    simp only [specialSegmentSet, segmentSet, pathSet, fragmentSet, controls, Bool.or_eq_false_iff,
      decide_eq_false_iff_not] at this
    have hlt := this.1.1.1.1.1
    simp only [isTabOrNewline, Bool.not_eq_true', Bool.or_eq_false_iff, beq_eq_false_iff_ne, ne_eq]
    refine ⟨⟨?_, ?_⟩, ?_⟩ <;> rintro rfl <;> exact hlt (by decide)
  rw [pushSegment, hname]
  simp only [Bool.false_eq_true, if_false, hfilter, readPath, hfile]
  rw [read_whole_chars hfile hkeep, read_nil, close_clean_end hfile hclean]

end Edits

/-! ## 9. Every path is written in the path set

In a path of any kind, file paths included, every character is one the path set keeps: what
reading writes is percent-encoded by the path set or a smaller one, and the slashes and the
colon of a drive letter are kept. So no path holds a `?` or a `#`. -/

/-- A text of characters the path set keeps. -/
def PathChars (t : List Char) : Prop := ∀ c ∈ t, Keeps pathSet c

theorem PathChars.append {t u : List Char} (ht : PathChars t) (hu : PathChars u) :
    PathChars (t ++ u) := fun c hc => (List.mem_append.1 hc).elim (ht c) (hu c)

theorem PathChars.sub {t u : List Char} (ht : PathChars t) (h : ∀ c ∈ u, c ∈ t) : PathChars u :=
  fun c hc => ht c (h c hc)

theorem pathChars_slash : PathChars ['/'] := by
  simp [PathChars, Keeps, pathSet, fragmentSet, controls, among_eq]

theorem pathChars_colon : PathChars [':'] := by
  simp [PathChars, Keeps, pathSet, fragmentSet, controls, among_eq]

theorem PathChars.ne_stop {t : List Char} (h : PathChars t) : ∀ c ∈ t, c ≠ '?' ∧ c ≠ '#' := by
  intro c hc
  have := (h c hc).2
  constructor <;> rintro rfl <;> simp [pathSet, fragmentSet, controls, among_eq] at this

theorem mem_popSegment {file : Bool} {t : List Char} {c : Char} (h : c ∈ popSegment file t) : c ∈ t := by
  unfold popSegment at h
  split at h
  · split at h
    · exact h
    · exact List.mem_of_mem_take h
  · exact h

theorem mem_shorten {file : Bool} {t : List Char} {c : Char} (h : c ∈ shorten file t) : c ∈ t := by
  unfold shorten at h
  split at h
  · exact h
  · exact mem_popSegment h

/-- Characters of a segment added by an encoding that keeps no more than the path set does. -/
theorem pathChars_encodeChar {set : EncodeSet} (hset : ∀ c, Keeps set c → Keeps pathSet c) (c : Char) :
    PathChars (encodeChar set c).toList := by
  intro d hd
  rcases mem_encodeChar hd with ⟨rfl, hk⟩ | h
  · exact hset d hk
  · exact (@segmentChar_of_written .plain d h).1

theorem mem_shorten_take {file : Bool} {t : List Char} {n : Nat} {c : Char}
    (h : c ∈ shorten file (t.take n)) : c ∈ t :=
  List.mem_of_mem_take (mem_shorten h)

theorem mem_shorten_dropLast {file : Bool} {t : List Char} {n : Nat} {c : Char}
    (h : c ∈ shorten file (t.take n).dropLast) : c ∈ t :=
  List.mem_of_mem_take (List.dropLast_subset _ (mem_shorten h))

/-- What closing a segment writes: characters it had, slashes, and the colon of a drive
    letter. -/
theorem mem_close {kind : PathKind} {r : PathReader} {slash : Bool} {c : Char}
    (h : c ∈ (r.close kind slash).text) : c ∈ r.text ∨ c = '/' ∨ c = ':' := by
  unfold PathReader.close at h
  -- the segment is part of the text, whether a slash ends it or not
  generalize hseg : (if slash then (r.text.drop r.start).dropLast else r.text.drop r.start) = segment at h
  have hsub : ∀ d ∈ segment, d ∈ r.text := by
    intro d hd
    rw [← hseg] at hd
    split at hd
    · exact List.mem_of_mem_drop (List.dropLast_subset _ hd)
    · exact List.mem_of_mem_drop hd
  dsimp only at h
  -- one case per way to close: `..` (slash removed or not, slash added or not), `.`, a drive
  -- letter, or the segment kept
  split_ifs at h
  · simp only [List.mem_append, List.mem_singleton] at h
    exact h.elim (.inl ∘ mem_shorten_dropLast) (.inr ∘ .inl)
  · exact .inl (mem_shorten_dropLast h)
  · simp only [List.mem_append, List.mem_singleton] at h
    exact h.elim (.inl ∘ mem_shorten_take) (.inr ∘ .inl)
  · exact .inl (mem_shorten_take h)
  · simp only [List.mem_append, List.mem_singleton] at h
    exact h.elim (.inl ∘ List.mem_of_mem_take) (.inr ∘ .inl)
  · exact .inl (List.mem_of_mem_take h)
  · simp only [List.mem_append, List.mem_singleton] at h
    rcases h with ((h | h) | rfl) | rfl
    · exact .inl (List.mem_of_mem_take h)
    · exact .inl (hsub c (List.mem_of_mem_take h))
    · exact .inr (.inr rfl)
    · exact .inr (.inl rfl)
  · simp only [List.mem_append, List.mem_singleton, List.not_mem_nil, or_false] at h
    rcases h with (h | h) | rfl
    · exact .inl (List.mem_of_mem_take h)
    · exact .inl (hsub c (List.mem_of_mem_take h))
    · exact .inr (.inr rfl)
  · exact .inl h

theorem PathChars.close {r : PathReader} (h : PathChars r.text) (kind : PathKind) (slash : Bool) :
    PathChars (r.close kind slash).text := by
  intro c hc
  rcases mem_close hc with hc | rfl | rfl
  · exact h c hc
  · exact pathChars_slash _ List.mem_cons_self
  · exact pathChars_colon _ List.mem_cons_self

theorem PathChars.add {r : PathReader} (h : PathChars r.text) (kind : PathKind) {set : EncodeSet}
    (hset : ∀ c, Keeps set c → Keeps pathSet c) (c : Char) : PathChars (r.add kind set c).text := by
  unfold PathReader.add
  dsimp only
  refine PathChars.append ?_ (pathChars_encodeChar hset c)
  split
  · exact h.append pathChars_slash
  · exact h

theorem keeps_pathSet_of_segmentSet {c : Char} (h : Keeps segmentSet c) : Keeps pathSet c := by
  refine ⟨h.1, ?_⟩
  have := h.2
  simp only [segmentSet, Bool.or_eq_false_iff] at this
  exact this.1

theorem keeps_pathSet_of_specialSegmentSet {c : Char} (h : Keeps specialSegmentSet c) :
    Keeps pathSet c := by
  refine keeps_pathSet_of_segmentSet ⟨h.1, ?_⟩
  have := h.2
  simp only [specialSegmentSet, Bool.or_eq_false_iff] at this
  exact this.1

/-- **A reading writes only what the path set keeps.** -/
theorem PathChars.read (kind : PathKind) (whole : Bool) :
    ∀ (input : List Char) {r : PathReader}, PathChars r.text →
      PathChars (PathReader.read kind whole r input).1.text
  | [], r, h => by
    rw [read_nil]
    exact h.close kind false
  | c :: rest, r, h => by
    rw [PathReader.read.eq_2]
    split
    · exact PathChars.read kind whole rest
        ((h.append pathChars_slash).close kind true)
    split
    · exact h.close kind false
    · refine PathChars.read kind whole rest (h.add kind ?_ c)
      intro d hd
      split at hd
      · exact hd
      · split at hd
        · exact keeps_pathSet_of_specialSegmentSet hd
        · exact keeps_pathSet_of_segmentSet hd

theorem PathChars.readPath {text : List Char} (h : PathChars text) (kind : PathKind) (whole : Bool)
    (hasHost : Bool) (input : List Char) : PathChars (Url.readPath kind whole text hasHost input).1 := by
  have hr := PathChars.read kind whole input (r := ⟨text, text.length, hasHost⟩) h
  unfold Url.readPath
  dsimp only
  split
  · exact pathChars_slash.append (hr.sub fun _ hc => List.dropWhile_subset _ hc)
  · exact hr

end SmartHelmet.Url
