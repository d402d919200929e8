import SmartHelmet.Proofs.Json.Success
/-!
# The text of strings

A string's text, between its quotes, is a run of pieces: bytes that stand for themselves, and
escapes. The two string readers accept different runs of them:

* `Piece`, `Piece.valid`, `Piece.texts` — the pieces JSON allows: a byte stands for itself unless
  it is a control byte, the quote or the backslash (bytes from 128 up included); an escape is a
  backslash and one of eight letters, or `\u` and four hexadecimal digits;
* `Piece.decode` — the bytes the pieces stand for, a `\u` escape as the UTF-8 of its code unit
  and a surrogate pair of them as the UTF-8 of its code point; a surrogate on its own stands for
  nothing;
* `LaxString` — what a skipped string holds: valid pieces, nothing more (`skipString_ok`,
  `skipString_reads`);
* `KeyString` — what a key's string holds, and the name it reads as: valid pieces whose bytes,
  decoded, are UTF-8 (`readString_ok`, `readString_reads`, `readKey_ok`, `readKey_reads`).
-/

namespace SmartHelmet.Json

/-! ## 1. Pieces -/

/-- The letters of the short escapes: quote, backslash, slash, `b`, `f`, `n`, `r`, `t`. -/
def shortEscapes : Bytes := [34, 92, 47, 98, 102, 110, 114, 116]

/-- A piece of a string's text: a byte that stands for itself, a backslash and a letter, or `\u`
    and four digits. -/
inductive Piece where
  | raw (b : UInt8)
  | short (e : UInt8)
  | unicode (h₁ h₂ h₃ h₄ : UInt8)
  deriving DecidableEq

namespace Piece

/-- A piece as it is written. -/
def text : Piece → Bytes
  | raw b => [b]
  | short e => [92, e]
  | unicode h₁ h₂ h₃ h₄ => [92, 117, h₁, h₂, h₃, h₄]

/-- Pieces one after the other. -/
def texts (ps : List Piece) : Bytes := ps.flatMap text

/-- **A piece as JSON allows it**: no control byte, quote or backslash stands for itself; a short
    escape has one of the eight letters; a `\u` escape has four hexadecimal digits. -/
def valid : Piece → Bool
  | raw b => 32 ≤ b && b != 34 && b != 92
  | short e => shortEscapes.contains e
  | unicode h₁ h₂ h₃ h₄ => [h₁, h₂, h₃, h₄].all fun h => (hexValue h).isSome

/-- The code unit four hexadecimal digits write. -/
def unit (h₁ h₂ h₃ h₄ : UInt8) : Nat :=
  (((hexValue h₁).getD 0 * 16 + (hexValue h₂).getD 0) * 16 + (hexValue h₃).getD 0) * 16 +
    (hexValue h₄).getD 0

/-- The byte a short escape stands for. -/
def shortValue (e : UInt8) : UInt8 :=
  if e = 98 then 8 else if e = 102 then 12 else if e = 110 then 10 else if e = 114 then 13
  else if e = 116 then 9 else e

/-- A code unit of the low half of a surrogate pair. -/
def isLow (n : Nat) : Bool := 0xDC00 ≤ n && n ≤ 0xDFFF

/-- A code unit of the high half of a surrogate pair. -/
def isHigh (n : Nat) : Bool := 0xD800 ≤ n && n ≤ 0xDBFF

/-- The code point a surrogate pair stands for. -/
def pair (n m : Nat) : Nat := 0x10000 + (n - 0xD800) * 1024 + (m - 0xDC00)

/-- The UTF-8 of a code point. -/
def utf8 (n : Nat) : Bytes := Text.Utf8.encode (String.singleton (Char.ofNat n))

/-- **The bytes a run of pieces stands for**: a raw byte itself, a short escape its byte, a `\u`
    escape the UTF-8 of its code unit, and a high surrogate followed by an escaped low one the
    UTF-8 of their code point; none where a surrogate stands alone. -/
def decode : List Piece → Option Bytes
  | [] => some []
  | raw b :: ps => (b :: ·) <$> decode ps
  | short e :: ps => (shortValue e :: ·) <$> decode ps
  | unicode h₁ h₂ h₃ h₄ :: ps =>
    if isLow (unit h₁ h₂ h₃ h₄) then none
    else if !isHigh (unit h₁ h₂ h₃ h₄) then (utf8 (unit h₁ h₂ h₃ h₄) ++ ·) <$> decode ps
    else match ps with
      | unicode l₁ l₂ l₃ l₄ :: ps' =>
        if isLow (unit l₁ l₂ l₃ l₄) then
          (utf8 (pair (unit h₁ h₂ h₃ h₄) (unit l₁ l₂ l₃ l₄)) ++ ·) <$> decode ps'
        else none
      | _ => none

@[simp] theorem decode_nil : decode [] = some [] := rfl

@[simp] theorem decode_raw (b : UInt8) (ps : List Piece) :
    decode (raw b :: ps) = (b :: ·) <$> decode ps := rfl

@[simp] theorem decode_short (e : UInt8) (ps : List Piece) :
    decode (short e :: ps) = (shortValue e :: ·) <$> decode ps := rfl

theorem decode_low {h₁ h₂ h₃ h₄ : UInt8} (hl : isLow (unit h₁ h₂ h₃ h₄) = true)
    (ps : List Piece) : decode (unicode h₁ h₂ h₃ h₄ :: ps) = none := by
  rcases ps with _ | ⟨_ | _ | _, ps⟩ <;> simp [decode, hl]

/-- A code unit that is no surrogate stands for its own UTF-8. -/
theorem decode_single {h₁ h₂ h₃ h₄ : UInt8} (hl : isLow (unit h₁ h₂ h₃ h₄) = false)
    (hh : isHigh (unit h₁ h₂ h₃ h₄) = false) (ps : List Piece) :
    decode (unicode h₁ h₂ h₃ h₄ :: ps) = (utf8 (unit h₁ h₂ h₃ h₄) ++ ·) <$> decode ps := by
  rcases ps with _ | ⟨_ | _ | _, ps⟩ <;> simp [decode, hl, hh]

/-- A high surrogate and the low one after it stand for the UTF-8 of their code point. -/
theorem decode_pair {h₁ h₂ h₃ h₄ l₁ l₂ l₃ l₄ : UInt8} (hh : isHigh (unit h₁ h₂ h₃ h₄) = true)
    (hl : isLow (unit l₁ l₂ l₃ l₄) = true) (ps : List Piece) :
    decode (unicode h₁ h₂ h₃ h₄ :: unicode l₁ l₂ l₃ l₄ :: ps) =
      (utf8 (pair (unit h₁ h₂ h₃ h₄) (unit l₁ l₂ l₃ l₄)) ++ ·) <$> decode ps := by
  have hl' : isLow (unit h₁ h₂ h₃ h₄) = false := by
    simp only [isHigh, Bool.and_eq_true, decide_eq_true_eq] at hh
    simp only [isLow, Bool.and_eq_false_iff, decide_eq_false_iff_not, Nat.not_le]
    omega
  simp [decode, hl', hh, hl]

/-- A high surrogate with no escaped low one right after it stands for nothing. -/
theorem decode_high_alone {h₁ h₂ h₃ h₄ : UInt8} (hh : isHigh (unit h₁ h₂ h₃ h₄) = true)
    {ps : List Piece}
    (hps : ∀ l₁ l₂ l₃ l₄ ps', ps = unicode l₁ l₂ l₃ l₄ :: ps' → isLow (unit l₁ l₂ l₃ l₄) = false) :
    decode (unicode h₁ h₂ h₃ h₄ :: ps) = none := by
  have hl' : isLow (unit h₁ h₂ h₃ h₄) = false := by
    simp only [isHigh, Bool.and_eq_true, decide_eq_true_eq] at hh
    simp only [isLow, Bool.and_eq_false_iff, decide_eq_false_iff_not, Nat.not_le]
    omega
  rcases ps with _ | ⟨_ | _ | ⟨l₁, l₂, l₃, l₄⟩, ps⟩
  · simp [decode, hl', hh]
  · simp [decode, hl', hh]
  · simp [decode, hl', hh]
  · simp [decode, hl', hh, hps l₁ l₂ l₃ l₄ ps rfl]

@[simp] theorem texts_nil : texts [] = [] := rfl

@[simp] theorem texts_cons (p : Piece) (ps : List Piece) : texts (p :: ps) = p.text ++ texts ps :=
  List.flatMap_cons

@[simp] theorem texts_append (ps qs : List Piece) : texts (ps ++ qs) = texts ps ++ texts qs :=
  List.flatMap_append

/-- A byte the string loops keep as it is: no quote, no backslash, no control byte. -/
theorem valid_raw_of {b : UInt8} (hq : ¬(b == 34) = true) (hb : ¬(b == 92) = true)
    (hctl : ¬b < 32) : (raw b).valid := by
  have h32 : 32 ≤ b := UInt8.not_lt.1 hctl
  have h34 : b ≠ 34 := fun e => hq (by simp [e])
  have h92 : b ≠ 92 := fun e => hb (by simp [e])
  simp [valid, h32, h34, h92]

theorem text_length_pos (p : Piece) : 0 < p.text.length := by
  cases p <;> simp [text]

/-- A valid piece that stands for itself is no backslash, so every piece that starts with one is
    an escape. -/
theorem raw_ne_escape {b : UInt8} (hv : (raw b).valid) {tail : Bytes} :
    (raw b).text ≠ 92 :: tail := by
  simp only [valid, Bool.and_eq_true, decide_eq_true_eq, bne_iff_ne, ne_eq] at hv
  intro h
  simp only [text, List.cons.injEq] at h
  exact hv.2 h.1

theorem valid_unicode {h₁ h₂ h₃ h₄ : UInt8} :
    (unicode h₁ h₂ h₃ h₄).valid = true ↔ (hexValue h₁).isSome ∧ (hexValue h₂).isSome ∧
      (hexValue h₃).isSome ∧ (hexValue h₄).isSome := by
  simp [valid]

theorem shortEscapes_contains (e : UInt8) :
    shortEscapes.contains e = (e == 34 || e == 92 || e == 47 || e == 98 || e == 102 || e == 110 ||
      e == 114 || e == 116) := by
  simp only [shortEscapes, List.contains, List.elem]
  cases e == 34 <;> cases e == 92 <;> cases e == 47 <;> cases e == 98 <;> cases e == 102 <;>
    cases e == 110 <;> cases e == 114 <;> cases e == 116 <;> rfl

end Piece

open Piece

/-- **What a skipped string holds** after its opening quote: valid pieces, then the closing
    quote. -/
def LaxString (bs : Bytes) : Prop := ∃ ps : List Piece, (∀ p ∈ ps, p.valid) ∧ bs = texts ps ++ [34]

/-- **What a key's string holds** after its opening quote, and the name it reads as: valid pieces
    whose bytes, decoded, are the UTF-8 of the name, then the closing quote. -/
def KeyString (bs : Bytes) (name : String) : Prop :=
  ∃ ps : List Piece, (∀ p ∈ ps, p.valid) ∧ bs = texts ps ++ [34] ∧
    (Piece.decode ps).bind Text.Utf8.decode? = some name

/-! ## 2. Escapes -/

variable {c c' : Cursor} {d : Nat} {rest : Bytes}

theorem nextInString_ok {e : UInt8} (h : nextInString.run c = .ok e c') : Consumed c c' [e] := by
  unfold nextInString at h
  obtain ⟨o, c₁, h₁, h₂⟩ := run_bind_ok h
  obtain ⟨rfl, rfl⟩ := next_ok h₁
  cases hc : c.rest with
  | nil => rw [hc] at h₂; exact absurd h₂ (Refused.run_ne_ok (fail_refused _))
  | cons b t =>
    rw [hc] at h₂
    obtain ⟨rfl, rfl⟩ := run_pure_ok h₂
    exact Consumed.bump hc

theorem nextInString_reads (e : UInt8) : Reads nextInString d [e] rest e := by
  unfold nextInString
  exact (next_reads e).bind (Reads.pure e) rfl

theorem peekInString_ok {e : UInt8} (h : peekInString.run c = .ok e c') :
    c.rest.head? = some e ∧ c = c' := by
  unfold peekInString at h
  obtain ⟨o, c₁, h₁, h₂⟩ := run_bind_ok h
  obtain ⟨rfl, rfl⟩ := peek_ok h₁
  cases hc : c.rest with
  | nil => rw [hc] at h₂; exact absurd h₂ (Refused.run_ne_ok (fail_refused _))
  | cons b t =>
    rw [hc] at h₂
    obtain ⟨rfl, rfl⟩ := run_pure_ok h₂
    exact ⟨rfl, rfl⟩

theorem peekInString_reads (e : UInt8) : Reads peekInString d [] (e :: rest) e := by
  have hpeek : Reads peek d [] (e :: rest) (some e) := peek_reads
  unfold peekInString
  exact hpeek.bind (Reads.pure e) rfl

/-- **Four hexadecimal digits**: what a success took, and the code unit it answered. -/
theorem hexEscape_ok {n : Nat} (h : hexEscape.run c = .ok n c') :
    ∃ h₁ h₂ h₃ h₄, (unicode h₁ h₂ h₃ h₄).valid ∧ n = unit h₁ h₂ h₃ h₄ ∧
      Consumed c c' [h₁, h₂, h₃, h₄] := by
  unfold hexEscape at h
  have h := get_bind_run_ok h
  split at h
  · rename_i a b e f t hc
    -- the four bytes are taken first, then checked
    obtain ⟨_, c₁, hb₁, h⟩ := run_bind_ok h
    obtain ⟨_, c₂, hb₂, h⟩ := run_bind_ok h
    obtain ⟨_, c₃, hb₃, h⟩ := run_bind_ok h
    obtain ⟨_, c₄, hb₄, h⟩ := run_bind_ok h
    cases bump_ok hb₁; cases bump_ok hb₂; cases bump_ok hb₃; cases bump_ok hb₄
    have r₁ : c.bump.rest = b :: e :: f :: t := by simp [hc]
    have r₂ : c.bump.bump.rest = e :: f :: t := by simp [hc]
    have r₃ : c.bump.bump.bump.rest = f :: t := by simp [hc]
    have hcons : Consumed c c.bump.bump.bump.bump [a, b, e, f] :=
      (Consumed.bump hc).trans <| (Consumed.bump r₁).trans <| (Consumed.bump r₂).trans
        (Consumed.bump r₃)
    split at h
    · rename_i va vb ve vf ha hb he hf
      obtain ⟨rfl, rfl⟩ := run_pure_ok h
      exact ⟨a, b, e, f, by simp [valid_unicode, ha, hb, he, hf], by simp [unit, ha, hb, he, hf],
        hcons⟩
    · exact absurd h (Refused.run_ne_ok (fail_refused _))
  · obtain ⟨_, _, _, h⟩ := run_bind_ok h
    exact absurd h (Refused.run_ne_ok (fail_refused _))

theorem hexEscape_reads {h₁ h₂ h₃ h₄ : UInt8} (hv : (unicode h₁ h₂ h₃ h₄).valid) :
    Reads hexEscape d [h₁, h₂, h₃, h₄] rest (unit h₁ h₂ h₃ h₄) := by
  obtain ⟨⟨v₁, hv₁⟩, ⟨v₂, hv₂⟩, ⟨v₃, hv₃⟩, ⟨v₄, hv₄⟩⟩ := by
    simpa only [valid_unicode, Option.isSome_iff_exists] using hv
  unfold hexEscape
  refine Reads.get_bind fun c hc => ?_
  simp only [hc, List.cons_append]
  refine (bump_reads h₁).bind ((bump_reads h₂).bind ((bump_reads h₃).bind
    ((bump_reads h₄).bind ?_ rfl) rfl) rfl) rfl
  simp only [hv₁, hv₂, hv₃, hv₄]
  rw [show unit h₁ h₂ h₃ h₄ = ((v₁ * 16 + v₂) * 16 + v₃) * 16 + v₄ by
    simp [unit, hv₁, hv₂, hv₃, hv₄]]
  exact Reads.pure _

/-- **An escape in a skipped string**, after its backslash: a success took the rest of one valid
    escape. -/
theorem skipEscape_ok {u : Unit} (h : skipEscape.run c = .ok u c') :
    ∃ (p : Piece) (tail : Bytes), p.valid ∧ p.text = 92 :: tail ∧ Consumed c c' tail := by
  unfold skipEscape at h
  obtain ⟨e, c₁, h₁, h⟩ := run_bind_ok h
  have hcons₁ := nextInString_ok h₁
  split at h
  · rename_i hs
    obtain ⟨-, rfl⟩ := run_pure_ok h
    have hv : (short e).valid := by
      show shortEscapes.contains e = true
      rw [shortEscapes_contains]
      exact hs
    exact ⟨short e, [e], hv, rfl, hcons₁⟩
  · split at h
    · rename_i hu
      obtain ⟨n, c₂, h₂, h⟩ := run_bind_ok h
      obtain ⟨-, rfl⟩ := run_pure_ok h
      obtain ⟨a, b, e', f, hv, -, hcons₂⟩ := hexEscape_ok h₂
      rw [beq_iff_eq] at hu
      subst hu
      exact ⟨unicode a b e' f, _, hv, rfl, hcons₁.trans hcons₂⟩
    · exact absurd h (Refused.run_ne_ok (fail_refused _))

theorem skipEscape_reads {p : Piece} {tail : Bytes} (hv : p.valid) (ht : p.text = 92 :: tail) :
    Reads skipEscape d tail rest () := by
  unfold skipEscape
  cases p with
  | raw b => exact absurd ht (raw_ne_escape hv)
  | short e =>
    obtain rfl : tail = [e] := by simpa [text] using ht.symm
    have hs : (e == 34 || e == 92 || e == 47 || e == 98 || e == 102 || e == 110 || e == 114 ||
        e == 116) = true := by rw [← shortEscapes_contains]; exact hv
    refine ((nextInString_reads e).bind ?_ rfl).congr (List.append_nil _)
    rw [if_pos hs]
    exact Reads.pure ()
  | unicode h₁ h₂ h₃ h₄ =>
    obtain rfl : tail = [117, h₁, h₂, h₃, h₄] := by simpa [text] using ht.symm
    refine (nextInString_reads 117).bind ?_ rfl
    simp only [show ((117 : UInt8) == 34 || (117 : UInt8) == 92 || (117 : UInt8) == 47 ||
      (117 : UInt8) == 98 || (117 : UInt8) == 102 || (117 : UInt8) == 110 ||
      (117 : UInt8) == 114 || (117 : UInt8) == 116) = false by decide, Bool.false_eq_true,
      if_false, beq_self_eq_true, if_true]
    exact ((hexEscape_reads hv).bind (Reads.pure ()) rfl).congr (List.append_nil _)

/-! ## 3. Skipped strings -/

/-- The loop of a skipped string: a success took valid pieces and the closing quote. -/
theorem skipString_go_ok {u : Unit} : ∀ (fuel : Nat) (c c' : Cursor),
    (skipString.go fuel).run c = .ok u c' →
      ∃ ps : List Piece, (∀ p ∈ ps, p.valid) ∧ Consumed c c' (texts ps ++ [34])
  | 0, c, c', h => absurd h (Refused.run_ne_ok (fail_refused _))
  | fuel + 1, c, c', h => by
    simp only [skipString.go] at h
    obtain ⟨o, c₁, h₁, h⟩ := run_bind_ok h
    obtain ⟨rfl, rfl⟩ := peek_ok h₁
    cases hc : c.rest with
    | nil => rw [hc] at h; exact absurd h (Refused.run_ne_ok (fail_refused _))
    | cons b t =>
      rw [hc] at h
      simp only [List.head?_cons] at h
      by_cases hq : (b == 34) = true
      · -- the closing quote
        rw [if_pos hq] at h
        cases bump_ok h
        rw [beq_iff_eq] at hq
        subst hq
        exact ⟨[], by simp, Consumed.bump hc⟩
      rw [if_neg hq] at h
      by_cases hb : (b == 92) = true
      · -- an escape, then the rest of the string
        rw [if_pos hb] at h
        rw [beq_iff_eq] at hb
        subst hb
        obtain ⟨_, c₂, h₂, h⟩ := run_bind_ok h
        cases bump_ok h₂
        obtain ⟨_, c₃, h₃, h⟩ := run_bind_ok h
        obtain ⟨p, tail, hv, ht, hcons⟩ := skipEscape_ok h₃
        obtain ⟨ps, hvs, hcons'⟩ := skipString_go_ok fuel _ _ h
        refine ⟨p :: ps, List.forall_mem_cons.2 ⟨hv, hvs⟩, ?_⟩
        have := (Consumed.bump hc).trans (hcons.trans hcons')
        simpa [ht] using this
      rw [if_neg hb] at h
      by_cases hctl : b < 32
      · rw [if_pos hctl] at h; exact absurd h (Refused.run_ne_ok (fail_refused _))
      · -- a byte that stands for itself
        rw [if_neg hctl] at h
        obtain ⟨_, c₂, h₂, h⟩ := run_bind_ok h
        cases bump_ok h₂
        obtain ⟨ps, hvs, hcons'⟩ := skipString_go_ok fuel _ _ h
        refine ⟨raw b :: ps, List.forall_mem_cons.2 ⟨valid_raw_of hq hb hctl, hvs⟩, ?_⟩
        simpa [text] using (Consumed.bump hc).trans hcons'

/-- **A skipped string's success** took what a skipped string holds. -/
theorem skipString_ok {u : Unit} (h : skipString.run c = .ok u c') :
    ∃ bs, LaxString bs ∧ Consumed c c' bs := by
  unfold skipString at h
  obtain ⟨ps, hv, hcons⟩ := skipString_go_ok _ _ _ (get_bind_run_ok h)
  exact ⟨_, ⟨ps, hv, rfl⟩, hcons⟩

/-- A byte that stands for itself, then the rest of a skipped string. -/
theorem skipString_go_raw {b : UInt8} (hv : (raw b).valid) {fuel : Nat} {more : Bytes}
    (hk : Reads (skipString.go fuel) d more rest ()) :
    Reads (skipString.go (fuel + 1)) d (b :: more) rest () := by
  simp only [valid, Bool.and_eq_true, decide_eq_true_eq, bne_iff_ne, ne_eq] at hv
  obtain ⟨⟨hlo, hq⟩, hb⟩ := hv
  unfold skipString.go
  refine (peek_at b).bind ?_ rfl
  simp only [beq_iff_eq, hq, hb, if_false, UInt8.not_lt.2 hlo]
  exact (bump_reads b).bind hk rfl

/-- An escape, then the rest of a skipped string. -/
theorem skipString_go_escape {fuel : Nat} {tail more : Bytes}
    (he : Reads skipEscape d tail (more ++ rest) ())
    (hk : Reads (skipString.go fuel) d more rest ()) :
    Reads (skipString.go (fuel + 1)) d (92 :: (tail ++ more)) rest () := by
  unfold skipString.go
  refine (peek_at 92).bind ?_ rfl
  simp only [show ((92 : UInt8) == 34) = false by decide, beq_self_eq_true, Bool.false_eq_true,
    if_false, if_true]
  exact (bump_reads 92).bind (he.bind hk rfl) rfl

theorem skipString_go_reads : ∀ (ps : List Piece), (∀ p ∈ ps, p.valid) →
    ∀ fuel, (texts ps).length < fuel → Reads (skipString.go fuel) d (texts ps ++ [34]) rest ()
  | [], _, fuel, hlen => by
    obtain ⟨fuel, rfl⟩ : ∃ f, fuel = f + 1 := ⟨fuel - 1, by simp at hlen; omega⟩
    unfold skipString.go
    exact (peek_at 34).bind (bump_reads 34) rfl
  | p :: ps, hv, fuel, hlen => by
    obtain ⟨fuel, rfl⟩ : ∃ f, fuel = f + 1 := ⟨fuel - 1, by simp at hlen; omega⟩
    have hp : p.valid := hv p (by simp)
    have ih := skipString_go_reads ps (fun q hq => hv q (by simp [hq])) fuel
      (by have := p.text_length_pos; simp at hlen; omega)
    cases p with
    | raw b => exact skipString_go_raw hp ih
    | short e => exact (skipString_go_escape (skipEscape_reads hp rfl) ih).congr (by simp [text])
    | unicode h₁ h₂ h₃ h₄ =>
      exact (skipString_go_escape (skipEscape_reads hp rfl) ih).congr (by simp [text])

/-- **What a skipped string holds is skipped.** -/
theorem skipString_reads {bs : Bytes} (h : LaxString bs) : Reads skipString d bs rest () := by
  obtain ⟨ps, hv, rfl⟩ := h
  unfold skipString
  exact Reads.get_bind fun c hc => skipString_go_reads ps hv _
    (by rw [hc]; simp only [List.length_append, List.length_cons, List.length_nil]; omega)

/-! ## 4. Escapes in keys -/

/-- The eight short escapes of a key's string, each answered by the byte it stands for. -/
theorem escape_chain (e : UInt8) (x : Reader Bytes) :
    (if (e == 34) = true then pure [34] else if (e == 92) = true then pure [92]
      else if (e == 47) = true then pure [47] else if (e == 98) = true then pure [8]
      else if (e == 102) = true then pure [12] else if (e == 110) = true then pure [10]
      else if (e == 114) = true then pure [13] else if (e == 116) = true then pure [9] else x) =
      if e ∈ shortEscapes then pure [shortValue e] else x := by
  simp only [beq_iff_eq, shortEscapes, List.mem_cons, List.not_mem_nil, or_false]
  split_ifs <;> subst_vars <;> simp_all [shortValue]

/-- **An escape in a key's string**, after its backslash: a success took the rest of one valid
    escape, or of a surrogate pair of them, and answered the bytes they stand for. -/
theorem escape_ok {bs : Bytes} (h : escape.run c = .ok bs c') :
    ∃ (qs : List Piece) (tail : Bytes), (∀ q ∈ qs, q.valid) ∧ texts qs = 92 :: tail ∧
      Consumed c c' tail ∧ ∀ ps, Piece.decode (qs ++ ps) = (bs ++ ·) <$> Piece.decode ps := by
  unfold escape at h
  simp only [escape_chain] at h
  obtain ⟨e, c₁, h₁, h⟩ := run_bind_ok h
  have hcons₁ := nextInString_ok h₁
  by_cases hs : e ∈ shortEscapes
  · -- a short escape stands for one byte
    rw [if_pos hs] at h
    obtain ⟨rfl, rfl⟩ := run_pure_ok h
    exact ⟨[short e], [e], by simpa [valid] using hs, rfl, hcons₁, fun ps => by simp⟩
  rw [if_neg hs] at h
  by_cases hu : (e == 117) = true
  swap
  · rw [if_neg hu] at h
    exact absurd h (Refused.run_ne_ok (fail_refused _))
  rw [if_pos hu] at h
  cases beq_iff_eq.1 hu
  obtain ⟨n, c₂, h₂, h⟩ := run_bind_ok h
  obtain ⟨a₁, a₂, a₃, a₄, hva, rfl, hcons₂⟩ := hexEscape_ok h₂
  by_cases hlow : (decide (56320 ≤ unit a₁ a₂ a₃ a₄) && decide (unit a₁ a₂ a₃ a₄ ≤ 57343)) = true
  · rw [if_pos hlow] at h
    exact absurd h (Refused.run_ne_ok (fail_refused _))
  rw [if_neg hlow] at h
  have hlow' : isLow (unit a₁ a₂ a₃ a₄) = false := by simpa [isLow] using hlow
  by_cases hone : (decide (unit a₁ a₂ a₃ a₄ < 55296) || decide (unit a₁ a₂ a₃ a₄ > 56319)) = true
  · -- a code unit that is no surrogate stands for itself
    rw [if_pos hone] at h
    obtain ⟨rfl, rfl⟩ := run_pure_ok h
    have hhigh : isHigh (unit a₁ a₂ a₃ a₄) = false := by
      simp only [isHigh, Bool.and_eq_false_iff, decide_eq_false_iff_not, Nat.not_le]
      simp only [Bool.or_eq_true, decide_eq_true_eq] at hone
      omega
    exact ⟨[unicode a₁ a₂ a₃ a₄], _, by simpa using hva, rfl, hcons₁.trans hcons₂,
      fun ps => decode_single hlow' hhigh ps⟩
  rw [if_neg hone] at h
  have hhigh : isHigh (unit a₁ a₂ a₃ a₄) = true := by
    simp only [isHigh, Bool.and_eq_true, decide_eq_true_eq]
    simp only [Bool.or_eq_true, decide_eq_true_eq, not_or, Nat.not_lt] at hone
    omega
  -- a high surrogate: a backslash, a `u` and a low surrogate must follow
  obtain ⟨x, c₃, h₃, h⟩ := run_bind_ok h
  obtain ⟨hx, rfl⟩ := peekInString_ok h₃
  by_cases h92 : (x == 92) = true
  swap
  · rw [if_neg h92] at h
    obtain ⟨_, _, _, h⟩ := run_bind_ok h
    exact absurd h (Refused.run_ne_ok ((fail_refused _).bind))
  rw [if_pos h92] at h
  cases beq_iff_eq.1 h92
  obtain ⟨_, c₄, h₄, h⟩ := run_bind_ok h
  cases bump_ok h₄
  obtain ⟨y, c₅, h₅, h⟩ := run_bind_ok h
  obtain ⟨hy, rfl⟩ := peekInString_ok h₅
  by_cases h117 : (y == 117) = true
  swap
  · rw [if_neg h117] at h
    obtain ⟨_, _, _, h⟩ := run_bind_ok h
    exact absurd h (Refused.run_ne_ok ((fail_refused _).bind))
  rw [if_pos h117] at h
  cases beq_iff_eq.1 h117
  obtain ⟨_, c₆, h₆, h⟩ := run_bind_ok h
  cases bump_ok h₆
  obtain ⟨m, c₇, h₇, h⟩ := run_bind_ok h
  obtain ⟨b₁, b₂, b₃, b₄, hvb, rfl, hcons₇⟩ := hexEscape_ok h₇
  by_cases hbad : (decide (unit b₁ b₂ b₃ b₄ < 56320) || decide (unit b₁ b₂ b₃ b₄ > 57343)) = true
  · rw [if_pos hbad] at h
    obtain ⟨_, _, h', _⟩ := run_bind_ok h
    exact absurd h' (Refused.run_ne_ok (fail_refused _))
  rw [if_neg hbad] at h
  obtain ⟨rfl, rfl⟩ := run_pure_ok h
  have hlowb : isLow (unit b₁ b₂ b₃ b₄) = true := by
    simp only [isLow, Bool.and_eq_true, decide_eq_true_eq]
    simp only [Bool.or_eq_true, decide_eq_true_eq, not_or, Nat.not_lt] at hbad
    omega
  obtain ⟨t₁, ht₁⟩ := List.head?_eq_some_iff.1 hx
  obtain ⟨t₂, ht₂⟩ := List.head?_eq_some_iff.1 hy
  exact ⟨[unicode a₁ a₂ a₃ a₄, unicode b₁ b₂ b₃ b₄], _, by simp [hva, hvb], rfl,
    hcons₁.trans (hcons₂.trans ((Consumed.bump ht₁).trans ((Consumed.bump ht₂).trans hcons₇))),
    fun ps => decode_pair hhigh hlowb ps⟩

theorem escape_short {e : UInt8} (hv : (short e).valid) :
    Reads escape d [e] rest [shortValue e] := by
  have hs : e ∈ shortEscapes := by simpa [valid] using hv
  unfold escape
  simp only [escape_chain]
  refine ((nextInString_reads e).bind ?_ rfl).congr (List.append_nil _)
  rw [if_pos hs]
  exact Reads.pure _

/-- The first steps of a `\u` escape: the letter and four digits, checked to be no low
    surrogate. -/
theorem escape_unicode {h₁ h₂ h₃ h₄ : UInt8} {k : Nat → Reader Bytes} {tail : Bytes} {out : Bytes}
    (hv : (unicode h₁ h₂ h₃ h₄).valid) (hk : Reads (k (unit h₁ h₂ h₃ h₄)) d tail rest out) :
    Reads (nextInString >>= fun e => if e ∈ shortEscapes then pure [shortValue e]
      else if (e == 117) = true then hexEscape >>= k else fail .invalidEscape) d
      (117 :: h₁ :: h₂ :: h₃ :: h₄ :: tail) rest out := by
  have h117 : (117 : UInt8) ∉ shortEscapes := by decide
  refine (nextInString_reads 117).bind ?_ rfl
  rw [if_neg h117, if_pos (beq_self_eq_true _)]
  exact (hexEscape_reads hv).bind hk rfl

theorem escape_single {h₁ h₂ h₃ h₄ : UInt8} (hv : (unicode h₁ h₂ h₃ h₄).valid)
    (hlow : isLow (unit h₁ h₂ h₃ h₄) = false) (hhigh : isHigh (unit h₁ h₂ h₃ h₄) = false) :
    Reads escape d [117, h₁, h₂, h₃, h₄] rest (utf8 (unit h₁ h₂ h₃ h₄)) := by
  unfold escape
  simp only [escape_chain]
  refine escape_unicode hv ?_
  simp only [isLow, Bool.and_eq_false_iff, decide_eq_false_iff_not, Nat.not_le] at hlow
  simp only [isHigh, Bool.and_eq_false_iff, decide_eq_false_iff_not, Nat.not_le] at hhigh
  rw [if_neg (by simp only [Bool.and_eq_true, decide_eq_true_eq]; omega),
    if_pos (by simp only [Bool.or_eq_true, decide_eq_true_eq]; omega)]
  exact Reads.pure _

theorem escape_pair {h₁ h₂ h₃ h₄ l₁ l₂ l₃ l₄ : UInt8} (hv : (unicode h₁ h₂ h₃ h₄).valid)
    (hv' : (unicode l₁ l₂ l₃ l₄).valid) (hhigh : isHigh (unit h₁ h₂ h₃ h₄) = true)
    (hlow : isLow (unit l₁ l₂ l₃ l₄) = true) :
    Reads escape d [117, h₁, h₂, h₃, h₄, 92, 117, l₁, l₂, l₃, l₄] rest
      (utf8 (pair (unit h₁ h₂ h₃ h₄) (unit l₁ l₂ l₃ l₄))) := by
  unfold escape
  simp only [escape_chain]
  refine escape_unicode hv ?_
  simp only [isHigh, Bool.and_eq_true, decide_eq_true_eq] at hhigh
  simp only [isLow, Bool.and_eq_true, decide_eq_true_eq] at hlow
  rw [if_neg (by simp only [Bool.and_eq_true, decide_eq_true_eq]; omega),
    if_neg (by simp only [Bool.or_eq_true, decide_eq_true_eq]; omega)]
  refine (peekInString_reads 92).bind ?_ rfl
  rw [if_pos (beq_self_eq_true _)]
  refine (bump_reads 92).bind ((peekInString_reads 117).bind ?_ rfl) rfl
  rw [if_pos (beq_self_eq_true _)]
  refine (bump_reads 117).bind ((hexEscape_reads hv').bind ?_ rfl) rfl
  rw [if_neg (by simp only [Bool.or_eq_true, decide_eq_true_eq]; omega)]
  exact Reads.pure _

/-! ## 5. Keys -/

/-- The loop of a key's string: a success took valid pieces and the closing quote, and what they
    stand for, after what was kept before, is the UTF-8 of the name answered. -/
theorem readString_go_ok {s : String} : ∀ (fuel : Nat) (acc : Bytes) (c c' : Cursor),
    (readString.go fuel acc).run c = .ok s c' →
      ∃ (ps : List Piece) (out : Bytes), (∀ p ∈ ps, p.valid) ∧
        Piece.decode ps = some out ∧ Text.Utf8.decode? (acc ++ out) = some s ∧
        Consumed c c' (texts ps ++ [34])
  | 0, _, c, c', h => absurd h (Refused.run_ne_ok (fail_refused _))
  | fuel + 1, acc, c, c', h => by
    simp only [readString.go] at h
    obtain ⟨o, c₁, h₁, h⟩ := run_bind_ok h
    obtain ⟨rfl, rfl⟩ := peek_ok h₁
    cases hc : c.rest with
    | nil => rw [hc] at h; exact absurd h (Refused.run_ne_ok (fail_refused _))
    | cons b t =>
      rw [hc] at h
      simp only [List.head?_cons] at h
      by_cases hq : (b == 34) = true
      · -- the closing quote: what was kept must be UTF-8
        rw [if_pos hq] at h
        cases beq_iff_eq.1 hq
        split at h
        · rename_i s' hs'
          obtain ⟨_, c₂, h₂, h⟩ := run_bind_ok h
          cases bump_ok h₂
          obtain ⟨rfl, rfl⟩ := run_pure_ok h
          exact ⟨[], [], by simp, rfl, by simpa using hs', Consumed.bump hc⟩
        · exact absurd h (Refused.run_ne_ok (fail_refused _))
      rw [if_neg hq] at h
      by_cases hb : (b == 92) = true
      · -- an escape: the bytes it stands for are kept
        rw [if_pos hb] at h
        cases beq_iff_eq.1 hb
        obtain ⟨_, c₂, h₂, h⟩ := run_bind_ok h
        cases bump_ok h₂
        obtain ⟨bs, c₃, h₃, h⟩ := run_bind_ok h
        obtain ⟨qs, tail, hvq, htq, hcons, hdec⟩ := escape_ok h₃
        obtain ⟨ps, out, hv, hd, hs, hcons'⟩ := readString_go_ok fuel _ _ _ h
        refine ⟨qs ++ ps, bs ++ out, fun p hp => ?_, by rw [hdec, hd]; rfl, by simpa using hs, ?_⟩
        · rcases List.mem_append.1 hp with hp | hp
          · exact hvq p hp
          · exact hv p hp
        · simpa [htq] using (Consumed.bump hc).trans (hcons.trans hcons')
      rw [if_neg hb] at h
      by_cases hctl : b < 32
      · rw [if_pos hctl] at h
        obtain ⟨_, _, _, h⟩ := run_bind_ok h
        exact absurd h (Refused.run_ne_ok (fail_refused _))
      · -- a byte that stands for itself is kept
        rw [if_neg hctl] at h
        obtain ⟨_, c₂, h₂, h⟩ := run_bind_ok h
        cases bump_ok h₂
        obtain ⟨ps, out, hv, hd, hs, hcons'⟩ := readString_go_ok fuel _ _ _ h
        refine ⟨raw b :: ps, b :: out, List.forall_mem_cons.2 ⟨valid_raw_of hq hb hctl, hv⟩,
          by simp [hd], by simpa using hs, ?_⟩
        simpa [text] using (Consumed.bump hc).trans hcons'

/-- **A key's string's success** took what a key's string holds, with the name it reads as. -/
theorem readString_ok {s : String} (h : readString.run c = .ok s c') :
    ∃ bs, KeyString bs s ∧ Consumed c c' bs := by
  unfold readString at h
  obtain ⟨ps, out, hv, hd, hs, hcons⟩ := readString_go_ok _ _ _ _ (get_bind_run_ok h)
  exact ⟨_, ⟨ps, hv, rfl, by simpa [hd] using hs⟩, hcons⟩

theorem readKey_ok {s : String} (h : readKey.run c = .ok s c') :
    ∃ bs, KeyString bs s ∧ Consumed c.bump c' bs := by
  unfold readKey at h
  obtain ⟨_, c₁, h₁, h⟩ := run_bind_ok h
  cases bump_ok h₁
  exact readString_ok h

/-- A byte kept as it is, then the rest of a key's string. -/
theorem readString_go_raw {b : UInt8} (hv : (raw b).valid) {fuel : Nat} {acc more : Bytes}
    {s : String} (hk : Reads (readString.go fuel (acc ++ [b])) d more rest s) :
    Reads (readString.go (fuel + 1) acc) d (b :: more) rest s := by
  simp only [valid, Bool.and_eq_true, decide_eq_true_eq, bne_iff_ne, ne_eq] at hv
  obtain ⟨⟨hlo, hq⟩, hb⟩ := hv
  unfold readString.go
  refine (peek_at b).bind ?_ rfl
  simp only [beq_iff_eq, hq, hb, if_false, UInt8.not_lt.2 hlo]
  exact (bump_reads b).bind hk rfl

/-- An escape, the bytes it stands for kept, then the rest of a key's string. -/
theorem readString_go_escape {fuel : Nat} {acc tail more out : Bytes} {s : String}
    (he : Reads escape d tail (more ++ rest) out)
    (hk : Reads (readString.go fuel (acc ++ out)) d more rest s) :
    Reads (readString.go (fuel + 1) acc) d (92 :: (tail ++ more)) rest s := by
  unfold readString.go
  refine (peek_at 92).bind ?_ rfl
  simp only [show ((92 : UInt8) == 34) = false by decide, beq_self_eq_true, Bool.false_eq_true,
    if_false, if_true]
  exact (bump_reads 92).bind (he.bind hk rfl) rfl

/-- The loop of a key's string reads valid pieces that stand for UTF-8, with fuel for them. -/
theorem readString_go_reads (ps : List Piece) : ∀ (out : Bytes), (∀ p ∈ ps, p.valid) →
    Piece.decode ps = some out → ∀ (fuel : Nat) (acc : Bytes) (s : String),
      (texts ps).length < fuel → Text.Utf8.decode? (acc ++ out) = some s →
        Reads (readString.go fuel acc) d (texts ps ++ [34]) rest s := by
  induction ps using Piece.decode.induct with
  | case1 =>
    intro out _ hd fuel acc s hlen hs
    obtain rfl : out = [] := by simpa using hd.symm
    obtain ⟨fuel, rfl⟩ : ∃ f, fuel = f + 1 := ⟨fuel - 1, by simp at hlen; omega⟩
    unfold readString.go
    refine (peek_at 34).bind ?_ rfl
    simp only [beq_self_eq_true, if_true]
    rw [List.append_nil] at hs
    rw [hs]
    exact (bump_reads 34).bind (Reads.pure s) rfl
  | case2 b ps ih =>
    intro out hv hd fuel acc s hlen hs
    obtain ⟨out', hd', rfl⟩ := Option.map_eq_some_iff.1 hd
    obtain ⟨fuel, rfl⟩ : ∃ f, fuel = f + 1 := ⟨fuel - 1, by simp at hlen; omega⟩
    exact readString_go_raw (hv _ (by simp)) (ih out' (fun p hp => hv p (by simp [hp])) hd' fuel _
      s (by simp [text] at hlen; omega) (by simpa using hs))
  | case3 e ps ih =>
    intro out hv hd fuel acc s hlen hs
    obtain ⟨out', hd', rfl⟩ := Option.map_eq_some_iff.1 hd
    obtain ⟨fuel, rfl⟩ : ∃ f, fuel = f + 1 := ⟨fuel - 1, by simp at hlen; omega⟩
    exact (readString_go_escape (escape_short (hv (short e) (by simp)))
      (ih out' (fun p hp => hv p (by simp [hp])) hd' fuel (acc ++ [shortValue e]) s
        (by simp [text] at hlen; omega) (by simpa using hs))).congr (by simp [text])
  | case4 h₁ h₂ h₃ h₄ ps hl =>
    intro out _ hd
    rw [decode_low hl] at hd
    cases hd
  | case5 h₁ h₂ h₃ h₄ ps hl hh ih =>
    intro out hv hd fuel acc s hlen hs
    have hl' : isLow (unit h₁ h₂ h₃ h₄) = false := by simpa using hl
    have hh' : isHigh (unit h₁ h₂ h₃ h₄) = false := by simpa using hh
    rw [decode_single hl' hh'] at hd
    obtain ⟨out', hd', rfl⟩ := Option.map_eq_some_iff.1 hd
    obtain ⟨fuel, rfl⟩ : ∃ f, fuel = f + 1 := ⟨fuel - 1, by simp at hlen; omega⟩
    exact (readString_go_escape (escape_single (hv (unicode h₁ h₂ h₃ h₄) (by simp)) hl' hh')
      (ih out' (fun p hp => hv p (by simp [hp])) hd' fuel (acc ++ utf8 (unit h₁ h₂ h₃ h₄)) s
        (by simp [text] at hlen; omega) (by simpa using hs))).congr (by simp [text])
  | case6 h₁ h₂ h₃ h₄ _ hh l₁ l₂ l₃ l₄ ps hl ih =>
    intro out hv hd fuel acc s hlen hs
    have hh' : isHigh (unit h₁ h₂ h₃ h₄) = true := by simpa using hh
    rw [decode_pair hh' hl] at hd
    obtain ⟨out', hd', rfl⟩ := Option.map_eq_some_iff.1 hd
    obtain ⟨fuel, rfl⟩ : ∃ f, fuel = f + 1 := ⟨fuel - 1, by simp at hlen; omega⟩
    exact (readString_go_escape (escape_pair (hv (unicode h₁ h₂ h₃ h₄) (by simp))
      (hv (unicode l₁ l₂ l₃ l₄) (by simp)) hh' hl)
      (ih out' (fun p hp => hv p (by simp [hp])) hd' fuel
        (acc ++ utf8 (pair (unit h₁ h₂ h₃ h₄) (unit l₁ l₂ l₃ l₄))) s
        (by simp [text] at hlen; omega) (by simpa using hs))).congr (by simp [text])
  | case7 h₁ h₂ h₃ h₄ _ hh l₁ l₂ l₃ l₄ ps hl =>
    intro out _ hd
    have hh' : isHigh (unit h₁ h₂ h₃ h₄) = true := by simpa using hh
    rw [decode_high_alone hh' (fun _ _ _ _ _ he => by cases he; simpa using hl)] at hd
    cases hd
  | case8 h₁ h₂ h₃ h₄ ps _ hh hps =>
    intro out _ hd
    have hh' : isHigh (unit h₁ h₂ h₃ h₄) = true := by simpa using hh
    rw [decode_high_alone hh' (fun l₁ l₂ l₃ l₄ ps' he => absurd he (hps l₁ l₂ l₃ l₄ ps'))] at hd
    cases hd

/-- **What a key's string holds is read as its name.** -/
theorem readString_reads {bs : Bytes} {name : String} (h : KeyString bs name) :
    Reads readString d bs rest name := by
  obtain ⟨ps, hv, rfl, hd⟩ := h
  obtain ⟨out, hout, hs⟩ := Option.bind_eq_some_iff.1 hd
  unfold readString
  exact Reads.get_bind fun c hc =>
    readString_go_reads ps out hv hout _ [] name
      (by rw [hc]; simp only [List.length_append, List.length_cons, List.length_nil]; omega)
      (by simpa using hs)

/-- **A quoted key is read as its name.** -/
theorem readKey_reads {bs : Bytes} {name : String} (h : KeyString bs name) :
    Reads readKey d (34 :: bs) rest name := by
  unfold readKey
  exact (bump_reads 34).bind (readString_reads h) rfl

end SmartHelmet.Json
