import SmartHelmet.Json.Reader
import SmartHelmet.Proofs.Text.Utf8
/-!
# Reading known text

A reader runs on a cursor: the bytes not yet read, a line and column, and the nesting depth
still allowed. Over a text known in advance the line and column play no part, so a reader's
behaviour is stated by what it reads and where it stops:

* `Reads r d bs rest a` — from every cursor on `bs ++ rest` at depth `d`, the reader returns `a`
  on a cursor on `rest`, at depth `d` again;
* `Fails r d bs rest` — from every such cursor, the reader fails;
* `Refused r` — the reader fails from every cursor whatever it holds;
* `Reads.bind`, `Reads.bind_fails`, `Fails.bind` — reading in sequence;
* the primitive steps: looking at and consuming bytes, blanks, keywords, the separators of
  objects and arrays, the end of the document;
* `within_reads`, `within_fails`, `within_deep` — a container: one level deeper, refused when no
  level is left, and failing when its contents fail.
-/

namespace SmartHelmet.Json

variable {α β : Type}

@[simp] theorem Cursor.bump_rest (c : Cursor) : c.bump.rest = c.rest.tail := by
  unfold Cursor.bump
  split
  · simp_all
  · split <;> simp_all

@[simp] theorem Cursor.bump_depth (c : Cursor) : c.bump.depth = c.depth := by
  unfold Cursor.bump
  split
  · rfl
  · split <;> rfl

/-! ## 1. Reading and failing -/

/-- **Reading `bs`**: from every cursor on `bs ++ rest` at depth `d`, `r` returns `a` on a
    cursor on `rest`, at depth `d`. -/
def Reads (r : Reader α) (d : Nat) (bs rest : Bytes) (a : α) : Prop :=
  ∀ c : Cursor, c.rest = bs ++ rest → c.depth = d →
    ∃ c' : Cursor, r.run c = .ok a c' ∧ c'.rest = rest ∧ c'.depth = d

/-- **Failing on `bs`**: from every cursor on `bs ++ rest` at depth `d`, `r` fails. -/
def Fails (r : Reader α) (d : Nat) (bs rest : Bytes) : Prop :=
  ∀ c : Cursor, c.rest = bs ++ rest → c.depth = d → ∃ e c', r.run c = .error e c'

/-- A reader that fails from every cursor. -/
def Refused (r : Reader α) : Prop := ∀ c : Cursor, ∃ e c', r.run c = .error e c'

variable {d : Nat} {bs bs₁ bs₂ rest : Bytes}

theorem Refused.fails {r : Reader α} (h : Refused r) : Fails r d bs rest :=
  fun c _ _ => h c

theorem Refused.bind {x : Reader α} {f : α → Reader β} (h : Refused x) :
    Refused (x >>= f) := by
  intro c
  obtain ⟨e, c', hx⟩ := h c
  exact ⟨e, c', by rw [EStateM.run_bind, hx]⟩

/-- A reader whose every continuation is refused is refused. -/
theorem Refused.of_bind {x : Reader α} {f : α → Reader β} (hf : ∀ a, Refused (f a)) :
    Refused (x >>= f) := by
  intro c
  rw [EStateM.run_bind]
  cases hx : x.run c with
  | ok a c₁ => exact hf a c₁
  | error e c₁ => exact ⟨e, c₁, rfl⟩

/-- **Reading in sequence**: what the first reader leaves, `mid`, is what the second reads and
    what follows it. -/
theorem Reads.bind {x : Reader α} {f : α → Reader β} {a : α} {b : β} {mid : Bytes}
    (hx : Reads x d bs₁ mid a) (hf : Reads (f a) d bs₂ rest b) (hm : mid = bs₂ ++ rest) :
    Reads (x >>= f) d (bs₁ ++ bs₂) rest b := by
  intro c hc hd
  obtain ⟨c₁, h₁, hr₁, hd₁⟩ := hx c (by rw [hc, hm, List.append_assoc]) hd
  obtain ⟨c₂, h₂, hr₂, hd₂⟩ := hf c₁ (hr₁.trans hm) hd₁
  exact ⟨c₂, by rw [EStateM.run_bind, h₁]; exact h₂, hr₂, hd₂⟩

theorem Reads.bind_fails {x : Reader α} {f : α → Reader β} {a : α} {mid : Bytes}
    (hx : Reads x d bs₁ mid a) (hf : Fails (f a) d bs₂ rest) (hm : mid = bs₂ ++ rest) :
    Fails (x >>= f) d (bs₁ ++ bs₂) rest := by
  intro c hc hd
  obtain ⟨c₁, h₁, hr₁, hd₁⟩ := hx c (by rw [hc, hm, List.append_assoc]) hd
  obtain ⟨e, c₂, h₂⟩ := hf c₁ (hr₁.trans hm) hd₁
  exact ⟨e, c₂, by rw [EStateM.run_bind, h₁]; exact h₂⟩

theorem Fails.bind {x : Reader α} {f : α → Reader β} (hx : Fails x d bs rest) :
    Fails (x >>= f) d bs rest := by
  intro c hc hd
  obtain ⟨e, c', h⟩ := hx c hc hd
  exact ⟨e, c', by rw [EStateM.run_bind, h]⟩

theorem Reads.pure (a : α) : Reads (Pure.pure a : Reader α) d [] rest a :=
  fun c hc hd => ⟨c, rfl, hc, hd⟩

theorem Reads.map {x : Reader α} {a : α} (h : Reads x d bs rest a) (f : α → β) :
    Reads (f <$> x) d bs rest (f a) := by
  intro c hc hd
  obtain ⟨c', h', hr, hd'⟩ := h c hc hd
  refine ⟨c', ?_, hr, hd'⟩
  show EStateM.map f x c = _
  simp only [EStateM.map]
  rw [show x c = x.run c from rfl, h']

theorem Fails.map {x : Reader α} (h : Fails x d bs rest) (f : α → β) :
    Fails (f <$> x) d bs rest := by
  intro c hc hd
  obtain ⟨e, c', h'⟩ := h c hc hd
  refine ⟨e, c', ?_⟩
  show EStateM.map f x c = _
  simp only [EStateM.map]
  rw [show x c = x.run c from rfl, h']

/-- Reading may be stated over a longer text that ends the same way. -/
theorem Reads.congr {x : Reader α} {a : α} {bs' : Bytes} (h : Reads x d bs rest a)
    (e : bs = bs') : Reads x d bs' rest a := e ▸ h

/-- A reader that fails before `more` fails on any text that goes on with it. -/
theorem Fails.append {x : Reader α} {more : Bytes} (h : Fails x d bs (more ++ rest)) :
    Fails x d (bs ++ more) rest :=
  fun c hc hd => h c (by rw [hc, List.append_assoc]) hd

/-- A reader that first looks at its cursor, to size its fuel by what is left. -/
theorem Reads.get_bind {f : Cursor → Reader α} {a : α}
    (h : ∀ c : Cursor, c.rest = bs ++ rest → Reads (f c) d bs rest a) :
    Reads (get >>= f) d bs rest a := by
  intro c hc hd
  obtain ⟨c', h', hr, hd'⟩ := h c hc c hc hd
  exact ⟨c', by rw [EStateM.run_bind, EStateM.run_get]; exact h', hr, hd'⟩

theorem Fails.get_bind {f : Cursor → Reader α}
    (h : ∀ c : Cursor, c.rest = bs ++ rest → Fails (f c) d bs rest) :
    Fails (get >>= f) d bs rest := by
  intro c hc hd
  obtain ⟨e, c', h'⟩ := h c hc c hc hd
  exact ⟨e, c', by rw [EStateM.run_bind, EStateM.run_get]; exact h'⟩

/-! ## 2. Bytes and blanks -/

theorem peek_run (c : Cursor) : peek.run c = .ok c.rest.head? c := rfl

theorem peek_reads : Reads peek d [] rest rest.head? := by
  intro c hc hd
  refine ⟨c, ?_, hc, hd⟩
  rw [peek_run, hc, List.nil_append]

theorem bump_run (c : Cursor) : bump.run c = .ok () c.bump := rfl

theorem bump_reads (b : UInt8) : Reads bump d [b] rest () :=
  fun c hc hd => ⟨c.bump, rfl, by simp [hc], by simp [hd]⟩

theorem next_run (c : Cursor) : next.run c = .ok c.rest.head? c.bump := rfl

theorem next_reads (b : UInt8) : Reads next d [b] rest (some b) := by
  intro c hc hd
  refine ⟨c.bump, ?_, by simp [hc], by simp [hd]⟩
  rw [next_run, hc]
  rfl

/-- The head of a text is no blank. -/
def Unblank (bs : Bytes) : Prop := ∀ b ∈ bs.head?, isBlankByte b = false

theorem unblank_nil : Unblank [] := by simp [Unblank]

theorem unblank_cons {b : UInt8} {bs : Bytes} (h : isBlankByte b = false) : Unblank (b :: bs) := by
  simpa [Unblank] using h

theorem skipBlanks_go_unblank (fuel : Nat) (c : Cursor) (h : Unblank c.rest) :
    skipBlanks.go fuel c = c := by
  cases fuel with
  | zero => rfl
  | succ fuel =>
    unfold skipBlanks.go
    split
    · rename_i b _ hb
      rw [hb] at h
      simp only [Unblank, List.head?_cons, Option.mem_def, Option.some.injEq,
        forall_eq'] at h
      simp [h]
    · rfl

theorem skipBlanks_run (c : Cursor) :
    skipBlanks.run c =
      .ok (skipBlanks.go c.rest.length c).rest.head? (skipBlanks.go c.rest.length c) := rfl

/-- The blank-skipping loop passes blanks, one a turn, and stops at the first byte that is no
    blank. -/
theorem skipBlanks_go_blanks {ws : Bytes} (hw : ∀ b ∈ ws, isBlankByte b = true)
    (h : Unblank rest) :
    ∀ (fuel : Nat) (c : Cursor), c.rest = ws ++ rest → ws.length ≤ fuel →
      (skipBlanks.go fuel c).rest = rest ∧ (skipBlanks.go fuel c).depth = c.depth := by
  induction ws with
  | nil =>
    intro fuel c hc _
    rw [skipBlanks_go_unblank fuel c (by rw [hc]; exact h)]
    exact ⟨hc, rfl⟩
  | cons w ws ih =>
    intro fuel c hc hlen
    obtain ⟨fuel, rfl⟩ : ∃ f, fuel = f + 1 := ⟨fuel - 1, by simp at hlen; omega⟩
    have hb : isBlankByte w = true := hw w (by simp)
    have hstep : skipBlanks.go (fuel + 1) c = skipBlanks.go fuel c.bump := by
      simp only [skipBlanks.go, hc, List.cons_append, hb, if_true]
    rw [hstep]
    obtain ⟨hr, hd⟩ := ih (fun b hb' => hw b (by simp [hb'])) fuel c.bump (by simp [hc])
      (by simp at hlen; omega)
    exact ⟨hr, hd.trans (Cursor.bump_depth c)⟩

/-- **Blanks are skipped**, up to a byte that is no blank. -/
theorem skipBlanks_blanks {ws : Bytes} (hw : ∀ b ∈ ws, isBlankByte b = true)
    (h : Unblank rest) : Reads skipBlanks d ws rest rest.head? := by
  intro c hc hd
  obtain ⟨hr, hdep⟩ := skipBlanks_go_blanks hw h c.rest.length c hc (by simp [hc])
  refine ⟨skipBlanks.go c.rest.length c, ?_, hr, hdep.trans hd⟩
  rw [skipBlanks_run, hr]

/-- Before a byte that is no blank, nothing is skipped. -/
theorem skipBlanks_reads (h : Unblank rest) : Reads skipBlanks d [] rest rest.head? :=
  skipBlanks_blanks (by simp) h

/-- A keyword's remaining bytes. -/
theorem keyword_reads (tail : Bytes) : Reads (keyword tail) d tail rest () := by
  induction tail with
  | nil => exact fun c hc hd => ⟨c, rfl, by simpa using hc, hd⟩
  | cons b tail ih =>
    intro c hc hd
    have hnext : Reads next d [b] (tail ++ rest) (some b) := next_reads b
    obtain ⟨c₁, h₁, hr₁, hd₁⟩ := hnext c (by simpa using hc) hd
    obtain ⟨c₂, h₂, hr₂, hd₂⟩ := ih c₁ hr₁ hd₁
    refine ⟨c₂, ?_, hr₂, hd₂⟩
    simp only [keyword, List.forIn_cons] at h₂ ⊢
    simp only [EStateM.run_bind, h₁, bne_self_eq_false, Bool.false_eq_true, if_false]
    exact h₂

/-! ## 3. Faults -/

theorem throw_refused (e : Error) : Refused (throw e : Reader α) := by
  intro c
  exact ⟨e, c, rfl⟩

theorem failAhead_refused (f : Fault) : Refused (failAhead f : Reader α) := by
  intro c
  exact ⟨_, c, rfl⟩

theorem failShape_refused (f : Fault) : Refused (failShape f : Reader α) := by
  intro c
  exact ⟨_, c, rfl⟩

/-- **A value of the wrong kind is refused**, whatever it is. -/
theorem wrongKind_refused (expected : String) : Refused (wrongKind expected : Reader α) := by
  unfold wrongKind
  refine Refused.of_bind fun _ => ?_
  -- whatever stands there is read so that it can be named, and then refused
  dsimp only
  split
  any_goals split
  all_goals
    repeat' refine Refused.of_bind fun _ => ?_
    exact throw_refused _

theorem Reads.positioned {x : Reader α} {a : α} (h : Reads x d bs rest a) :
    Reads (positioned x) d bs rest a := by
  intro c hc hd
  obtain ⟨c', h', hr, hd'⟩ := h c hc hd
  refine ⟨c', ?_, hr, hd'⟩
  show EStateM.tryCatch x _ c = _
  simp only [EStateM.tryCatch]
  rw [show x c = x.run c from rfl, h']

theorem Fails.positioned {x : Reader α} (h : Fails x d bs rest) :
    Fails (positioned x) d bs rest := by
  intro c hc hd
  obtain ⟨e, c', h'⟩ := h c hc hd
  show ∃ e c'', EStateM.tryCatch x _ c = _
  simp only [EStateM.tryCatch]
  rw [show x c = x.run c from rfl, h']
  -- an error keeps its position, or takes the cursor's: an error either way
  obtain ⟨f, _ | pos⟩ := e
  · exact ⟨_, _, rfl⟩
  · exact ⟨_, _, rfl⟩

/-! ## 4. Separators -/

/-- Blanks skipped before a known byte: none. -/
theorem skipBlanks_before (b : UInt8) (hu : isBlankByte b = false) :
    Reads skipBlanks d [] (b :: rest) (some b) :=
  skipBlanks_reads (unblank_cons hu)

/-- After the last item: the closing bracket, not consumed. -/
theorem nextItem_end (first : Bool) : Reads (nextItem first) d [] (93 :: rest) false := by
  unfold nextItem
  exact (skipBlanks_before 93 rfl).bind (Reads.pure false) rfl

theorem closeObject_reads : Reads closeObject d [125] rest () := by
  unfold closeObject
  exact (skipBlanks_before 125 rfl).bind (bump_reads 125) rfl

theorem closeArray_reads : Reads closeArray d [93] rest () := by
  unfold closeArray
  exact (skipBlanks_before 93 rfl).bind (bump_reads 93) rfl

/-- The document ends: nothing but blanks follows. -/
theorem finish_blanks {ws : Bytes} (hw : ∀ b ∈ ws, isBlankByte b = true) :
    Reads finish d ws [] () := by
  unfold finish
  rw [← List.append_nil ws]
  exact (skipBlanks_blanks hw unblank_nil).bind (Reads.pure ()) rfl

/-! ## 5. Containers -/

theorem attempt_run_ok {x : Reader α} {c c' : Cursor} {a : α} (h : x.run c = .ok a c') :
    (attempt x).run c = .ok (.ok a) c' := by
  unfold attempt
  show EStateM.tryCatch (Except.ok <$> x) (fun e => Pure.pure (.error e)) c = _
  simp only [EStateM.tryCatch, Functor.map, EStateM.map]
  rw [show x c = x.run c from rfl, h]

theorem attempt_run_error {x : Reader α} {c c' : Cursor} {e : Error} (h : x.run c = .error e c') :
    (attempt x).run c = .ok (.error e) c' := by
  unfold attempt
  show EStateM.tryCatch (Except.ok <$> x) (fun e => Pure.pure (.error e)) c = _
  simp only [EStateM.tryCatch, Functor.map, EStateM.map]
  rw [show x c = x.run c from rfl, h]
  rfl

theorem within_run_ok {close : Reader Unit} {body : Reader α} {c c₁ c₂ : Cursor} {a : α}
    (hd : 1 < c.depth) (hb : body.run { c with depth := c.depth - 1 }.bump = .ok a c₁)
    (hc : close.run { c₁ with depth := c₁.depth + 1 } = .ok () c₂) :
    (within close body).run c = .ok a c₂ := by
  simp only [within, EStateM.run_bind, EStateM.run_get]
  rw [if_neg (by omega)]
  simp only [EStateM.run_bind, EStateM.run_set, EStateM.run_modify, bump_run,
    attempt_run_ok hb, attempt_run_ok hc]
  rfl

theorem within_run_error {close : Reader Unit} {body : Reader α} {c c₁ : Cursor} {e : Error}
    (hd : 1 < c.depth) (hb : body.run { c with depth := c.depth - 1 }.bump = .error e c₁) :
    ∃ c₂, (within close body).run c = .error e c₂ := by
  simp only [within, EStateM.run_bind, EStateM.run_get]
  rw [if_neg (by omega)]
  simp only [EStateM.run_bind, EStateM.run_set, EStateM.run_modify, bump_run,
    attempt_run_error hb]
  -- the closing part is read even so, and the body's error wins
  cases hc : close.run { c₁ with depth := c₁.depth + 1 } with
  | ok u c₂ => simp only [attempt_run_ok hc]; exact ⟨c₂, rfl⟩
  | error e' c₂ => simp only [attempt_run_error hc]; exact ⟨c₂, rfl⟩

/-- **A container** one level deeper: its opening byte, its contents read a level down, and its
    closing part. -/
theorem within_reads {close : Reader Unit} {body : Reader α} {a : α} {cs : Bytes} (o : UInt8)
    (hd : 1 < d) (hb : Reads body (d - 1) bs (cs ++ rest) a) (hc : Reads close d cs rest ()) :
    Reads (within close body) d (o :: (bs ++ cs)) rest a := by
  intro c hc' hd'
  obtain ⟨c₁, h₁, hr₁, hd₁⟩ :=
    hb { c with depth := c.depth - 1 }.bump (by simp [hc']) (by simp [hd'])
  obtain ⟨c₂, h₂, hr₂, hd₂⟩ :=
    hc { c₁ with depth := c₁.depth + 1 } hr₁ (by simp [hd₁]; omega)
  exact ⟨c₂, within_run_ok (by omega) h₁ h₂, hr₂, hd₂⟩

/-- A container whose contents fail fails. -/
theorem within_fails {close : Reader Unit} {body : Reader α} (o : UInt8) (hd : 1 < d)
    (hb : Fails body (d - 1) bs rest) : Fails (within close body) d (o :: bs) rest := by
  intro c hc' hd'
  obtain ⟨e, c₁, h₁⟩ :=
    hb { c with depth := c.depth - 1 }.bump (by simp [hc']) (by simp [hd'])
  obtain ⟨c₂, h₂⟩ : ∃ c₂, (within close body).run c = .error e c₂ :=
    within_run_error (by omega) h₁
  exact ⟨e, c₂, h₂⟩

/-- **No level left**: a container is refused before it is read. -/
theorem within_deep {close : Reader Unit} {body : Reader α} (hd : d ≤ 1) :
    Fails (within close body) d bs rest := by
  intro c _ hd'
  simp only [within, EStateM.run_bind, EStateM.run_get]
  rw [if_pos (by omega)]
  exact ⟨_, c, rfl⟩

/-! ## 6. Outcomes -/

/-- **What a reader does on `bs`, as an option**: it reads the value when there is one, and
    fails when there is none. -/
def Outcome (r : Reader α) (d : Nat) (bs rest : Bytes) : Option α → Prop
  | some a => Reads r d bs rest a
  | none => Fails r d bs rest

/-- Reading in sequence, each step succeeding or failing as an option says. -/
theorem Outcome.bind {x : Reader α} {f : α → Reader β} {o : Option α} {g : α → Option β}
    {mid : Bytes} (hx : Outcome x d bs₁ mid o)
    (hf : ∀ a, o = some a → Outcome (f a) d bs₂ rest (g a)) (hm : mid = bs₂ ++ rest) :
    Outcome (x >>= f) d (bs₁ ++ bs₂) rest (o.bind g) := by
  cases o with
  | none => exact Fails.bind (Fails.append (hm ▸ hx))
  | some a =>
    have hfa := hf a rfl
    show Outcome _ _ _ _ (g a)
    cases hg : g a with
    | none => rw [hg] at hfa; exact Reads.bind_fails hx hfa hm
    | some b => rw [hg] at hfa; exact Reads.bind hx hfa hm

/-- A step that surely reads, then one whose outcome is an option. -/
theorem Outcome.reads_bind {x : Reader α} {f : α → Reader β} {a : α} {o : Option β}
    {mid : Bytes} (hx : Reads x d bs₁ mid a) (hf : Outcome (f a) d bs₂ rest o)
    (hm : mid = bs₂ ++ rest) : Outcome (x >>= f) d (bs₁ ++ bs₂) rest o := by
  cases o with
  | none => exact Reads.bind_fails hx hf hm
  | some b => exact Reads.bind hx hf hm

/-- A first step that reads nothing, such as looking past blanks. -/
theorem Outcome.look_bind {x : Reader α} {f : α → Reader β} {a : α} {o : Option β}
    {mid : Bytes} (hx : Reads x d [] mid a) (hf : Outcome (f a) d bs rest o)
    (hm : mid = bs ++ rest) :
    Outcome (x >>= f) d bs rest o :=
  Outcome.reads_bind hx hf hm

theorem Outcome.bind_look {x : Reader α} {f : α → Reader β} {o : Option α}
    {g : α → Option β} {mid : Bytes} (hx : Outcome x d [] mid o)
    (hf : ∀ a, o = some a → Outcome (f a) d bs rest (g a)) (hm : mid = bs ++ rest) :
    Outcome (x >>= f) d bs rest (o.bind g) :=
  Outcome.bind hx hf hm

theorem Outcome.congr {x : Reader α} {o : Option α} {bs' : Bytes} (h : Outcome x d bs rest o)
    (e : bs = bs') : Outcome x d bs' rest o := e ▸ h

/-- **A whole text**: run from its start, a reader gives exactly the value its outcome on the
    text says. -/
theorem Outcome.run'_eq_ok {r : Reader α} {o : Option α} (h : Outcome r 128 bs [] o) (a : α) :
    r.run' bs = .ok a ↔ o = some a := by
  cases o with
  | none =>
    obtain ⟨e, c', hrun⟩ := h (Cursor.start bs) (by simp [Cursor.start]) rfl
    simp [Reader.run', hrun]
  | some b =>
    obtain ⟨c', hrun, -, -⟩ := h (Cursor.start bs) (by simp [Cursor.start]) rfl
    simp [Reader.run', hrun]

end SmartHelmet.Json
