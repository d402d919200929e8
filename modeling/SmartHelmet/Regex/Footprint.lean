import SmartHelmet.Regex.Expr
import Std.Data.HashMap
/-!
# How much memory a compiled pattern takes

A pattern is refused when the automaton it compiles to would take more than `sizeLimit`
bytes. Two automata are counted, and each must fit: the one that searches forwards, with a
pair of states around each group, and the one that searches backwards, without them. A state
takes 32 bytes, each byte range of a state with several ranges 8 more, each branch of a fork
4 more.

The automata are built over bytes of UTF-8, piece by piece, each piece ending in a state that
is later linked to what follows it (a link from a fork adds a branch):

* in front of the pattern, unless every match starts at the start of the text (at its end,
  backwards), a lazy loop over any byte;
* a literal is a state per byte; a class within ASCII is a state with its ranges and an empty
  end; a wider class is the automaton of its UTF-8 byte sequences, which forwards shares equal
  tails (remembered in a table of 10000 slots, a slot picked by hashing) and backwards equal
  suffixes (a table of 1000 slots);
* alternatives that are all literals share their prefixes in a trie; other alternatives fork
  into their branches and meet in an empty state;
* `{n}` is `n` copies; `{n,m}` adds `m - n` optional copies, each behind a fork that can skip
  to the end; `{n,}` ends in a loop on the last copy, and `*` on a body that can match the
  empty text is a loop inside an optional part.

Memory only grows while an automaton is built, so the count stops as soon as it passes the
limit.
-/

namespace SmartHelmet.Regex

/-- The most memory, in bytes, the automaton of a pattern may take. -/
def sizeLimit : Nat := 10 * (1 <<< 20)

/-- The bytes of one state. -/
def stateBytes : Nat := 32

/-- The UTF-8 bytes of a code point. -/
def utf8Bytes (n : Nat) : List Nat :=
  if n < 0x80 then [n]
  else if n < 0x800 then [0xC0 + n / 64, 0x80 + n % 64]
  else if n < 0x10000 then [0xE0 + n / 4096, 0x80 + n / 64 % 64, 0x80 + n % 64]
  else [0xF0 + n / 262144, 0x80 + n / 4096 % 64, 0x80 + n / 64 % 64, 0x80 + n % 64]

/-- The largest code point of `k` UTF-8 bytes. -/
def widestOf : Nat → Nat
  | 1 => 0x7F
  | 2 => 0x7FF
  | 3 => 0xFFFF
  | _ => 0x10FFFF

/-- A cut of a range at the first boundary of a block of `64 ^ i` code points it crosses
    unaligned: the part kept and the part put back. -/
def alignCut (lo hi : Nat) : List Nat → Option (Nat × (Nat × Nat))
  | [] => none
  | i :: rest =>
    let unit := 64 ^ i
    if lo / unit != hi / unit then
      if lo % unit != 0 then some (lo - lo % unit + unit - 1, (lo - lo % unit + unit, hi))
      else if hi % unit != unit - 1 then some (hi - hi % unit - 1, (hi - hi % unit, hi))
      else alignCut lo hi rest
    else alignCut lo hi rest

/-- **One UTF-8 byte sequence** at the front of a range of code points, the rest put back on
    the stack: surrogates are cut out, then the range is cut where the byte length changes and
    where a block is crossed unaligned, until the bytes of its ends pair up. -/
def utf8Front : Nat → Nat → Nat → List (Nat × Nat) → Option (List (Nat × Nat)) × List (Nat × Nat)
  | 0, _, _, stack => (none, stack)
  | fuel + 1, lo, hi, stack =>
    if lo < 0xE000 && hi > 0xD7FF then utf8Front fuel lo 0xD7FF ((0xE000, hi) :: stack)
    else if lo > hi then (none, stack)
    else
      match [1, 2, 3].find? (fun i => lo ≤ widestOf i && widestOf i < hi) with
      | some i => utf8Front fuel lo (widestOf i) ((widestOf i + 1, hi) :: stack)
      | none =>
        if hi ≤ 0x7F then (some [(lo, hi)], stack)
        else
          match alignCut lo hi [1, 2, 3] with
          | some (hi', back) => utf8Front fuel lo hi' (back :: stack)
          | none => (some ((utf8Bytes lo).zip (utf8Bytes hi)), stack)

/-- **The UTF-8 byte sequences of a range** of code points, in order. -/
def utf8Sequences (lo hi : Nat) : List (List (Nat × Nat)) :=
  go 512 [(lo, hi)] []
where
  go : Nat → List (Nat × Nat) → List (List (Nat × Nat)) → List (List (Nat × Nat))
  | 0, _, acc => acc.reverse
  | _ + 1, [], acc => acc.reverse
  | fuel + 1, (lo, hi) :: stack, acc =>
    match utf8Front 64 lo hi stack with
    | (some seq, stack') => go fuel stack' (seq :: acc)
    | (none, stack') => go fuel stack' acc

/-- A hash of numbers, multiplying and mixing each in (FNV-1a). -/
def mixHash (xs : List Nat) : UInt64 :=
  xs.foldl (fun h x => (h ^^^ x.toUInt64) * 1099511628211) 14695981039346656037

/-- The count so far: states, their extra bytes, which states fork, and whether the limit is
    passed. -/
structure Tally where
  states : Nat := 0
  extra : Nat := 0
  forks : Array Bool := #[]
  exceeded : Bool := false

/-- Counting states. -/
abbrev TallyM := StateM Tally

/-- A piece of an automaton: its first state and the state that links to what follows. -/
structure Piece where
  start : Nat
  stop : Nat

/-- **Add a state**, a fork or not, with its extra bytes; its number. -/
def addState (fork : Bool) (extra : Nat) : TallyM Nat := do
  let t ← get
  let states := t.states + 1
  let extra := t.extra + extra
  set ({ states, extra, forks := t.forks.push fork,
         exceeded := t.exceeded || states * stateBytes + extra > sizeLimit } : Tally)
  return t.states

/-- **Link a state** to another: a fork gains a branch. -/
def link (src : Nat) : TallyM Unit := do
  let t ← get
  if t.forks.getD src false then
    let extra := t.extra + 4
    set { t with extra, exceeded := t.exceeded || t.states * stateBytes + extra > sizeLimit }

/-- An empty state as a piece. -/
def emptyPiece : TallyM Piece := do
  let i ← addState false 0
  return ⟨i, i⟩

/-- Pieces one after another, in the order given. -/
def chainPieces : List (TallyM Piece) → TallyM Piece
  | [] => emptyPiece
  | first :: rest => do
    let f ← first
    let stop ← rest.foldlM (fun stop item => do
      let g ← item
      link stop
      return g.stop) f.stop
    return ⟨f.start, stop⟩

/-- `n` copies of a piece; an empty state when none. -/
def copies (piece : TallyM Piece) (n : Nat) : TallyM Piece := do
  if n == 0 then return ← emptyPiece
  let f ← piece
  let mut stop := f.stop
  for _ in [1:n] do
    if (← get).exceeded then break
    let g ← piece
    link stop
    stop := g.stop
  return ⟨f.start, stop⟩

/-- A byte class within ASCII: an empty end and a state with its ranges. -/
def rangesPiece (count : Nat) : TallyM Piece := do
  let stop ← addState false 0
  let start ← addState false (8 * count)
  return ⟨start, stop⟩

/-- The repetition of a piece, `lo` times at least and `hi` at most. -/
def repetitionPiece (piece : TallyM Piece) (lo : Nat) (hi : Option Nat) (bodyMin : Option Nat) :
    TallyM Piece := do
  match lo, hi with
  | 0, some 1 =>
    let fork ← addState true 0
    let body ← piece
    let stop ← addState false 0
    link fork; link fork; link body.stop
    return ⟨fork, stop⟩
  | 0, none =>
    if bodyMin.any (· > 0) then
      let fork ← addState true 0
      let body ← piece
      link fork; link body.stop
      return ⟨fork, fork⟩
    else
      let body ← piece
      let plus ← addState true 0
      link body.stop; link plus
      let question ← addState true 0
      let stop ← addState false 0
      link question; link question; link plus
      return ⟨question, stop⟩
  | 1, none =>
    let body ← piece
    let fork ← addState true 0
    link body.stop; link fork
    return ⟨body.start, fork⟩
  | n, none =>
    let front ← copies piece (n - 1)
    let last ← piece
    let fork ← addState true 0
    link front.stop; link last.stop; link fork
    return ⟨front.start, fork⟩
  | n, some m =>
    let front ← copies piece n
    if n == m then return front
    let stop ← addState false 0
    let mut prev := front.stop
    for _ in [n:m] do
      if (← get).exceeded then break
      let fork ← addState true 0
      let body ← piece
      link prev; link fork; link fork
      prev := body.stop
    link prev
    return ⟨front.start, stop⟩

/-- A node of the byte sequences not yet turned into states: its finished ranges and the last
    range, still open. -/
structure OpenNode where
  done : List (Nat × Nat × Nat) := []
  last : Option (Nat × Nat) := none

/-- The table of states made for nodes, by slot. -/
abbrev NodeTable := Std.HashMap Nat (List (Nat × Nat × Nat) × Nat)

/-- **A node as a state**: the same one when its slot holds it, else a new one. -/
def nodeState (node : List (Nat × Nat × Nat)) : StateT NodeTable TallyM Nat := do
  let slot := (mixHash (node.flatMap fun (a, b, c) => [a, b, c]) % 10000).toNat
  if let some (key, id) := (← get).get? slot then
    if key == node then return id
  let id ← addState false (8 * node.length)
  modify fun t => t.insert slot (node, id)
  return id

/-- Close a node's open range onto a state. -/
def OpenNode.close (n : OpenNode) (next : Nat) : OpenNode :=
  match n.last with
  | some (a, b) => { done := n.done ++ [(a, b, next)], last := none }
  | none => n

/-- A list with its last item changed. -/
def changeLast {α : Type} (f : α → α) (xs : List α) : List α :=
  match xs.getLast? with
  | some x => xs.dropLast ++ [f x]
  | none => xs

/-- **Freeze the open nodes after the first `keep`** into states, last first, each closed onto
    the state of the one after it; the last node kept is closed onto the first of them. -/
def freezeFrom (target keep : Nat) (nodes : List OpenNode) :
    StateT NodeTable TallyM (List OpenNode) := do
  let frozen := (nodes.drop (keep + 1)).reverse
  let next ← frozen.foldlM (fun next n => nodeState (n.close next).done) target
  return changeLast (·.close next) (nodes.take (keep + 1))

/-- **Add one byte sequence** to the open nodes: the part shared with the open path stays, the
    rest of the open path is frozen, the new part opens. -/
def addSequence (target : Nat) (nodes : List OpenNode) (seq : List (Nat × Nat)) :
    StateT NodeTable TallyM (List OpenNode) := do
  let shared := ((seq.zip nodes).takeWhile fun (r, n) => n.last == some r).length
  let nodes ← freezeFrom target shared nodes
  match seq.drop shared with
  | [] => return nodes
  | r :: more =>
    return changeLast (fun n => { n with last := some r }) nodes ++
      more.map fun r => ({ last := some r } : OpenNode)

/-- **A class beyond ASCII, forwards**: its byte sequences as a shared automaton. -/
def classForward (rs : Ranges) : TallyM Piece := do
  let target ← addState false 0
  let seqs := rs.flatMap fun (lo, hi) => utf8Sequences lo hi
  let run : StateT NodeTable TallyM Nat := do
    let mut nodes : List OpenNode := [{}]
    for seq in seqs do
      if (← getThe Tally).exceeded then break
      nodes ← addSequence target nodes seq
    let root ← freezeFrom target 0 nodes
    nodeState ((root.head?.map (·.done)).getD [])
  let (start, _) ← run.run {}
  return ⟨start, target⟩

/-- **A class beyond ASCII, backwards**: a fork into each byte sequence, read from its last
    byte, equal suffixes shared. -/
def classBackward (rs : Ranges) : TallyM Piece := do
  let fork ← addState true 0
  let stop ← addState false 0
  let mut table : Std.HashMap Nat ((Nat × Nat × Nat) × Nat) := {}
  for (lo, hi) in rs do
    for seq in utf8Sequences lo hi do
      if (← get).exceeded then break
      let mut stateAt := stop
      for (a, b) in seq do
        let key := (stateAt, a, b)
        let slot := (mixHash [stateAt, a, b] % 1000).toNat
        match table.get? slot with
        | some (k, id) =>
          if k == key then stateAt := id
          else
            let id ← addState false 0
            table := table.insert slot (key, id)
            stateAt := id
        | none =>
          let id ← addState false 0
          table := table.insert slot (key, id)
          stateAt := id
      link fork
  return ⟨fork, stop⟩

/-- A node of a trie of literals: its edges by byte, in runs closed by a match. -/
structure TrieNode where
  edges : Array (Nat × Nat) := #[]
  runs : Array (Nat × Nat) := #[]

/-- Where the open run of edges begins. -/
def TrieNode.openFrom (n : TrieNode) : Nat := (n.runs.back?.map (·.2)).getD 0

/-- **Follow or add an edge** by a byte in the open run of a node. -/
def trieStep (nodes : Array TrieNode) (src byte : Nat) : Array TrieNode × Nat :=
  let n := nodes.getD src {}
  let start := n.openFrom
  let run := n.edges.extract start n.edges.size
  match run.find? (·.1 == byte) with
  | some (_, next) => (nodes, next)
  | none =>
    let next := nodes.size
    let pos := start + (run.findIdx? (·.1 > byte)).getD run.size
    let edges := n.edges.extract 0 pos ++ #[(byte, next)] ++ n.edges.extract pos n.edges.size
    ((nodes.setIfInBounds src { n with edges }).push {}, next)

/-- **Add a literal** to a trie: its path, then a match where it ends. -/
def trieAdd (nodes : Array TrieNode) (bytes : List Nat) : Array TrieNode :=
  let (nodes, last) := bytes.foldl (fun (acc : Array TrieNode × Nat) b =>
    trieStep acc.1 acc.2 b) (nodes, 0)
  let n := nodes.getD last {}
  if n.edges.isEmpty && !n.runs.isEmpty then nodes
  else nodes.setIfInBounds last { n with runs := n.runs.push (n.openFrom, n.edges.size) }

/-- **The states of a trie node**: per run of edges, one state with its byte ranges (a plain
    one for a single edge), children first; a fork over the runs, with the end between them. -/
def trieStates (nodes : Array TrieNode) (stop : Nat) : Nat → Nat → TallyM Nat
  | 0, _ => pure stop
  | fuel + 1, id => do
    let n := nodes.getD id {}
    let runs := n.runs.toList.map (fun (a, b) => n.edges.extract a b) ++
      [n.edges.extract n.openFrom n.edges.size]
    let mut branches := 0
    let mut first := true
    for run in runs do
      if !first then branches := branches + 1
      first := false
      for (_, next) in run do
        if !(nodes.getD next {}).edges.isEmpty then
          let _ ← trieStates nodes stop fuel next
      if run.size == 1 then
        let _ ← addState false 0
        branches := branches + 1
      else if run.size > 1 then
        let _ ← addState false (8 * run.size)
        branches := branches + 1
    addState true (4 * branches)

/-- **Alternatives that are all literals**, as a trie of their bytes (read backwards when the
    automaton is). -/
def literalTrie (backward : Bool) (texts : List (List Char)) : TallyM Piece := do
  let nodes := texts.foldl (fun nodes cs =>
    let bytes := cs.flatMap fun c => utf8Bytes c.toNat
    trieAdd nodes (if backward then bytes.reverse else bytes)) #[{}]
  let stop ← addState false 0
  let start ← trieStates nodes stop (nodes.size + 1) 0
  return ⟨start, stop⟩

/-- Branches that fork from one state and meet in an empty one. -/
def forkPieces : List (TallyM Piece) → TallyM Piece
  | [] => do
    let i ← addState false 0
    return ⟨i, i⟩
  | [only] => only
  | a :: b :: rest => do
    let first ← a
    let second ← b
    let fork ← addState true 0
    let stop ← addState false 0
    link fork; link first.stop; link fork; link second.stop
    for item in rest do
      let p ← item
      link fork; link p.stop
    return ⟨fork, stop⟩

/-- The literal text of each alternative, when there are two or more and all are literals. -/
def literalTexts (es : List Expr) : Option (List (List Char)) :=
  if es.length < 2 then none
  else es.mapM fun e => match e with
    | .literal cs => some cs
    | _ => none

mutual
/-- **The states of an expression**, forwards with groups or backwards without. -/
def Expr.tally (backward : Bool) : Expr → TallyM Piece
  | .empty => emptyPiece
  | .literal cs =>
    let bytes := cs.flatMap fun c => utf8Bytes c.toNat
    chainPieces ((if backward then bytes.reverse else bytes).map fun _ => emptyPiece)
  | .chars rs =>
    if rs.isAscii then rangesPiece rs.length
    else if backward then classBackward rs
    else classForward rs
  | .look _ => emptyPiece
  | .repetition lo hi _ e => repetitionPiece (e.tally backward) lo hi e.minLen
  | .capture _ e =>
    if backward then e.tally backward
    else do
      let opening ← addState false 0
      let body ← e.tally backward
      let close ← addState false 0
      link opening; link body.stop
      return ⟨opening, close⟩
  | .concat es =>
    let pieces := Expr.tallyEach backward es
    chainPieces (if backward then pieces.reverse else pieces)
  | .alternation es =>
    match literalTexts es with
    | some texts => literalTrie backward texts
    | none => forkPieces (Expr.tallyEach backward es)
/-- The pieces of each expression, to be built in order. -/
def Expr.tallyEach (backward : Bool) : List Expr → List (TallyM Piece)
  | [] => []
  | e :: rest => e.tally backward :: Expr.tallyEach backward rest
end

/-- **The automaton of a whole pattern**: the loop in front unless anchored, the pattern (in a
    group when forwards), and the accepting state. -/
def Expr.automaton (backward : Bool) (e : Expr) : TallyM Unit := do
  let anchored := if backward then e.trailsWith .finish else e.leadsWith .start
  let front ← if anchored then emptyPiece
    else repetitionPiece (rangesPiece 1) 0 none (some 1)
  let body ← if backward then e.tally backward else do
    let opening ← addState false 0
    let inner ← e.tally backward
    let close ← addState false 0
    link opening; link inner.stop
    pure ⟨opening, close⟩
  let _ ← addState false 0
  link body.stop
  link front.stop

/-- **Whether a pattern's automata pass the size limit**, forwards or backwards. -/
def Expr.tooLarge (e : Expr) : Bool :=
  ((e.automaton false).run {}).2.exceeded || ((e.automaton true).run {}).2.exceeded

end SmartHelmet.Regex
