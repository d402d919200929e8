import SmartHelmet.Regex.Resolve
/-!
# Running a pattern

An expression is compiled to a program of nodes, each of which reads one character of a class,
tests a zero-width condition, forks, or accepts; then the program runs over a text, keeping
the set of nodes it may be at, one character at a time.

* Compilation goes from the end backwards: each piece is compiled knowing the node that
  follows it, so a sequence is its pieces compiled last to first, and an alternative is a
  chain of forks into its branches.
* A repetition `{n,m}` is `n` copies followed by `m - n` nested optional ones; an unbounded one
  ends in a loop through a fork.
* A search may start anywhere: the start node joins the set at every place of the text. The
  text matches when the accepting node is reached at some place.
-/

namespace SmartHelmet.Regex

open SmartHelmet.Unicode

/-- One node of a compiled program. -/
inductive Node where
  /-- Read a character of the class, then go on at `next`. -/
  | chars (ranges : Ranges) (next : Nat)
  /-- Go on at both. -/
  | fork (first second : Nat)
  /-- Go on at `next` when the condition holds here. -/
  | look (l : Look) (next : Nat)
  /-- The text matches. -/
  | accept
  deriving Repr

/-- Compilation: the nodes so far. -/
abbrev CompileM := StateM (Array Node)

/-- Add a node; its index. -/
def emit (n : Node) : CompileM Nat := modifyGet fun a => (a.size, a.push n)

/-- `count` copies of a piece one after another, before `next`. -/
def repeatPiece (piece : Nat → CompileM Nat) : Nat → Nat → CompileM Nat
  | 0, next => pure next
  | count + 1, next => do
    let rest ← piece next
    repeatPiece piece count rest

/-- `count` nested optional copies of a piece, before `next`. -/
def optionalPieces (piece : Nat → CompileM Nat) (next : Nat) : Nat → Nat → CompileM Nat
  | 0, cur => pure cur
  | count + 1, cur => do
    let body ← piece cur
    let cur ← emit (.fork body next)
    optionalPieces piece next count cur

/-- A piece repeated without end, before `next`: a fork into the piece or on, which the piece
    returns to. -/
def loopPiece (piece : Nat → CompileM Nat) (next : Nat) : CompileM Nat := do
  let fork ← emit (.fork next next)
  let body ← piece fork
  modify fun a => a.setIfInBounds fork (.fork body next)
  pure fork

/-- A text read character by character, before `next`. -/
def textPiece (cs : List Char) (next : Nat) : CompileM Nat :=
  cs.foldrM (fun c after => emit (.chars [(c.toNat, c.toNat)] after)) next

mutual
/-- **Compile an expression** to go on at `next`; its first node. -/
def Expr.compile : Expr → Nat → CompileM Nat
  | .empty, next => pure next
  | .literal cs, next => textPiece cs next
  | .chars rs, next => emit (.chars rs next)
  | .look l, next => emit (.look l next)
  | .repetition lo hi _ e, next => do
    let piece := fun n => Expr.compile e n
    let tail ← match hi with
      | none => loopPiece piece next
      | some hi => optionalPieces piece next (hi - lo) next
    repeatPiece piece lo tail
  | .capture _ e, next => Expr.compile e next
  | .concat es, next => Expr.compileSeq es next
  | .alternation es, next => Expr.compileAlt es next
/-- Compile a sequence, last piece first. -/
def Expr.compileSeq : List Expr → Nat → CompileM Nat
  | [], next => pure next
  | e :: rest, next => do
    let after ← Expr.compileSeq rest next
    Expr.compile e after
/-- Compile alternatives: forks into each branch in turn; none matches nothing. -/
def Expr.compileAlt : List Expr → Nat → CompileM Nat
  | [], next => emit (.chars [] next)
  | [e], next => Expr.compile e next
  | e :: rest, next => do
    let first ← Expr.compile e next
    let others ← Expr.compileAlt rest next
    emit (.fork first others)
end

/-- A compiled program: its nodes and where it starts. -/
structure Program where
  nodes : Array Node
  start : Nat
  deriving Repr

/-- **Compile an expression** to a program; node 0 accepts. -/
def Program.ofExpr (e : Expr) : Program :=
  let (start, nodes) := (e.compile 0).run #[.accept]
  ⟨nodes, start⟩

/-- Whether an ASCII character is a word character. -/
def isAsciiWord (c : Char) : Bool :=
  c.toNat < 0x80 && (c.isAlphanum || c == '_')

/-- Whether a condition holds between the character before and the one after. -/
def Look.holds (l : Look) (before after : Option Char) : Bool :=
  let word (p : Char → Bool) (c : Option Char) := (c.map p).getD false
  match l with
  | .start => before.isNone
  | .finish => after.isNone
  | .startLF => before.isNone || before == some '\n'
  | .endLF => after.isNone || after == some '\n'
  | .startCRLF =>
    before.isNone || before == some '\n' || (before == some '\r' && after != some '\n')
  | .endCRLF =>
    after.isNone || after == some '\r' || (after == some '\n' && before != some '\r')
  | .wordAscii => word isAsciiWord before != word isAsciiWord after
  | .wordAsciiNegate => word isAsciiWord before == word isAsciiWord after
  | .wordUnicode => word isWordChar before != word isWordChar after
  | .wordUnicodeNegate => word isWordChar before == word isWordChar after
  | .wordStartAscii => !word isAsciiWord before && word isAsciiWord after
  | .wordEndAscii => word isAsciiWord before && !word isAsciiWord after
  | .wordStartUnicode => !word isWordChar before && word isWordChar after
  | .wordEndUnicode => word isWordChar before && !word isWordChar after
  | .wordStartHalfAscii => !word isAsciiWord before
  | .wordEndHalfAscii => !word isAsciiWord after
  | .wordStartHalfUnicode => !word isWordChar before
  | .wordEndHalfUnicode => !word isWordChar after

/-- **The nodes reached without reading** from those pending, at a place between `before` and
    `after`: the nodes that read or accept, each once. Every step either drops a node already
    seen or marks a new one and adds at most two, so the fuel given by `Program.reach` lasts. -/
def Program.close (p : Program) (before after : Option Char) :
    Nat → List Nat → Array Bool → List Nat → List Nat
  | 0, _, _, found => found
  | _ + 1, [], _, found => found
  | fuel + 1, i :: pending, seen, found =>
    if seen.getD i true then p.close before after fuel pending seen found
    else
      let seen := seen.setIfInBounds i true
      match p.nodes[i]? with
      | some (.fork a b) => p.close before after fuel (a :: b :: pending) seen found
      | some (.look l next) =>
        if l.holds before after then p.close before after fuel (next :: pending) seen found
        else p.close before after fuel pending seen found
      | some _ => p.close before after fuel pending seen (i :: found)
      | none => p.close before after fuel pending seen found

/-- The nodes reached without reading from those given. -/
def Program.reach (p : Program) (before after : Option Char) (starts : List Nat) : List Nat :=
  p.close before after (starts.length + 2 * p.nodes.size + 1) starts
    (Array.replicate p.nodes.size false) []

/-- Where the nodes that read `c` go. -/
def Program.advance (p : Program) (c : Char) (live : List Nat) : List Nat :=
  live.filterMap fun (i : Nat) => match (p.nodes[i]? : Option Node) with
    | some (.chars rs next) => if rs.contains c.toNat then some next else none
    | _ => none

/-- Whether a node accepts. -/
def Program.accepts (p : Program) (i : Nat) : Bool :=
  match p.nodes[i]? with
  | some .accept => true
  | _ => false

/-- **Search the rest of a text**, after `before`, with the nodes pending here; a new search
    starts at every place. -/
def Program.search (p : Program) (before : Option Char) : List Char → List Nat → Bool
  | rest, pending =>
    let live := p.reach before rest.head? (p.start :: pending)
    if live.any p.accepts then true
    else match rest with
      | [] => false
      | c :: cs => p.search (some c) cs (p.advance c live)

/-- **Whether a text holds a match** of the program. -/
def Program.isMatch (p : Program) (text : String) : Bool :=
  p.search none text.toList []

end SmartHelmet.Regex
