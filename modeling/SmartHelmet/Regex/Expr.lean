import SmartHelmet.Regex.CharClass
/-!
# Regular expressions

What a pattern means once read: literal texts, classes of characters, zero-width looks,
repetitions, numbered groups, sequences and alternatives.

Expressions are built only through the constructors below, which keep them in one simplified
form: literals next to each other join, empties vanish from sequences, a class of one
character is that character's literal, alternatives of single characters or of classes become
one class, a prefix common to all alternatives comes out in front, and a repetition of `{0}`
is empty and of `{1}` is its body. None of this changes what matches, but the size of the
automaton a pattern compiles to depends on it, and a pattern too large is refused.

Lengths are counted in bytes of UTF-8.
-/

namespace SmartHelmet.Regex

/-- A zero-width condition between two characters. -/
inductive Look where
  | start
  | finish
  | startLF
  | endLF
  | startCRLF
  | endCRLF
  | wordAscii
  | wordAsciiNegate
  | wordUnicode
  | wordUnicodeNegate
  | wordStartAscii
  | wordEndAscii
  | wordStartUnicode
  | wordEndUnicode
  | wordStartHalfAscii
  | wordEndHalfAscii
  | wordStartHalfUnicode
  | wordEndHalfUnicode
  deriving Repr, BEq, DecidableEq

/-- A regular expression. -/
inductive Expr where
  /-- The empty text. -/
  | empty
  /-- A text, at least one character long. -/
  | literal (cs : List Char)
  /-- One character of a class of at least two; the empty class never matches. -/
  | chars (ranges : Ranges)
  /-- A zero-width condition. -/
  | look (l : Look)
  /-- At least `min` and at most `max` (when given) repetitions, the most first when greedy. -/
  | repetition (min : Nat) (max : Option Nat) (greedy : Bool) (e : Expr)
  /-- A numbered group. -/
  | capture (index : Nat) (e : Expr)
  /-- One after the other. -/
  | concat (es : List Expr)
  /-- Any one of them. -/
  | alternation (es : List Expr)
  deriving Repr, BEq

/-- The number of bytes a code point takes in UTF-8. -/
def utf8Width (n : Nat) : Nat :=
  if n < 0x80 then 1 else if n < 0x800 then 2 else if n < 0x10000 then 3 else 4

/-- The byte length of a text in UTF-8. -/
def textWidth (cs : List Char) : Nat := cs.foldr (fun c n => utf8Width c.toNat + n) 0

/-- Add two lengths that may be unknown. -/
def addLen : Option Nat → Option Nat → Option Nat
  | some a, some b => some (a + b)
  | _, _ => none

mutual
/-- **The fewest bytes** a match takes; none when nothing matches. -/
def Expr.minLen : Expr → Option Nat
  | .empty => some 0
  | .literal cs => some (textWidth cs)
  | .chars rs => rs.head?.map fun r => utf8Width r.1
  | .look _ => some 0
  | .repetition lo _ _ e => e.minLen.map (· * lo)
  | .capture _ e => e.minLen
  | .concat es => Expr.minLenSeq es
  | .alternation es => Expr.minLenAlt none es
/-- The fewest bytes of a sequence. -/
def Expr.minLenSeq : List Expr → Option Nat
  | [] => some 0
  | e :: rest => addLen e.minLen (Expr.minLenSeq rest)
/-- The fewest bytes among alternatives; an alternative that never matches makes it
    unknown. -/
def Expr.minLenAlt (best : Option Nat) : List Expr → Option Nat
  | [] => best
  | e :: rest =>
    match e.minLen with
    | none => none
    | some m => Expr.minLenAlt (some (match best with | some b => min b m | none => m)) rest
end

mutual
/-- **The most bytes** a match takes; none when unbounded or when nothing matches. -/
def Expr.maxLen : Expr → Option Nat
  | .empty => some 0
  | .literal cs => some (textWidth cs)
  | .chars rs => rs.getLast?.map fun r => utf8Width r.2
  | .look _ => some 0
  | .repetition _ hi _ e =>
    match hi, e.maxLen with
    | some m, some l => some (l * m)
    | _, _ => none
  | .capture _ e => e.maxLen
  | .concat es => Expr.maxLenSeq es
  | .alternation es => Expr.maxLenAlt none es
/-- The most bytes of a sequence. -/
def Expr.maxLenSeq : List Expr → Option Nat
  | [] => some 0
  | e :: rest => addLen e.maxLen (Expr.maxLenSeq rest)
/-- The most bytes among alternatives; an unbounded one makes it unknown. -/
def Expr.maxLenAlt (best : Option Nat) : List Expr → Option Nat
  | [] => best
  | e :: rest =>
    match e.maxLen with
    | none => none
    | some m => Expr.maxLenAlt (some (match best with | some b => max b m | none => m)) rest
end

/-- Whether an expression can only match the empty text. -/
def Expr.onlyEmpty (e : Expr) : Bool := e.maxLen == some 0

mutual
/-- **Whether every match begins with a look** `l`: the looks in front of a sequence are
    those of its items up to the first that can take a character. -/
def Expr.leadsWith (l : Look) : Expr → Bool
  | .look l' => l' == l
  | .repetition lo _ _ e => lo > 0 && e.leadsWith l
  | .capture _ e => e.leadsWith l
  | .concat es => Expr.leadsWithSeq l es
  | .alternation es => Expr.leadsWithAll l es
  | _ => false
/-- Whether a sequence begins with the look. -/
def Expr.leadsWithSeq (l : Look) : List Expr → Bool
  | [] => false
  | e :: rest => e.leadsWith l || (e.onlyEmpty && Expr.leadsWithSeq l rest)
/-- Whether all alternatives begin with the look. -/
def Expr.leadsWithAll (l : Look) : List Expr → Bool
  | [] => true
  | e :: rest => e.leadsWith l && Expr.leadsWithAll l rest
end

mutual
/-- **Whether every match ends with a look** `l`. -/
def Expr.trailsWith (l : Look) : Expr → Bool
  | .look l' => l' == l
  | .repetition lo _ _ e => lo > 0 && e.trailsWith l
  | .capture _ e => e.trailsWith l
  | .concat es => Expr.trailsWithSeq l es
  | .alternation es => Expr.trailsWithAll l es
  | _ => false
/-- Whether a sequence ends with the look: an item counts when all after it match only the
    empty text. -/
def Expr.trailsWithSeq (l : Look) : List Expr → Bool
  | [] => false
  | e :: rest => Expr.trailsWithSeq l rest || (rest.all Expr.onlyEmpty && e.trailsWith l)
/-- Whether all alternatives end with the look. -/
def Expr.trailsWithAll (l : Look) : List Expr → Bool
  | [] => true
  | e :: rest => e.trailsWith l && Expr.trailsWithAll l rest
end

/-- A text as an expression. -/
def Expr.ofText (cs : List Char) : Expr := if cs.isEmpty then .empty else .literal cs

/-- **A class as an expression**: one character is its literal. -/
def Expr.ofClass (rs : Ranges) : Expr :=
  match rs with
  | [(lo, hi)] => if lo == hi then .literal [Char.ofNat lo] else .chars rs
  | _ => .chars rs

/-- The expression that never matches. -/
def Expr.fail : Expr := .chars []

/-- The literal of a gathered text, if any. -/
def pendingText (pending : List Char) : List Expr :=
  if pending.isEmpty then [] else [.literal pending]

/-- **Items of a sequence**: nested sequences opened (one level: built by `Expr.seq`, they hold
    none themselves), empties dropped and neighbouring literals joined. -/
def joinSeq (es : List Expr) : List Expr :=
  let flat := es.flatMap fun e => match e with
    | .concat inner => inner
    | .empty => []
    | e => [e]
  let (done, pending) := flat.foldl (fun (acc : List Expr × List Char) e =>
    match e with
    | .literal cs => (acc.1, acc.2 ++ cs)
    | e => (acc.1 ++ pendingText acc.2 ++ [e], [])) ([], [])
  done ++ pendingText pending

/-- **A sequence**, simplified. -/
def Expr.seq (es : List Expr) : Expr :=
  match joinSeq es with
  | [] => .empty
  | [e] => e
  | es => .concat es

/-- The single character of each alternative, when each is the literal of one. -/
def singleChars (es : List Expr) : Option (List Nat) :=
  es.mapM fun e => match e with
    | .literal [c] => some c.toNat
    | _ => none

/-- The classes of the alternatives, when each is a class. -/
def classesOf (es : List Expr) : Option (List Ranges) :=
  es.mapM fun e => match e with
    | .chars rs => some rs
    | _ => none

/-- The longest common beginning of two lists. -/
def commonStart : List Expr → List Expr → List Expr
  | a :: as, b :: bs => if a == b then a :: commonStart as bs else []
  | _, _ => []

/-- The items of each alternative, when each is a sequence. -/
def sequencesOf (es : List Expr) : Option (List (List Expr)) :=
  es.mapM fun e => match e with
    | .concat items => some items
    | _ => none

/-- The alternatives flattened: nested alternations opened. -/
def flattenAlts (es : List Expr) : List Expr :=
  es.flatMap fun e => match e with
    | .alternation inner => inner
    | e => [e]

/-- **Alternatives**, simplified: single characters or classes become one class, and a
    beginning common to all sequences comes out in front. The depth bounds how often the
    common beginning is taken out; each time shortens every alternative, so the number of
    their items is enough. -/
def Expr.alt (es : List Expr) : Expr :=
  go (es.foldr (fun e n => (match e with | .concat items => items.length | _ => 1) + n) 1) es
where
  go : Nat → List Expr → Expr
  | 0, es => .alternation es
  | depth + 1, es =>
    match flattenAlts es with
    | [] => Expr.fail
    | [e] => e
    | es =>
      match singleChars es with
      | some cs => Expr.ofClass (canonical (cs.map fun c => (c, c)))
      | none =>
        match classesOf es with
        | some rss => Expr.ofClass (rss.foldl Ranges.union [])
        | none =>
          match sequencesOf es with
          | some (first :: others) =>
            let common := others.foldl commonStart first
            if common.isEmpty then .alternation es
            else
              let rests := (first :: others).map fun items => Expr.seq (items.drop common.length)
              Expr.seq (common ++ [go depth rests])
          | _ => .alternation es

/-- **A repetition**, simplified: a body that matches only the empty text repeats at most
    once, `{0}` is empty and `{1}` is the body. -/
def Expr.repeat (lo : Nat) (hi : Option Nat) (greedy : Bool) (e : Expr) : Expr :=
  let (lo, hi) := if e.onlyEmpty then (min lo 1, some (min (hi.getD 1) 1)) else (lo, hi)
  if lo == 0 && hi == some 0 then .empty
  else if lo == 1 && hi == some 1 then e
  else .repetition lo hi greedy e

end SmartHelmet.Regex
