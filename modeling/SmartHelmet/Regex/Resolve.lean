import SmartHelmet.Regex.Property
import SmartHelmet.Regex.Expr
/-!
# From syntax to what is matched

The syntax tree of a pattern is resolved, under its flags, into an expression (`Expr`):
literals, classes of characters, zero-width looks, repetitions with bounds, numbered groups,
sequences and alternatives.

* Flags hold from where they are set to the end of the enclosing group: a flag setting changes
  them for what follows it, also in later branches; a group with flags changes them inside it
  only. Unicode is on and all other flags are off at the start.
* `i` closes literals and classes under simple case folding (before a class is negated);
  `s` lets `.` match a line feed; `R` makes `.` skip carriage returns too and lines end at
  either; `m` makes `^` and `$` match at line ends.
* Without Unicode (`-u`), classes are ASCII, `\b` looks at ASCII word characters, and anything
  that could match bytes that are not UTF-8 — a negated class, `.`, a byte `\x80` and above —
  is an error, as is a Unicode class or a character beyond ASCII.
-/

namespace SmartHelmet.Regex

/-- The flags in force; `none` when not set since the start. -/
structure Flags where
  caseInsensitive : Option Bool := none
  multiLine : Option Bool := none
  dotMatchesNewLine : Option Bool := none
  swapGreed : Option Bool := none
  unicode : Option Bool := none
  crlf : Option Bool := none
  ignoreWhitespace : Option Bool := none

/-- The flags a flag group sets. -/
def Flags.ofItems (items : List FlagsItem) : Flags :=
  (items.foldl (fun (acc : Flags × Bool) i =>
    let (f, enable) := acc
    match i.kind with
    | .negation => (f, false)
    | .flag .caseInsensitive => ({ f with caseInsensitive := some enable }, enable)
    | .flag .multiLine => ({ f with multiLine := some enable }, enable)
    | .flag .dotMatchesNewLine => ({ f with dotMatchesNewLine := some enable }, enable)
    | .flag .swapGreed => ({ f with swapGreed := some enable }, enable)
    | .flag .unicode => ({ f with unicode := some enable }, enable)
    | .flag .crlf => ({ f with crlf := some enable }, enable)
    | .flag .ignoreWhitespace => ({ f with ignoreWhitespace := some enable }, enable))
    ({}, true)).1

/-- Flags newly set, the earlier ones kept where these say nothing. -/
def Flags.over (new old : Flags) : Flags where
  caseInsensitive := new.caseInsensitive.orElse fun _ => old.caseInsensitive
  multiLine := new.multiLine.orElse fun _ => old.multiLine
  dotMatchesNewLine := new.dotMatchesNewLine.orElse fun _ => old.dotMatchesNewLine
  swapGreed := new.swapGreed.orElse fun _ => old.swapGreed
  unicode := new.unicode.orElse fun _ => old.unicode
  crlf := new.crlf.orElse fun _ => old.crlf
  ignoreWhitespace := new.ignoreWhitespace.orElse fun _ => old.ignoreWhitespace

/-- Whether case is ignored. -/
def Flags.ci (f : Flags) : Bool := f.caseInsensitive.getD false

/-- Whether Unicode is on. -/
def Flags.uni (f : Flags) : Bool := f.unicode.getD true

/-- Resolving: a step that may fail with an error. -/
abbrev ResolveM := Except Error

/-- Fail with an error. -/
def refuse {α : Type} (span : Span) (kind : ErrorKind) : ResolveM α := .error ⟨kind, span⟩

/-- A character class, folded when case is ignored, then negated when asked (Unicode on). -/
def foldAndNegate (f : Flags) (negated : Bool) (rs : Ranges) : Ranges :=
  let rs := if f.ci then rs.caseFold else rs
  if negated then rs.complement topChar else rs

/-- A byte class, folded and negated; it must stay ASCII. -/
def bytesFoldAndNegate (f : Flags) (span : Span) (negated : Bool) (rs : Ranges) :
    ResolveM Ranges := do
  let rs := if f.ci then rs.asciiCaseFold else rs
  let rs := if negated then rs.complement topByte else rs
  if !rs.isAscii then refuse span .invalidUtf8
  return rs

/-- The character a literal stands for; a byte `\x80` and above fails without Unicode. -/
def literalChar (f : Flags) (lit : Literal) : ResolveM Char := do
  if !f.uni && lit.hexByte && lit.c.toNat ≥ 0x80 then refuse lit.span .invalidUtf8
  return lit.c

/-- **A literal**: its character, or with case ignored the class of those folding with it. -/
def literalExpr (f : Flags) (lit : Literal) : ResolveM Expr := do
  let c ← literalChar f lit
  let n := c.toNat
  if f.uni then
    return Expr.ofClass (if f.ci then Ranges.caseFold [(n, n)] else [(n, n)])
  if n ≥ 0x80 then refuse lit.span .unicodeNotAllowed
  return Expr.ofClass (if f.ci then Ranges.asciiCaseFold [(n, n)] else [(n, n)])

/-- A literal as a byte of a class without Unicode. -/
def classByte (f : Flags) (lit : Literal) : ResolveM Nat := do
  let c ← literalChar f lit
  if c.toNat ≥ 0x80 then refuse lit.span .unicodeNotAllowed
  return c.toNat

/-- **A Unicode class**: folded and negated; refused without Unicode. -/
def unicodeRanges (f : Flags) (cls : UnicodeClass) : ResolveM Ranges := do
  if !f.uni then refuse cls.span .unicodeNotAllowed
  match unicodeClassRanges cls.kind with
  | .ok rs => return foldAndNegate f cls.isNegated rs
  | .error kind => refuse cls.span kind

/-- **A class `\d \s \w`** or its negation: Unicode's, or ASCII's without Unicode. -/
def perlRanges (f : Flags) (cls : PerlClass) : ResolveM Ranges := do
  if f.uni then
    let rs := match cls.kind with
      | .digit => digitRanges
      | .space => whiteSpaceRanges
      | .word => wordRanges
    return if cls.negated then rs.complement topChar else rs
  let rs := match cls.kind with
    | .digit => AsciiKind.digit.ranges
    | .space => AsciiKind.space.ranges
    | .word => AsciiKind.word.ranges
  let rs := if cls.negated then rs.complement topByte else rs
  if !rs.isAscii then refuse cls.span .invalidUtf8
  return rs

/-- An ASCII class `[:name:]`, folded and negated. -/
def asciiRanges (f : Flags) (span : Span) (kind : AsciiKind) (negated : Bool) :
    ResolveM Ranges :=
  if f.uni then return foldAndNegate f negated kind.ranges
  else bytesFoldAndNegate f span negated kind.ranges

/-- The zero-width condition of an assertion under the flags. -/
def lookOf (f : Flags) : AssertionKind → Look
  | .startLine =>
    if f.multiLine.getD false then (if f.crlf.getD false then .startCRLF else .startLF)
    else .start
  | .endLine =>
    if f.multiLine.getD false then (if f.crlf.getD false then .endCRLF else .endLF)
    else .finish
  | .startText => .start
  | .endText => .finish
  | .wordBoundary => if f.uni then .wordUnicode else .wordAscii
  | .notWordBoundary => if f.uni then .wordUnicodeNegate else .wordAsciiNegate
  | .wordBoundaryStart | .wordBoundaryStartAngle =>
    if f.uni then .wordStartUnicode else .wordStartAscii
  | .wordBoundaryEnd | .wordBoundaryEndAngle =>
    if f.uni then .wordEndUnicode else .wordEndAscii
  | .wordBoundaryStartHalf => if f.uni then .wordStartHalfUnicode else .wordStartHalfAscii
  | .wordBoundaryEndHalf => if f.uni then .wordEndHalfUnicode else .wordEndHalfAscii

/-- **`.`**: any character but a line feed (and a carriage return under `R`), or any at all
    under `s`; refused without Unicode. -/
def dotExpr (f : Flags) (span : Span) : ResolveM Expr := do
  if !f.uni then refuse span .invalidUtf8
  if f.dotMatchesNewLine.getD false then return .chars [(0, topChar)]
  if f.crlf.getD false then return .chars [(0, 9), (11, 12), (14, topChar)]
  return .chars [(0, 9), (11, topChar)]

/-- Apply a set operation. -/
def applySetOp (top : Nat) : SetOp → Ranges → Ranges → Ranges
  | .intersection, a, b => a.intersect top b
  | .difference, a, b => a.difference top b
  | .symmetricDifference, a, b => a.symmetricDifference top b

mutual
/-- The characters of one item of a bracketed class. -/
def classItem (f : Flags) : ClassSetItem → ResolveM Ranges
  | .empty _ => return []
  | .literal lit =>
    if f.uni then return [(lit.c.toNat, lit.c.toNat)]
    else do
      let b ← classByte f lit
      return [(b, b)]
  | .range _ lo hi =>
    if f.uni then return [(lo.c.toNat, hi.c.toNat)]
    else do
      let a ← classByte f lo
      let b ← classByte f hi
      return [(a, b)]
  | .ascii span kind negated => asciiRanges f span kind negated
  | .unicode cls => unicodeRanges f cls
  | .perl cls => perlRanges f cls
  | .bracketed span negated set => do
    let rs ← classSet f set
    if f.uni then return foldAndNegate f negated rs
    else bytesFoldAndNegate f span negated rs
  | .union _ items => classItems f items
/-- The characters of the items of a union. -/
def classItems (f : Flags) : List ClassSetItem → ResolveM Ranges
  | [] => return []
  | i :: rest => do
    let a ← classItem f i
    let b ← classItems f rest
    return a.union b
/-- The characters of a class set. -/
def classSet (f : Flags) : ClassSet → ResolveM Ranges
  | .item i => classItem f i
  | .binaryOp _ kind lhs rhs => do
    let l ← classSet f lhs
    let r ← classSet f rhs
    if f.uni then
      let (l, r) := if f.ci then (l.caseFold, r.caseFold) else (l, r)
      return applySetOp topChar kind l r
    else
      let (l, r) := if f.ci then (l.asciiCaseFold, r.asciiCaseFold) else (l, r)
      return applySetOp topByte kind l r
end

/-- The flags inside a group. -/
def groupFlags (f : Flags) : GroupKind → Flags
  | .nonCapturing items => (Flags.ofItems items).over f
  | _ => f

/-- The expression of a group around its body. -/
def groupExpr (kind : GroupKind) (e : Expr) : Expr :=
  match kind with
  | .captureIndex i => .capture i e
  | .captureName _ i => .capture i e
  | .nonCapturing _ => e

mutual
/-- **Resolve a syntax tree** under the flags; the flags in force after it. -/
def resolve (f : Flags) : Ast → ResolveM (Expr × Flags)
  | .empty _ => return (.empty, f)
  | .flags _ items => return (.empty, (Flags.ofItems items).over f)
  | .literal lit => return (← literalExpr f lit, f)
  | .dot span => return (← dotExpr f span, f)
  | .assertion _ kind => return (.look (lookOf f kind), f)
  | .unicodeClass cls => return (Expr.ofClass (← unicodeRanges f cls), f)
  | .perlClass cls => return (Expr.ofClass (← perlRanges f cls), f)
  | .bracketed span negated set => do
    let rs ← classSet f set
    let rs ← if f.uni then pure (foldAndNegate f negated rs)
      else bytesFoldAndNegate f span negated rs
    return (Expr.ofClass rs, f)
  | .repetition _ kind greedy a => do
    let (e, f') ← resolve f a
    let (lo, hi) := kind.bounds
    return (Expr.repeat lo hi (greedy != f.swapGreed.getD false) e, f')
  | .group _ kind a => do
    let (e, _) ← resolve (groupFlags f kind) a
    return (groupExpr kind e, f)
  | .alternation _ asts => do
    let (es, f') ← resolveAll f asts
    return (Expr.alt es, f')
  | .concat _ asts => do
    let (es, f') ← resolveAll f asts
    return (Expr.seq es, f')
/-- Resolve syntax trees one after the other, the flags carried along. -/
def resolveAll (f : Flags) : List Ast → ResolveM (List Expr × Flags)
  | [] => return ([], f)
  | a :: rest => do
    let (e, f') ← resolve f a
    let (es, f'') ← resolveAll f' rest
    return (e :: es, f'')
end

end SmartHelmet.Regex
