import SmartHelmet.Regex.Syntax
import SmartHelmet.Unicode.Word
import SmartHelmet.Unicode.BinaryProperty
import SmartHelmet.Unicode.Alphanumeric
/-!
# Reading patterns

A pattern is read left to right, character by character, into its syntax tree. Open groups
and alternations wait on a stack until `)` or the end closes them; open brackets and set
operations wait on a second stack until `]`. Every error carries the span it concerns:

* `(` opens a group: `(?P<name>` and `(?<name>` name it, `(?flags:` sets flags inside it,
  `(?flags)` sets flags up to the end of the enclosing group, `(?=`, `(?!`, `(?<=` and `(?<!`
  are look-arounds, which are refused;
* `|` closes a branch, `)` a group; a group still open at the end is unclosed, a `)` with none
  open is unopened;
* `? * +` and `{m}`, `{m,}`, `{m,n}` repeat what stands before them, with a `?` after them to
  make them lazy; nothing before them, or a flag setting, is a missing expression;
* `\` starts an escape: a class `\d \s \w` (and negations), a Unicode class `\p..`, a code point
  `\x \u \U` (fixed digits or braces), an assertion, a control character, or any punctuation
  as itself; a digit would be a backreference, which is refused;
* `[` opens a bracketed class: `^` negates it, leading `-` and a first `]` are literal, items
  are characters, ranges, escapes, `[:name:]` ASCII classes and nested brackets, joined by
  `&&`, `--` and `~~`;
* with the flag `x`, white space and `#` comments between items are skipped.

Nesting deeper than 250 groups, repetitions and brackets is refused after reading.
-/

namespace SmartHelmet.Regex

open SmartHelmet.Unicode

/-- A sequence being read, and where it started. -/
structure Concat where
  span : Span
  asts : Array Ast

/-- The syntax tree of a sequence: nothing, its only part, or the sequence. -/
def Concat.toAst (c : Concat) : Ast :=
  match c.asts.toList with
  | [] => .empty c.span
  | [a] => a
  | asts => .concat c.span asts

/-- A sequence with one more part. -/
def Concat.push (c : Concat) (a : Ast) : Concat := { c with asts := c.asts.push a }

/-- The items of a bracketed class being read. -/
structure ClassUnion where
  span : Span
  items : Array ClassSetItem

/-- A union with one more item, its span stretched over it. -/
def ClassUnion.push (u : ClassUnion) (i : ClassSetItem) : ClassUnion :=
  let start := if u.items.isEmpty then i.span.start else u.span.start
  { span := ⟨start, i.span.stop⟩, items := u.items.push i }

/-- The item a union stands for: nothing, its only item, or the union. -/
def ClassUnion.toItem (u : ClassUnion) : ClassSetItem :=
  match u.items.toList with
  | [] => .empty u.span
  | [i] => i
  | items => .union u.span items

/-- What waits on the group stack: an open group with the sequence before it and the
    white space mode outside it, or the branches of an alternation read so far. -/
inductive GroupState where
  | group (before : Concat) (span : Span) (kind : GroupKind) (ignoreWhitespace : Bool)
  | alternation (span : Span) (branches : Array Ast)

/-- What waits on the class stack: an open bracket with the union around it, or the left side
    of a set operation. -/
inductive ClassState where
  | opened (around : ClassUnion) (span : Span) (negated : Bool)
  | operation (kind : SetOp) (lhs : ClassSet)

/-- The state of reading a pattern. -/
structure Parser where
  chars : Array Char
  idx : Nat := 0
  pos : Position := ⟨0, 1, 1⟩
  captureIndex : Nat := 0
  ignoreWhitespace : Bool := false
  groups : List GroupState := []
  classes : List ClassState := []
  names : List (String × Span) := []

/-- Reading a pattern: a step that may fail with an error. -/
abbrev ParseM := StateT Parser (Except Error)

/-- The most nested groups, repetitions and brackets a pattern may have. -/
def nestLimit : Nat := 250

/-- A bound on the steps of any loop of the reader: one more than the pattern's length. -/
def fuel : ParseM Nat := do return (← get).chars.size + 1

/-- Fail with an error. -/
def fail {α : Type} (span : Span) (kind : ErrorKind) : ParseM α := throw ⟨kind, span⟩

/-- Whether the whole pattern is read. -/
def isEof : ParseM Bool := do
  let p ← get
  return p.idx ≥ p.chars.size

/-- The current character (the end is never asked for). -/
def cur : ParseM Char := do
  let p ← get
  return p.chars.getD p.idx ' '

/-- The current place. -/
def here : ParseM Position := do return (← get).pos

/-- The empty span at the current place. -/
def emptySpan : ParseM Span := do
  let p ← here
  return ⟨p, p⟩

/-- The place after a character. -/
def Position.after (p : Position) (c : Char) : Position :=
  if c == '\n' then ⟨p.offset + c.utf8Size, p.line + 1, 1⟩
  else ⟨p.offset + c.utf8Size, p.line, p.column + 1⟩

/-- The span of the current character. -/
def charSpan : ParseM Span := do
  let p ← get
  return ⟨p.pos, p.pos.after (p.chars.getD p.idx ' ')⟩

/-- Move past the current character; whether a character follows. -/
def bump : ParseM Bool := do
  let p ← get
  if p.idx ≥ p.chars.size then return false
  set { p with idx := p.idx + 1, pos := p.pos.after (p.chars.getD p.idx ' ') }
  return p.idx + 1 < p.chars.size

/-- The character after the current one. -/
def peek : ParseM (Option Char) := do
  let p ← get
  if p.idx ≥ p.chars.size then return none
  return p.chars[p.idx + 1]?

/-- Go back to an earlier place. -/
def restore (idx : Nat) (pos : Position) : ParseM Unit :=
  modify fun p => { p with idx, pos }

/-- Move past a text if the pattern goes on with it. -/
def bumpIf (s : String) : ParseM Bool := do
  let p ← get
  let cs := s.toList
  if (p.chars.extract p.idx (p.idx + cs.length)).toList == cs then
    for _ in cs do
      let _ ← bump
    return true
  else return false

/-- In white space mode, move past white space and `#` comments (a comment runs to the end of
    its line). -/
def bumpSpace : ParseM Unit := do
  if !(← get).ignoreWhitespace then return
  let n ← fuel
  for _ in [0:n] do
    if ← isEof then break
    let c ← cur
    if isWhiteSpace c then
      let _ ← bump
    else if c == '#' then
      let _ ← bump
      for _ in [0:n] do
        if ← isEof then break
        let d ← cur
        let _ ← bump
        if d == '\n' then break
    else break

/-- Move past the current character and any white space after it; whether a character
    follows. -/
def bumpAndBumpSpace : ParseM Bool := do
  if !(← bump) then return false
  bumpSpace
  return !(← isEof)

/-- The first character of a text that white space mode does not skip: white space and a `#`
    that starts a comment are passed over, anything else is it. -/
def firstSignificant : List Char → Bool → Option Char
  | [], _ => none
  | c :: cs, inComment =>
    if isWhiteSpace c then firstSignificant cs inComment
    else if !inComment && c == '#' then firstSignificant cs true
    else some c

/-- The character after the current one, skipping white space and comments in white space
    mode. -/
def peekSpace : ParseM (Option Char) := do
  let p ← get
  if !p.ignoreWhitespace then return ← peek
  if p.idx ≥ p.chars.size then return none
  let rest := (p.chars.extract (p.idx + 1) p.chars.size).toList
  return (firstSignificant rest false).orElse fun _ => rest.head?

/-- Whether a character is an ASCII hexadecimal digit. -/
def isHexDigit (c : Char) : Bool :=
  c.isDigit || ('a' ≤ c && c ≤ 'f') || ('A' ≤ c && c ≤ 'F')

/-- The value of hexadecimal digits. -/
def hexValue (cs : List Char) : Nat :=
  cs.foldl (fun acc c =>
    acc * 16 + (if c.isDigit then c.toNat - '0'.toNat
      else if 'a' ≤ c && c ≤ 'f' then c.toNat - 'a'.toNat + 10
      else c.toNat - 'A'.toNat + 10)) 0

/-- The character of a code point, when it is a Unicode scalar value. -/
def scalar? (n : Nat) : Option Char :=
  if n < 0xD800 || (0xE000 ≤ n && n ≤ 0x10FFFF) then some (Char.ofNat n) else none

/-- The characters that have a meaning of their own in patterns. -/
def isMetaCharacter (c : Char) : Bool :=
  "\\.+*?()|[]\x7b\x7d^$#&-~".any (· == c)

/-- Whether a backslash before a character stands for the character itself: any
    meta character, and any other ASCII character that is no letter, digit, `<` or `>`. -/
def isEscapeableCharacter (c : Char) : Bool :=
  isMetaCharacter c ||
    (c.toNat < 0x80 && !c.isAlphanum && c != '<' && c != '>')

/-- Whether a character may stand in a group name, the first one or a later one. -/
def isCaptureChar (c : Char) (first : Bool) : Bool :=
  if first then c == '_' || isAlphabetic c
  else c == '_' || c == '.' || c == '[' || c == ']' || isAlphanumeric c

/-- What an escape or a single item stands for. -/
inductive Primitive where
  | literal (lit : Literal)
  | assertion (span : Span) (kind : AssertionKind)
  | dot (span : Span)
  | perl (cls : PerlClass)
  | unicode (cls : UnicodeClass)

/-- The span of a primitive. -/
def Primitive.span : Primitive → Span
  | .literal l => l.span
  | .assertion s _ | .dot s => s
  | .perl c => c.span
  | .unicode c => c.span

/-- The syntax tree of a primitive. -/
def Primitive.toAst : Primitive → Ast
  | .literal l => .literal l
  | .assertion s k => .assertion s k
  | .dot s => .dot s
  | .perl c => .perlClass c
  | .unicode c => .unicodeClass c

/-- A primitive as an item of a bracketed class; assertions and `.` are no items. -/
def Primitive.toClassSetItem : Primitive → ParseM ClassSetItem
  | .literal l => pure (.literal l)
  | .perl c => pure (.perl c)
  | .unicode c => pure (.unicode c)
  | p => fail p.span .classEscapeInvalid

/-- A primitive as a bound of a range; only literals are. -/
def Primitive.toClassLiteral : Primitive → ParseM Literal
  | .literal l => pure l
  | p => fail p.span .classRangeLiteral

/-- The next capture number. -/
def nextCaptureIndex (span : Span) : ParseM Nat := do
  let p ← get
  if p.captureIndex ≥ 4294967295 then fail span .captureLimitExceeded
  set { p with captureIndex := p.captureIndex + 1 }
  return p.captureIndex + 1

/-- **A group name** after `<`, up to and past its `>`; names must differ. -/
def parseCaptureName : ParseM String := do
  if ← isEof then fail (← emptySpan) .groupNameUnexpectedEof
  let start ← here
  let startIdx := (← get).idx
  let n ← fuel
  for _ in [0:n] do
    let c ← cur
    if c == '>' then break
    if !isCaptureChar c ((← here) == start) then fail (← charSpan) .groupNameInvalid
    if !(← bump) then break
  let stop ← here
  let stopIdx := (← get).idx
  if ← isEof then fail (← emptySpan) .groupNameUnexpectedEof
  let _ ← bump
  let name := String.ofList ((← get).chars.extract startIdx stopIdx).toList
  if name.isEmpty then fail ⟨start, start⟩ .groupNameEmpty
  let span : Span := ⟨start, stop⟩
  match (← get).names.find? (·.1 == name) with
  | some (_, first) => fail span (.groupNameDuplicate first)
  | none => modify fun p => { p with names := (name, span) :: p.names }
  return name

/-- One flag letter. -/
def parseFlag : ParseM Flag := do
  match ← cur with
  | 'i' => return .caseInsensitive
  | 'm' => return .multiLine
  | 's' => return .dotMatchesNewLine
  | 'U' => return .swapGreed
  | 'u' => return .unicode
  | 'R' => return .crlf
  | 'x' => return .ignoreWhitespace
  | _ => fail (← charSpan) .flagUnrecognized

/-- **The flags of a group**, up to its `:` or `)`: each flag at most once, at most one `-`,
    and a flag after the `-`. -/
def parseFlags : ParseM (List FlagsItem) := do
  let mut items : Array FlagsItem := #[]
  let mut lastNegation : Option Span := none
  let n ← fuel
  for _ in [0:n] do
    let c ← cur
    if c == ':' || c == ')' then break
    let span ← charSpan
    if c == '-' then
      lastNegation := some span
      match items.find? (·.kind == .negation) with
      | some first => fail span (.flagRepeatedNegation first.span)
      | none => items := items.push ⟨span, .negation⟩
    else
      lastNegation := none
      let f ← parseFlag
      match items.find? (·.kind == .flag f) with
      | some first => fail span (.flagDuplicate first.span)
      | none => items := items.push ⟨span, .flag f⟩
    if !(← bump) then fail (← emptySpan) .flagUnexpectedEof
  if let some span := lastNegation then fail span .flagDanglingNegation
  return items.toList

/-- Move past the start of a look-around, if one stands here. -/
def bumpLookaroundPrefix : ParseM Bool := do
  if ← bumpIf "?=" then return true
  if ← bumpIf "?!" then return true
  if ← bumpIf "?<=" then return true
  bumpIf "?<!"

/-- **What an opening parenthesis starts**: a flag setting (its span and flags), or a group
    (the span of its parenthesis and its kind). -/
def parseGroup : ParseM (Sum (Span × List FlagsItem) (Span × GroupKind)) := do
  let openSpan ← charSpan
  let _ ← bump
  bumpSpace
  if ← bumpLookaroundPrefix then
    fail ⟨openSpan.start, ← here⟩ .unsupportedLookAround
  let innerSpan ← emptySpan
  let named ← do
    if ← bumpIf "?P<" then pure true else bumpIf "?<"
  if named then
    let index ← nextCaptureIndex openSpan
    let name ← parseCaptureName
    return .inr (openSpan, .captureName name index)
  else if ← bumpIf "?" then
    if ← isEof then fail openSpan .groupUnclosed
    let flags ← parseFlags
    let charEnd ← cur
    let _ ← bump
    if charEnd == ')' then
      if flags.isEmpty then fail innerSpan .repetitionMissing
      return .inl (⟨openSpan.start, ← here⟩, flags)
    else return .inr (openSpan, .nonCapturing flags)
  else
    let index ← nextCaptureIndex openSpan
    return .inr (openSpan, .captureIndex index)

/-- Open a group, or set flags where the sequence stands. -/
def pushGroup (concat : Concat) : ParseM Concat := do
  match ← parseGroup with
  | .inl (span, flags) =>
    if let some v := flagState flags .ignoreWhitespace then
      modify fun p => { p with ignoreWhitespace := v }
    return concat.push (.flags span flags)
  | .inr (span, kind) =>
    let old := (← get).ignoreWhitespace
    let new := match kind with
      | .nonCapturing flags => (flagState flags .ignoreWhitespace).getD old
      | _ => old
    modify fun p => { p with groups := .group concat span kind old :: p.groups,
                             ignoreWhitespace := new }
    return ⟨← emptySpan, #[]⟩

/-- Close a branch at `|`. -/
def pushAlternate (concat : Concat) : ParseM Concat := do
  let stop ← here
  let concat := { concat with span := { concat.span with stop } }
  modify fun p => match p.groups with
    | .alternation span branches :: rest =>
      { p with groups := .alternation span (branches.push concat.toAst) :: rest }
    | groups => { p with groups := .alternation ⟨concat.span.start, stop⟩ #[concat.toAst] :: groups }
  let _ ← bump
  return ⟨← emptySpan, #[]⟩

/-- Close a group at `)`. -/
def popGroup (inner : Concat) : ParseM Concat := do
  let (before, openSpan, kind, ignoreWhitespace, alt, rest) ← match (← get).groups with
    | .group before span kind iw :: rest => pure (before, span, kind, iw, none, rest)
    | .alternation aspan branches :: .group before span kind iw :: rest =>
      pure (before, span, kind, iw, some (aspan, branches), rest)
    | _ => do fail (← charSpan) .groupUnopened
  modify fun p => { p with groups := rest, ignoreWhitespace }
  let stop ← here
  let inner := { inner with span := { inner.span with stop } }
  let _ ← bump
  let span : Span := ⟨openSpan.start, ← here⟩
  let ast := match alt with
    | some (aspan, branches) => Ast.alternation ⟨aspan.start, stop⟩ (branches.push inner.toAst).toList
    | none => inner.toAst
  return before.push (.group span kind ast)

/-- At the end of the pattern: close the last alternation; a group still open is unclosed. -/
def popGroupEnd (concat : Concat) : ParseM Ast := do
  let stop ← here
  let concat := { concat with span := { concat.span with stop } }
  match (← get).groups with
  | [] => return concat.toAst
  | .alternation span branches :: rest =>
    match rest with
    | .group _ openSpan _ _ :: _ => fail openSpan .groupUnclosed
    | _ => return .alternation ⟨span.start, stop⟩ (branches.push concat.toAst).toList
  | .group _ openSpan _ _ :: _ => fail openSpan .groupUnclosed

/-- **A repetition `?`, `*` or `+`** of what stands last in the sequence. -/
def parseUncountedRepetition (concat : Concat) (kind : RepetitionKind) : ParseM Concat := do
  let ast ← match concat.asts.back? with
    | none | some (.empty _) | some (.flags ..) => do fail (← emptySpan) .repetitionMissing
    | some a => pure a
  let mut greedy := true
  if ← bump then
    if (← cur) == '?' then
      greedy := false
      let _ ← bump
  let rest : Concat := { concat with asts := concat.asts.pop }
  return rest.push (.repetition ⟨ast.span.start, ← here⟩ kind greedy ast)

/-- A decimal number of a counted repetition, white space around it skipped; an error is
    returned, not raised, since the caller decides whether it counts. -/
def parseDecimal : ParseM (Except Error Nat) := do
  let n ← fuel
  for _ in [0:n] do
    if ← isEof then break
    if !isWhiteSpace (← cur) then break
    let _ ← bump
  let start ← here
  let mut digits : List Char := []
  for _ in [0:n] do
    if ← isEof then break
    let c ← cur
    if !c.isDigit then break
    digits := digits ++ [c]
    let _ ← bumpAndBumpSpace
  let span : Span := ⟨start, ← here⟩
  for _ in [0:n] do
    if ← isEof then break
    if !isWhiteSpace (← cur) then break
    let _ ← bumpAndBumpSpace
  if digits.isEmpty then return .error ⟨.repetitionCountDecimalEmpty, span⟩
  let value := digits.foldl (fun acc c => acc * 10 + (c.toNat - '0'.toNat)) 0
  if value > 4294967295 then return .error ⟨.decimalInvalid, span⟩
  return .ok value

/-- **A counted repetition** `{m}`, `{m,}` or `{m,n}` of what stands last in the sequence. -/
def parseCountedRepetition (concat : Concat) : ParseM Concat := do
  let start ← here
  let ast ← match concat.asts.back? with
    | none | some (.empty _) | some (.flags ..) => do fail (← emptySpan) .repetitionMissing
    | some a => pure a
  if !(← bumpAndBumpSpace) then fail ⟨start, ← here⟩ .repetitionCountUnclosed
  let countStart ← parseDecimal
  if ← isEof then fail ⟨start, ← here⟩ .repetitionCountUnclosed
  let kind ← do
    if (← cur) == ',' then
      if !(← bumpAndBumpSpace) then fail ⟨start, ← here⟩ .repetitionCountUnclosed
      if (← cur) != '}' then
        let m ← raise countStart
        let n ← raise (← parseDecimal)
        pure (RepetitionKind.bounded m n)
      else pure (RepetitionKind.atLeast (← raise countStart))
    else pure (RepetitionKind.exactly (← raise countStart))
  if ← isEof then fail ⟨start, ← here⟩ .repetitionCountUnclosed
  if (← cur) != '}' then fail ⟨start, ← here⟩ .repetitionCountUnclosed
  let mut greedy := true
  if ← bumpAndBumpSpace then
    if (← cur) == '?' then
      greedy := false
      let _ ← bump
  let opSpan : Span := ⟨start, ← here⟩
  if let .bounded m n := kind then
    if m > n then fail opSpan .repetitionCountInvalid
  let rest : Concat := { concat with asts := concat.asts.pop }
  return rest.push (.repetition ⟨ast.span.start, ← here⟩ kind greedy ast)
where
  /-- A decimal read earlier, its error raised now. -/
  raise (r : Except Error Nat) : ParseM Nat :=
    match r with
    | .ok v => pure v
    | .error e => throw e

/-- **A code point written with fixed digits**: two after `\x`, four after `\u`, eight after
    `\U`. -/
def parseHexDigits (digits : Nat) (isX : Bool) : ParseM Literal := do
  let start ← here
  let mut hex : List Char := []
  for i in [0:digits] do
    if i > 0 then
      if !(← bumpAndBumpSpace) then fail (← emptySpan) .escapeUnexpectedEof
    let c ← cur
    if !isHexDigit c then fail (← charSpan) .escapeHexInvalidDigit
    hex := hex ++ [c]
  let _ ← bumpAndBumpSpace
  let stop ← here
  match scalar? (hexValue hex) with
  | none => fail ⟨start, stop⟩ .escapeHexInvalid
  | some c => return ⟨⟨start, stop⟩, c, isX⟩

/-- **A code point written in braces**, `\x{...}`. -/
def parseHexBrace : ParseM Literal := do
  let bracePos ← here
  let start := (← charSpan).stop
  let mut hex : List Char := []
  let n ← fuel
  for _ in [0:n] do
    if !(← bumpAndBumpSpace) then break
    let c ← cur
    if c == '}' then break
    if !isHexDigit c then fail (← charSpan) .escapeHexInvalidDigit
    hex := hex ++ [c]
  if ← isEof then fail ⟨bracePos, ← here⟩ .escapeUnexpectedEof
  let stop ← here
  let _ ← bumpAndBumpSpace
  if hex.isEmpty then fail ⟨bracePos, ← here⟩ .escapeHexEmpty
  match scalar? (hexValue hex) with
  | none => fail ⟨start, stop⟩ .escapeHexInvalid
  | some c => return ⟨⟨start, ← here⟩, c, false⟩

/-- A code point after `\x`, `\u` or `\U`. -/
def parseHex : ParseM Literal := do
  let c ← cur
  let digits := if c == 'x' then 2 else if c == 'u' then 4 else 8
  if !(← bumpAndBumpSpace) then fail (← emptySpan) .escapeUnexpectedEof
  if (← cur) == '{' then parseHexBrace else parseHexDigits digits (c == 'x')

/-- A text split at the first occurrence of a separator. -/
def splitFirst (s sep : List Char) : Option (List Char × List Char) :=
  let rec go : Nat → List Char → Option (List Char × List Char)
    | _, [] => none
    | i, rest@(_ :: more) =>
      if sep.isPrefixOf rest then some (s.take i, rest.drop sep.length) else go (i + 1) more
  go 0 s

/-- How the name in `\p{..}` reads: with `!=`, `:` or `=` it names a property and a value. -/
def classifyName (name : List Char) : UnicodeKind :=
  match splitFirst name ['!', '='] with
  | some (n, v) => .namedValue true (String.ofList n) (String.ofList v)
  | none =>
    match splitFirst name [':'] with
    | some (n, v) => .namedValue false (String.ofList n) (String.ofList v)
    | none =>
      match splitFirst name ['='] with
      | some (n, v) => .namedValue false (String.ofList n) (String.ofList v)
      | none => .named (String.ofList name)

/-- **A Unicode class** after `\p` or `\P`: one letter, or a name in braces. -/
def parseUnicodeClass : ParseM UnicodeClass := do
  let negated := (← cur) == 'P'
  if !(← bumpAndBumpSpace) then fail (← emptySpan) .escapeUnexpectedEof
  if (← cur) == '{' then
    let start := (← charSpan).stop
    let mut name : List Char := []
    let n ← fuel
    for _ in [0:n] do
      if !(← bumpAndBumpSpace) then break
      let c ← cur
      if c == '}' then break
      name := name ++ [c]
    if ← isEof then fail (← emptySpan) .escapeUnexpectedEof
    let _ ← bump
    return ⟨⟨start, ← here⟩, negated, classifyName name⟩
  else
    let start ← here
    let c ← cur
    if c == '\\' then fail (← charSpan) .unicodeClassInvalid
    let _ ← bumpAndBumpSpace
    return ⟨⟨start, ← here⟩, negated, .oneLetter c⟩

/-- A class `\d \s \w \D \S \W`. -/
def parsePerlClass : ParseM PerlClass := do
  let c ← cur
  let span ← charSpan
  let _ ← bump
  let (negated, kind) := match c with
    | 'D' => (true, PerlKind.digit)
    | 's' => (false, .space)
    | 'S' => (true, .space)
    | 'w' => (false, .word)
    | 'W' => (true, .word)
    | _ => (false, .digit)
  return ⟨span, kind, negated⟩

/-- Whether a character may stand in the name of a special word boundary. -/
def isWordBoundaryNameChar (c : Char) : Bool :=
  ('A' ≤ c && c ≤ 'Z') || ('a' ≤ c && c ≤ 'z') || c == '-'

/-- After `\b`, a brace that starts a special word boundary `\b{start}`, `\b{end}`,
    `\b{start-half}` or `\b{end-half}`; a brace that does not (its first character is no
    letter or `-`) is left for a counted repetition. -/
def maybeParseSpecialWordBoundary (wbStart : Position) : ParseM (Option AssertionKind) := do
  let start ← here
  let startIdx := (← get).idx
  if !(← bumpAndBumpSpace) then fail ⟨wbStart, ← here⟩ .specialWordOrRepetitionUnexpectedEof
  let contents ← here
  if !isWordBoundaryNameChar (← cur) then
    restore startIdx start
    return none
  let mut name : List Char := []
  let n ← fuel
  for _ in [0:n] do
    if ← isEof then break
    let c ← cur
    if !isWordBoundaryNameChar c then break
    name := name ++ [c]
    let _ ← bumpAndBumpSpace
  if ← isEof then fail ⟨start, ← here⟩ .specialWordBoundaryUnclosed
  if (← cur) != '}' then fail ⟨start, ← here⟩ .specialWordBoundaryUnclosed
  let stop ← here
  let _ ← bump
  match String.ofList name with
  | "start" => return some .wordBoundaryStart
  | "end" => return some .wordBoundaryEnd
  | "start-half" => return some .wordBoundaryStartHalf
  | "end-half" => return some .wordBoundaryEndHalf
  | _ => fail ⟨contents, stop⟩ .specialWordBoundaryUnrecognized

/-- **An escape** after `\`. -/
def parseEscape : ParseM Primitive := do
  let start ← here
  if !(← bump) then fail ⟨start, ← here⟩ .escapeUnexpectedEof
  let c ← cur
  if c.isDigit then fail ⟨start, (← charSpan).stop⟩ .unsupportedBackreference
  if c == 'x' || c == 'u' || c == 'U' then
    let lit ← parseHex
    return .literal { lit with span := { lit.span with start } }
  if c == 'p' || c == 'P' then
    let cls ← parseUnicodeClass
    return .unicode { cls with span := { cls.span with start } }
  if "dswDSW".any (· == c) then
    let cls ← parsePerlClass
    return .perl { cls with span := { cls.span with start } }
  let _ ← bump
  let span : Span := ⟨start, ← here⟩
  if isEscapeableCharacter c then return .literal ⟨span, c, false⟩
  match c with
  | 'a' => return .literal ⟨span, Char.ofNat 7, false⟩
  | 'f' => return .literal ⟨span, Char.ofNat 12, false⟩
  | 't' => return .literal ⟨span, '\t', false⟩
  | 'n' => return .literal ⟨span, '\n', false⟩
  | 'r' => return .literal ⟨span, '\r', false⟩
  | 'v' => return .literal ⟨span, Char.ofNat 11, false⟩
  | 'A' => return .assertion span .startText
  | 'z' => return .assertion span .endText
  | 'b' =>
    if ← isEof then return .assertion span .wordBoundary
    if (← cur) != '{' then return .assertion span .wordBoundary
    match ← maybeParseSpecialWordBoundary start with
    | some kind => return .assertion ⟨start, ← here⟩ kind
    | none => return .assertion span .wordBoundary
  | 'B' => return .assertion span .notWordBoundary
  | '<' => return .assertion span .wordBoundaryStartAngle
  | '>' => return .assertion span .wordBoundaryEndAngle
  | _ => fail span .escapeUnrecognized

/-- **One item of a sequence**: an escape, `.`, `^`, `$`, or a character as itself. -/
def parsePrimitive : ParseM Primitive := do
  let span ← charSpan
  match ← cur with
  | '\\' => parseEscape
  | '.' =>
    let _ ← bump
    return .dot span
  | '^' =>
    let _ ← bump
    return .assertion span .startLine
  | '$' =>
    let _ ← bump
    return .assertion span .endLine
  | c =>
    let _ ← bump
    return .literal ⟨span, c, false⟩

/-- The span of the innermost open bracket. -/
def innermostOpen : List ClassState → Option Span
  | [] => none
  | .opened _ span _ :: _ => some span
  | _ :: rest => innermostOpen rest

/-- The error of a class left open: at the innermost open bracket. -/
def unclosedClass {α : Type} : ParseM α := do
  match innermostOpen (← get).classes with
  | some span => fail span .classUnclosed
  | none => fail (← emptySpan) .classUnclosed

/-- One item inside brackets: an escape or a character as itself. -/
def parseSetClassItem : ParseM Primitive := do
  if (← cur) == '\\' then parseEscape
  else
    let span ← charSpan
    let c ← cur
    let _ ← bump
    return .literal ⟨span, c, false⟩

/-- **An item or a range** inside brackets; a `-` before `]` or `-` is no range. -/
def parseSetClassRange : ParseM ClassSetItem := do
  let prim1 ← parseSetClassItem
  bumpSpace
  if ← isEof then unclosedClass
  let next ← peekSpace
  if (← cur) != '-' || next == some ']' || next == some '-' then
    return ← prim1.toClassSetItem
  if !(← bumpAndBumpSpace) then unclosedClass
  let prim2 ← parseSetClassItem
  let span : Span := ⟨prim1.span.start, prim2.span.stop⟩
  let lo ← prim1.toClassLiteral
  let hi ← prim2.toClassLiteral
  if lo.c > hi.c then fail span .classRangeInvalid
  return .range span lo hi

/-- The rest of an ASCII class after `[`: the name between `:` and `:]` (after `^` for a
    negated one), or nothing when the text is no ASCII class. -/
def readAsciiClass : ParseM (Option (AsciiKind × Bool)) := do
  if !(← bump) then return none
  if (← cur) != ':' then return none
  if !(← bump) then return none
  let mut negated := false
  if (← cur) == '^' then
    negated := true
    if !(← bump) then return none
  let nameStart := (← get).idx
  let n ← fuel
  for _ in [0:n] do
    if (← cur) == ':' then break
    if !(← bump) then break
  if ← isEof then return none
  let name := String.ofList ((← get).chars.extract nameStart (← get).idx).toList
  if !(← bumpIf ":]") then return none
  return (AsciiKind.ofName name).map (·, negated)

/-- An ASCII class `[:name:]` inside brackets, or nothing, the reader left where it was. -/
def maybeParseAsciiClass : ParseM (Option ClassSetItem) := do
  let start ← here
  let startIdx := (← get).idx
  match ← readAsciiClass with
  | some (kind, negated) => return some (.ascii ⟨start, ← here⟩ kind negated)
  | none =>
    restore startIdx start
    return none

/-- The start of a bracketed class: `[`, a `^`, leading `-` and a first `]` taken as
    literals; the span so far, whether it is negated, and its first items. -/
def parseSetClassOpen : ParseM (Span × Bool × ClassUnion) := do
  let start ← here
  if !(← bumpAndBumpSpace) then fail ⟨start, ← here⟩ .classUnclosed
  let mut negated := false
  if (← cur) == '^' then
    negated := true
    if !(← bumpAndBumpSpace) then fail ⟨start, ← here⟩ .classUnclosed
  let mut union : ClassUnion := ⟨← emptySpan, #[]⟩
  let n ← fuel
  for _ in [0:n] do
    if (← cur) != '-' then break
    union := union.push (.literal ⟨← charSpan, '-', false⟩)
    if !(← bumpAndBumpSpace) then fail ⟨start, start⟩ .classUnclosed
  if union.items.isEmpty && (← cur) == ']' then
    union := union.push (.literal ⟨← charSpan, ']', false⟩)
    if !(← bumpAndBumpSpace) then fail ⟨start, ← here⟩ .classUnclosed
  return (⟨start, ← here⟩, negated, union)

/-- Open a bracket, keeping the union around it. -/
def pushClassOpen (around : ClassUnion) : ParseM ClassUnion := do
  let (span, negated, union) ← parseSetClassOpen
  modify fun p => { p with classes := .opened around span negated :: p.classes }
  return union

/-- Join a set to a pending operation, if one waits. -/
def popClassOp (rhs : ClassSet) : ParseM ClassSet := do
  match (← get).classes with
  | .operation kind lhs :: rest =>
    modify fun p => { p with classes := rest }
    return .binaryOp ⟨lhs.span.start, rhs.span.stop⟩ kind lhs rhs
  | _ => return rhs

/-- Start a set operation with the items read so far as its left side. -/
def pushClassOp (kind : SetOp) (union : ClassUnion) : ParseM ClassUnion := do
  let lhs ← popClassOp (.item union.toItem)
  modify fun p => { p with classes := .operation kind lhs :: p.classes }
  return ⟨← emptySpan, #[]⟩

/-- Close a bracket at `]`: the union around it goes on, or the outermost class is done. -/
def popClass (union : ClassUnion) : ParseM (Sum ClassUnion Ast) := do
  let set ← popClassOp (.item union.toItem)
  match (← get).classes with
  | .opened around span negated :: rest =>
    modify fun p => { p with classes := rest }
    let _ ← bump
    let span : Span := ⟨span.start, ← here⟩
    if rest.isEmpty then return .inr (.bracketed span negated set)
    else return .inl (around.push (.bracketed span negated set))
  | _ => return .inr (.bracketed union.span false set)

/-- **A bracketed class**, from its `[` to its `]`. -/
def parseSetClass : ParseM Ast := do
  let mut union : ClassUnion := ⟨← emptySpan, #[]⟩
  let n ← fuel
  for _ in [0:n] do
    bumpSpace
    if ← isEof then unclosedClass
    let c ← cur
    let next ← peek
    if c == '[' then
      if !(← get).classes.isEmpty then
        match ← maybeParseAsciiClass with
        | some item =>
          union := union.push item
          continue
        | none => pure ()
      union ← pushClassOpen union
    else if c == ']' then
      match ← popClass union with
      | .inl around => union := around
      | .inr ast => return ast
    else if c == '&' && next == some '&' then
      let _ ← bumpIf "&&"
      union ← pushClassOp .intersection union
    else if c == '-' && next == some '-' then
      let _ ← bumpIf "--"
      union ← pushClassOp .difference union
    else if c == '~' && next == some '~' then
      let _ ← bumpIf "~~"
      union ← pushClassOp .symmetricDifference union
    else
      union := union.push (← parseSetClassRange)
  unclosedClass

/-- Entering one more level of nesting at `span`, from `depth` levels. -/
def enterLevel (depth : Nat) (span : Span) : Except Error Unit :=
  if depth + 1 > nestLimit then .error ⟨.nestLimitExceeded nestLimit, span⟩ else .ok ()

mutual
/-- The nesting check of a class item. -/
def nestItem (depth : Nat) : ClassSetItem → Except Error Unit
  | .bracketed span _ set => do
    enterLevel depth span
    nestSet (depth + 1) set
  | .union span items => do
    enterLevel depth span
    nestItems (depth + 1) items
  | _ => .ok ()
/-- The nesting check of class items. -/
def nestItems (depth : Nat) : List ClassSetItem → Except Error Unit
  | [] => .ok ()
  | i :: rest => do
    nestItem depth i
    nestItems depth rest
/-- The nesting check of a class set. -/
def nestSet (depth : Nat) : ClassSet → Except Error Unit
  | .item i => nestItem depth i
  | .binaryOp span _ lhs rhs => do
    enterLevel depth span
    nestSet (depth + 1) lhs
    nestSet (depth + 1) rhs
end

mutual
/-- **The nesting check** of a syntax tree: groups, repetitions, brackets, alternations and
    sequences each add a level. -/
def nestAst (depth : Nat) : Ast → Except Error Unit
  | .bracketed span _ set => do
    enterLevel depth span
    nestSet (depth + 1) set
  | .repetition span _ _ a | .group span _ a => do
    enterLevel depth span
    nestAst (depth + 1) a
  | .alternation span asts | .concat span asts => do
    enterLevel depth span
    nestAsts (depth + 1) asts
  | _ => .ok ()
/-- The nesting check of syntax trees. -/
def nestAsts (depth : Nat) : List Ast → Except Error Unit
  | [] => .ok ()
  | a :: rest => do
    nestAst depth a
    nestAsts depth rest
end

/-- Read the whole pattern. -/
def parseAll : ParseM Ast := do
  let mut concat : Concat := ⟨← emptySpan, #[]⟩
  let n ← fuel
  for _ in [0:n] do
    bumpSpace
    if ← isEof then break
    match ← cur with
    | '(' => concat ← pushGroup concat
    | ')' => concat ← popGroup concat
    | '|' => concat ← pushAlternate concat
    | '[' => concat := concat.push (← parseSetClass)
    | '?' => concat ← parseUncountedRepetition concat .zeroOrOne
    | '*' => concat ← parseUncountedRepetition concat .zeroOrMore
    | '+' => concat ← parseUncountedRepetition concat .oneOrMore
    | '{' => concat ← parseCountedRepetition concat
    | _ => concat := concat.push (← parsePrimitive).toAst
  popGroupEnd concat

/-- **Read a pattern** into its syntax tree, or the first error in it. -/
def parse (pattern : String) : Except Error Ast := do
  let (ast, _) ← parseAll.run { chars := pattern.toList.toArray }
  nestAst 0 ast
  return ast

end SmartHelmet.Regex
