/-!
# The syntax of patterns

A pattern is read into a syntax tree that keeps, for every part, the span of the pattern it
was read from, so that an error can point at it:

* `Position` — a byte offset, a line and a column (both from 1; columns count characters);
* `ErrorKind` — what can be wrong with a pattern, with the text each error is reported with;
  three kinds also point at an earlier span (the flag or name first given);
* `Ast` — literals, `.`, assertions (`^ $ \A \z \b \B` and the word boundaries), classes
  (`\d \s \w`, `\p{..}`, bracketed sets with ranges, ASCII classes, nested sets and the
  operations `&&`, `--`, `~~`), repetitions (`? * +` and counted ones, greedy or lazy),
  groups (capturing, named, or not capturing, with flags), alternations and sequences, and
  flag settings `(?flags)` that hold until the end of the enclosing group.
-/

namespace SmartHelmet.Regex

/-- A place in a pattern. -/
structure Position where
  offset : Nat
  line : Nat
  column : Nat
  deriving Repr, BEq, Inhabited

/-- The order of places: by offset. -/
def Position.le (a b : Position) : Bool := a.offset ≤ b.offset

/-- A part of a pattern, from `start` up to `stop` (not included). -/
structure Span where
  start : Position
  stop : Position
  deriving Repr, BEq, Inhabited

/-- Whether a span lies on one line. -/
def Span.isOneLine (s : Span) : Bool := s.start.line == s.stop.line

/-- What can be wrong with a pattern. -/
inductive ErrorKind where
  | captureLimitExceeded
  | classEscapeInvalid
  | classRangeInvalid
  | classRangeLiteral
  | classUnclosed
  | decimalEmpty
  | decimalInvalid
  | escapeHexEmpty
  | escapeHexInvalid
  | escapeHexInvalidDigit
  | escapeUnexpectedEof
  | escapeUnrecognized
  | flagDanglingNegation
  /-- A flag given twice; the span of its first occurrence. -/
  | flagDuplicate (first : Span)
  /-- A second negation in one flag group; the span of the first. -/
  | flagRepeatedNegation (first : Span)
  | flagUnexpectedEof
  | flagUnrecognized
  /-- A group name given twice; the span of its first use. -/
  | groupNameDuplicate (first : Span)
  | groupNameEmpty
  | groupNameInvalid
  | groupNameUnexpectedEof
  | groupUnclosed
  | groupUnopened
  | nestLimitExceeded (limit : Nat)
  | repetitionCountInvalid
  | repetitionCountDecimalEmpty
  | repetitionCountUnclosed
  | repetitionMissing
  | specialWordBoundaryUnclosed
  | specialWordBoundaryUnrecognized
  | specialWordOrRepetitionUnexpectedEof
  | unicodeClassInvalid
  | unsupportedBackreference
  | unsupportedLookAround
  | unicodeNotAllowed
  | invalidUtf8
  | unicodePropertyNotFound
  | unicodePropertyValueNotFound
  deriving Repr, BEq

/-- The text an error is reported with. -/
def ErrorKind.message : ErrorKind → String
  | .captureLimitExceeded => "exceeded the maximum number of capturing groups (4294967295)"
  | .classEscapeInvalid => "invalid escape sequence found in character class"
  | .classRangeInvalid => "invalid character class range, the start must be <= the end"
  | .classRangeLiteral => "invalid range boundary, must be a literal"
  | .classUnclosed => "unclosed character class"
  | .decimalEmpty => "decimal literal empty"
  | .decimalInvalid => "decimal literal invalid"
  | .escapeHexEmpty => "hexadecimal literal empty"
  | .escapeHexInvalid => "hexadecimal literal is not a Unicode scalar value"
  | .escapeHexInvalidDigit => "invalid hexadecimal digit"
  | .escapeUnexpectedEof => "incomplete escape sequence, reached end of pattern prematurely"
  | .escapeUnrecognized => "unrecognized escape sequence"
  | .flagDanglingNegation => "dangling flag negation operator"
  | .flagDuplicate _ => "duplicate flag"
  | .flagRepeatedNegation _ => "flag negation operator repeated"
  | .flagUnexpectedEof => "expected flag but got end of regex"
  | .flagUnrecognized => "unrecognized flag"
  | .groupNameDuplicate _ => "duplicate capture group name"
  | .groupNameEmpty => "empty capture group name"
  | .groupNameInvalid => "invalid capture group character"
  | .groupNameUnexpectedEof => "unclosed capture group name"
  | .groupUnclosed => "unclosed group"
  | .groupUnopened => "unopened group"
  | .nestLimitExceeded limit =>
    "exceed the maximum number of nested parentheses/brackets (" ++ toString limit ++ ")"
  | .repetitionCountInvalid => "invalid repetition count range, the start must be <= the end"
  | .repetitionCountDecimalEmpty => "repetition quantifier expects a valid decimal"
  | .repetitionCountUnclosed => "unclosed counted repetition"
  | .repetitionMissing => "repetition operator missing expression"
  | .specialWordBoundaryUnclosed =>
    "special word boundary assertion is either unclosed or contains an invalid character"
  | .specialWordBoundaryUnrecognized =>
    "unrecognized special word boundary assertion, valid choices are: start, end, start-half or end-half"
  | .specialWordOrRepetitionUnexpectedEof =>
    "found either the beginning of a special word boundary or a bounded repetition on a \\b with an opening brace, but no closing brace"
  | .unicodeClassInvalid => "invalid Unicode character class"
  | .unsupportedBackreference => "backreferences are not supported"
  | .unsupportedLookAround => "look-around, including look-ahead and look-behind, is not supported"
  | .unicodeNotAllowed => "Unicode not allowed here"
  | .invalidUtf8 => "pattern can match invalid UTF-8"
  | .unicodePropertyNotFound => "Unicode property not found"
  | .unicodePropertyValueNotFound => "Unicode property value not found"

/-- The earlier span an error also points at, if any. -/
def ErrorKind.auxSpan : ErrorKind → Option Span
  | .flagDuplicate s | .flagRepeatedNegation s | .groupNameDuplicate s => some s
  | _ => none

/-- An error: what is wrong, and where. -/
structure Error where
  kind : ErrorKind
  span : Span
  deriving Repr

/-- A flag. -/
inductive Flag where
  | caseInsensitive
  | multiLine
  | dotMatchesNewLine
  | swapGreed
  | unicode
  | crlf
  | ignoreWhitespace
  deriving Repr, BEq

/-- One item of a flag group: a flag, or the `-` that turns the flags after it off. -/
inductive FlagsItemKind where
  | negation
  | flag (f : Flag)
  deriving Repr, BEq

/-- An item of a flag group and its span. -/
structure FlagsItem where
  span : Span
  kind : FlagsItemKind
  deriving Repr

/-- What a flag group says of a flag: on, off, or nothing. -/
def flagState (items : List FlagsItem) (f : Flag) : Option Bool :=
  let rec go : List FlagsItem → Bool → Option Bool
    | [], _ => none
    | i :: rest, negated =>
      match i.kind with
      | .negation => go rest true
      | .flag g => if g == f then some !negated else go rest negated
  go items false

/-- A zero-width assertion. -/
inductive AssertionKind where
  | startLine
  | endLine
  | startText
  | endText
  | wordBoundary
  | notWordBoundary
  | wordBoundaryStart
  | wordBoundaryEnd
  | wordBoundaryStartAngle
  | wordBoundaryEndAngle
  | wordBoundaryStartHalf
  | wordBoundaryEndHalf
  deriving Repr, BEq

/-- A class written with a backslash and one letter. -/
inductive PerlKind where
  | digit
  | space
  | word
  deriving Repr, BEq

/-- A class `\d \s \w`, or its negation `\D \S \W`. -/
structure PerlClass where
  span : Span
  kind : PerlKind
  negated : Bool
  deriving Repr

/-- How a Unicode class is named: one letter (`\pL`), a name (`\p{Greek}`), or a property and
    a value (`\p{sc=Greek}`, `\p{sc:Greek}`, or `\p{sc!=Greek}`, which negates). -/
inductive UnicodeKind where
  | oneLetter (c : Char)
  | named (name : String)
  | namedValue (notEqual : Bool) (name value : String)
  deriving Repr

/-- A Unicode class `\p..` or its negation `\P..`. -/
structure UnicodeClass where
  span : Span
  negated : Bool
  kind : UnicodeKind
  deriving Repr

/-- Whether a Unicode class is negated, counting a `!=` as a negation. -/
def UnicodeClass.isNegated (c : UnicodeClass) : Bool :=
  match c.kind with
  | .namedValue true _ _ => !c.negated
  | _ => c.negated

/-- A named ASCII class `[:name:]`. -/
inductive AsciiKind where
  | alnum | alpha | ascii | blank | cntrl | digit | graph | lower | print | punct | space
  | upper | word | xdigit
  deriving Repr, BEq

/-- The ASCII class of a name. -/
def AsciiKind.ofName : String → Option AsciiKind
  | "alnum" => some .alnum
  | "alpha" => some .alpha
  | "ascii" => some .ascii
  | "blank" => some .blank
  | "cntrl" => some .cntrl
  | "digit" => some .digit
  | "graph" => some .graph
  | "lower" => some .lower
  | "print" => some .print
  | "punct" => some .punct
  | "space" => some .space
  | "upper" => some .upper
  | "word" => some .word
  | "xdigit" => some .xdigit
  | _ => none

/-- The characters of an ASCII class, as ranges. -/
def AsciiKind.ranges : AsciiKind → List (Nat × Nat)
  | .alnum => [(0x30, 0x39), (0x41, 0x5A), (0x61, 0x7A)]
  | .alpha => [(0x41, 0x5A), (0x61, 0x7A)]
  | .ascii => [(0, 0x7F)]
  | .blank => [(9, 9), (0x20, 0x20)]
  | .cntrl => [(0, 0x1F), (0x7F, 0x7F)]
  | .digit => [(0x30, 0x39)]
  | .graph => [(0x21, 0x7E)]
  | .lower => [(0x61, 0x7A)]
  | .print => [(0x20, 0x7E)]
  | .punct => [(0x21, 0x2F), (0x3A, 0x40), (0x5B, 0x60), (0x7B, 0x7E)]
  | .space => [(9, 13), (0x20, 0x20)]
  | .upper => [(0x41, 0x5A)]
  | .word => [(0x30, 0x39), (0x41, 0x5A), (0x5F, 0x5F), (0x61, 0x7A)]
  | .xdigit => [(0x30, 0x39), (0x41, 0x46), (0x61, 0x66)]

/-- A literal character; `hexByte` when it was written `\x` and two digits, which names a byte
    where Unicode is off. -/
structure Literal where
  span : Span
  c : Char
  hexByte : Bool := false
  deriving Repr

/-- An operation between two sets in a bracketed class. -/
inductive SetOp where
  | intersection
  | difference
  | symmetricDifference
  deriving Repr, BEq

mutual
/-- An item of a bracketed class. -/
inductive ClassSetItem where
  | empty (span : Span)
  | literal (lit : Literal)
  | range (span : Span) (lo hi : Literal)
  | ascii (span : Span) (kind : AsciiKind) (negated : Bool)
  | unicode (cls : UnicodeClass)
  | perl (cls : PerlClass)
  | bracketed (span : Span) (negated : Bool) (set : ClassSet)
  | union (span : Span) (items : List ClassSetItem)
/-- The set inside brackets: an item, or an operation between two sets. -/
inductive ClassSet where
  | item (i : ClassSetItem)
  | binaryOp (span : Span) (kind : SetOp) (lhs rhs : ClassSet)
end

/-- The span of a class item. -/
def ClassSetItem.span : ClassSetItem → Span
  | .empty s | .range s _ _ | .ascii s _ _ | .bracketed s _ _ | .union s _ => s
  | .literal l => l.span
  | .unicode c => c.span
  | .perl c => c.span

/-- The span of a class set. -/
def ClassSet.span : ClassSet → Span
  | .item i => i.span
  | .binaryOp s _ _ _ => s

/-- How often a repetition repeats. -/
inductive RepetitionKind where
  | zeroOrOne
  | zeroOrMore
  | oneOrMore
  | exactly (n : Nat)
  | atLeast (n : Nat)
  | bounded (m n : Nat)
  deriving Repr, BEq

/-- The least and, unless unbounded, the most repetitions. -/
def RepetitionKind.bounds : RepetitionKind → Nat × Option Nat
  | .zeroOrOne => (0, some 1)
  | .zeroOrMore => (0, none)
  | .oneOrMore => (1, none)
  | .exactly n => (n, some n)
  | .atLeast n => (n, none)
  | .bounded m n => (m, some n)

/-- A group: capturing (by number, or with a name), or not capturing, with flags. -/
inductive GroupKind where
  | captureIndex (index : Nat)
  | captureName (name : String) (index : Nat)
  | nonCapturing (flags : List FlagsItem)
  deriving Repr

/-- The syntax tree of a pattern. -/
inductive Ast where
  | empty (span : Span)
  | flags (span : Span) (items : List FlagsItem)
  | literal (lit : Literal)
  | dot (span : Span)
  | assertion (span : Span) (kind : AssertionKind)
  | unicodeClass (cls : UnicodeClass)
  | perlClass (cls : PerlClass)
  | bracketed (span : Span) (negated : Bool) (set : ClassSet)
  | repetition (span : Span) (kind : RepetitionKind) (greedy : Bool) (ast : Ast)
  | group (span : Span) (kind : GroupKind) (ast : Ast)
  | alternation (span : Span) (asts : List Ast)
  | concat (span : Span) (asts : List Ast)

/-- The span of a syntax tree. -/
def Ast.span : Ast → Span
  | .empty s | .flags s _ | .dot s | .assertion s _ | .bracketed s _ _ | .repetition s _ _ _
  | .group s _ _ | .alternation s _ | .concat s _ => s
  | .literal l => l.span
  | .unicodeClass c => c.span
  | .perlClass c => c.span

end SmartHelmet.Regex
