import SmartHelmet.Json.Number
import SmartHelmet.Decimal.Layout
import SmartHelmet.Text.Utf8
import SmartHelmet.Text.Quoted
import SmartHelmet.Json.Value
/-!
# A streaming JSON reader with positioned errors

The readers of the status reply and of commands read JSON byte by byte, from the front, and
stop at the first fault. Which fault is reported, and where, depends on that order, so this
module fixes it:

* `Cursor` — the bytes not yet read, the line and column reached (the column counts bytes
  since the last newline), and the nesting depth still allowed (128 levels in all);
* `Fault`, `Error` — what went wrong, and the position it is reported at; faults found by the
  reader carry the position of the cursor (or of the byte after it, for a fault seen by
  looking ahead), faults about the shape of a value (`invalidType`, `missingField`, …) get
  the position reached when the enclosing container has been closed;
* `Reader` — a state monad over the cursor whose failures keep the cursor;
* `readString`, `skipString`, `readNumber`, `skipNumber`, `skipValue`, `readContent` — the
  lexical readers: strings are checked for escapes, surrogate pairs and UTF-8, numbers are
  converted as `Json.fromParts` says, skipped values are checked for syntax only (no depth
  limit, no UTF-8 check, no range check);
* `nextKey`, `nextItem`, `colon` — the separators of objects and arrays;
* `closeObject`, `closeArray`, `finish` — what must follow a container and the document.
-/

namespace SmartHelmet.Json

/-- A value found where another kind was expected, as diagnostics name it. -/
inductive Unexpected where
  | null
  | bool (b : Bool)
  | unsigned (n : Nat)
  | signed (i : Int)
  | float (x : Float)
  | str (s : String)
  | sequence
  | map

/-- What went wrong while reading. -/
inductive Fault where
  | eofList
  | eofObject
  | eofString
  | eofValue
  | expectedColon
  | expectedListCommaOrEnd
  | expectedObjectCommaOrEnd
  | expectedIdent
  | expectedValue
  | invalidEscape
  | invalidNumber
  | numberOutOfRange
  | invalidCodePoint
  | controlCharacter
  | keyMustBeString
  | loneLeadingSurrogate
  | trailingComma
  | trailingCharacters
  | unexpectedEndOfHexEscape
  | recursionLimit
  | invalidType (found : Unexpected) (expected : String)
  | invalidLength (length : Nat) (expected : String)
  | missingField (name : String)
  | duplicateField (name : String)

/-- How diagnostics name an unexpected value. -/
def Unexpected.text : Unexpected → String
  | .null => "null"
  | .bool b => "boolean `" ++ (if b then "true" else "false") ++ "`"
  | .unsigned n => "integer `" ++ toString n ++ "`"
  | .signed i => "integer `" ++ toString i ++ "`"
  | .float x => "floating point `" ++ Decimal.Layout.wire.render x ++ "`"
  | .str s => "string " ++ Text.quoted s
  | .sequence => "sequence"
  | .map => "map"

/-- The message of a fault. -/
def Fault.message : Fault → String
  | .eofList => "EOF while parsing a list"
  | .eofObject => "EOF while parsing an object"
  | .eofString => "EOF while parsing a string"
  | .eofValue => "EOF while parsing a value"
  | .expectedColon => "expected `:`"
  | .expectedListCommaOrEnd => "expected `,` or `]`"
  | .expectedObjectCommaOrEnd => "expected `,` or `\x7d`"
  | .expectedIdent => "expected ident"
  | .expectedValue => "expected value"
  | .invalidEscape => "invalid escape"
  | .invalidNumber => "invalid number"
  | .numberOutOfRange => "number out of range"
  | .invalidCodePoint => "invalid unicode code point"
  | .controlCharacter => "control character (\\u0000-\\u001F) found while parsing a string"
  | .keyMustBeString => "key must be a string"
  | .loneLeadingSurrogate => "lone leading surrogate in hex escape"
  | .trailingComma => "trailing comma"
  | .trailingCharacters => "trailing characters"
  | .unexpectedEndOfHexEscape => "unexpected end of hex escape"
  | .recursionLimit => "recursion limit exceeded"
  | .invalidType found expected => "invalid type: " ++ found.text ++ ", expected " ++ expected
  | .invalidLength n expected => "invalid length " ++ toString n ++ ", expected " ++ expected
  | .missingField name => "missing field `" ++ name ++ "`"
  | .duplicateField name => "duplicate field `" ++ name ++ "`"

/-- A fault and the line and column it is reported at, once known. -/
structure Error where
  fault : Fault
  position : Option (Nat × Nat)

/-- The message of an error: the fault, then its position. -/
def Error.message (e : Error) : String :=
  match e.position with
  | some (line, column) =>
    e.fault.message ++ " at line " ++ toString line ++ " column " ++ toString column
  | none => e.fault.message

/-- Where the reader stands. -/
structure Cursor where
  rest : List UInt8
  line : Nat := 1
  column : Nat := 0
  depth : Nat := 128

/-- A cursor at the start of a text. -/
def Cursor.start (bs : List UInt8) : Cursor := { rest := bs }

/-- The cursor after its next byte. -/
def Cursor.bump (c : Cursor) : Cursor :=
  match c.rest with
  | [] => c
  | b :: rest =>
    if b == 10 then { c with rest := rest, line := c.line + 1, column := 0 }
    else { c with rest := rest, column := c.column + 1 }

/-- The position of the byte after the cursor, or of the cursor at the end. -/
def Cursor.ahead (c : Cursor) : Nat × Nat :=
  let d := c.bump
  (d.line, d.column)

/-- A reader: a cursor in, a result or an error and the cursor reached out. -/
abbrev Reader := EStateM Error Cursor

/-- The next byte, not consumed. -/
def peek : Reader (Option UInt8) := do
  return (← get).rest.head?

/-- Consume the next byte. -/
def bump : Reader Unit := modify Cursor.bump

/-- Consume and return the next byte. -/
def next : Reader (Option UInt8) := do
  let b ← peek
  bump
  return b

/-- Fail at the cursor. -/
def fail {α : Type} (f : Fault) : Reader α := do
  let c ← get
  throw ⟨f, some (c.line, c.column)⟩

/-- Fail at the byte after the cursor. -/
def failAhead {α : Type} (f : Fault) : Reader α := do
  throw ⟨f, some (← get).ahead⟩

/-- Fail without a position; the enclosing container gives one. -/
def failShape {α : Type} (f : Fault) : Reader α := throw ⟨f, none⟩

/-- Run a reader and keep its error as a value; the cursor stays where it failed. -/
def attempt {α : Type} (x : Reader α) : Reader (Except Error α) :=
  tryCatch (Except.ok <$> x) (fun e => pure (.error e))

/-- Give an error without a position the position of the cursor. -/
def positioned {α : Type} (x : Reader α) : Reader α :=
  tryCatch x fun e => do
    match e.position with
    | some _ => throw e
    | none =>
      let c ← get
      throw { e with position := some (c.line, c.column) }

/-- JSON's blanks: space, newline, tab, carriage return. -/
def isBlankByte (b : UInt8) : Bool := b == 32 || b == 10 || b == 9 || b == 13

/-- Skip blanks and look at the next byte. -/
def skipBlanks : Reader (Option UInt8) := do
  let c ← get
  let rec go : Nat → Cursor → Cursor
    | 0, c => c
    | fuel + 1, c =>
      match c.rest with
      | b :: _ => if isBlankByte b then go fuel c.bump else c
      | [] => c
  let c := go c.rest.length c
  set c
  return c.rest.head?

/-- Whether a byte is a decimal digit. -/
def isDigitByte (b : UInt8) : Bool := 48 ≤ b && b ≤ 57

/-- The value of a digit byte. -/
def digitValue (b : UInt8) : Nat := b.toNat - 48

/-- Read the rest of a keyword whose first byte is consumed. -/
def keyword (tail : List UInt8) : Reader Unit := do
  for expected in tail do
    match ← next with
    | none => fail .eofValue
    | some b => if b != expected then fail .expectedIdent

/-! ## 1. Strings -/

/-- The value of a hexadecimal digit byte. -/
def hexValue (b : UInt8) : Option Nat :=
  if 48 ≤ b && b ≤ 57 then some (b.toNat - 48)
  else if 97 ≤ b && b ≤ 102 then some (b.toNat - 87)
  else if 65 ≤ b && b ≤ 70 then some (b.toNat - 55)
  else none

/-- Four hexadecimal digits after `\u`: all four are consumed before they are checked; fewer
    than four left is the end of the string. -/
def hexEscape : Reader Nat := do
  let c ← get
  match c.rest with
  | a :: b :: d :: e :: _ =>
    bump; bump; bump; bump
    match hexValue a, hexValue b, hexValue d, hexValue e with
    | some a, some b, some d, some e => return ((a * 16 + b) * 16 + d) * 16 + e
    | _, _, _, _ => fail .invalidEscape
  | _ =>
    let rec drain : Nat → Reader Unit
      | 0 => pure ()
      | n + 1 => do bump; drain n
    drain c.rest.length
    fail .eofString

/-- The next byte inside a string, or the end of the string as a fault. -/
def nextInString : Reader UInt8 := do
  match ← next with
  | some b => return b
  | none => fail .eofString

/-- The next byte inside a string, not consumed. -/
def peekInString : Reader UInt8 := do
  match ← peek with
  | some b => return b
  | none => fail .eofString

/-- The escape after a backslash, as the bytes it stands for; `\u` escapes must pair
    surrogates. -/
def escape : Reader (List UInt8) := do
  let e ← nextInString
  if e == 34 then return [34]
  else if e == 92 then return [92]
  else if e == 47 then return [47]
  else if e == 98 then return [8]
  else if e == 102 then return [12]
  else if e == 110 then return [10]
  else if e == 114 then return [13]
  else if e == 116 then return [9]
  else if e == 117 then
    let n ← hexEscape
    if 0xDC00 ≤ n && n ≤ 0xDFFF then fail .loneLeadingSurrogate
    else if n < 0xD800 || n > 0xDBFF then return Text.Utf8.encode (String.singleton (Char.ofNat n))
    else
      if (← peekInString) == 92 then bump else do bump; fail .unexpectedEndOfHexEscape
      if (← peekInString) == 117 then bump else do bump; fail .unexpectedEndOfHexEscape
      let m ← hexEscape
      if m < 0xDC00 || m > 0xDFFF then fail .loneLeadingSurrogate
      let cp := 0x10000 + (n - 0xD800) * 1024 + (m - 0xDC00)
      return Text.Utf8.encode (String.singleton (Char.ofNat cp))
  else fail .invalidEscape

/-- **A string after its opening quote**: raw bytes up to the closing quote, escapes decoded;
    a control byte or the end is a fault, and the bytes must be UTF-8, which is checked at the
    closing quote before it is taken. -/
def readString : Reader String := do
  let rec go : Nat → List UInt8 → Reader String
    | 0, _ => fail .eofString
    | fuel + 1, acc => do
      match ← peek with
      | none => fail .eofString
      | some b =>
        if b == 34 then
          match Text.Utf8.decode? acc with
          | some s => do bump; return s
          | none => fail .invalidCodePoint
        else if b == 92 then do
          bump
          let bs ← escape
          go fuel (acc ++ bs)
        else if b < 32 then do bump; fail .controlCharacter
        else do bump; go fuel (acc ++ [b])
  go ((← get).rest.length + 1) []

/-- An escape inside a skipped string: checked for its letter, `\u` for four digits only. -/
def skipEscape : Reader Unit := do
  let e ← nextInString
  if e == 34 || e == 92 || e == 47 || e == 98 || e == 102 || e == 110 || e == 114 || e == 116
  then pure ()
  else if e == 117 then do let _ ← hexEscape; pure ()
  else fail .invalidEscape

/-- **A skipped string after its opening quote**: escapes are checked, surrogates and UTF-8
    are not; a control byte is a fault at its own position. -/
def skipString : Reader Unit := do
  let rec go : Nat → Reader Unit
    | 0 => fail .eofString
    | fuel + 1 => do
      match ← peek with
      | none => fail .eofString
      | some b =>
        if b == 34 then bump
        else if b == 92 then do bump; skipEscape; go fuel
        else if b < 32 then fail .controlCharacter
        else do bump; go fuel
  go ((← get).rest.length + 1)

/-! ## 2. Numbers -/

/-- Consume digits while `step` accepts them, folding them into a state. -/
def digitsWhile {σ : Type} (step : σ → Nat → Option σ) (init : σ) : Reader (σ × Bool) := do
  let rec go : Nat → σ → Reader (σ × Bool)
    | 0, s => return (s, false)
    | fuel + 1, s => do
      match ← peek with
      | some b =>
        if isDigitByte b then
          match step s (digitValue b) with
          | some s' => do bump; go fuel s'
          | none => return (s, true)
        else return (s, false)
      | none => return (s, false)
  go ((← get).rest.length + 1) init

/-- Consume all digits. -/
def skipDigits : Reader Nat := do
  let (n, _) ← digitsWhile (fun n _ => some (n + 1)) 0
  return n

/-- The sign of an exponent after its letter: a plus or a minus sign is consumed, and none
    reads as plus. -/
def exponentSign : Reader Bool := do
  match ← peek with
  | some 43 => do bump; pure true
  | some 45 => do bump; pure false
  | _ => pure true

/-- The digits of an exponent after its sign, then the double; an exponent beyond 32 bits gives
    zero, or is out of range for a positive exponent of a non-zero significand. -/
def exponentValue (negative : Bool) (sig : Nat) (start : Int) (positiveExp : Bool) :
    Reader Float := do
  let first ← next
  match first with
  | none => fail .eofValue
  | some b =>
    if !isDigitByte b then fail .invalidNumber
    let (e, overflow) ← digitsWhile
      (fun e d => if exponentFitsAfter e d then some (e * 10 + d) else none) (digitValue b)
    if overflow then
      bump
      if sig != 0 && positiveExp then fail .numberOutOfRange
      let _ ← skipDigits
      return (if negative then -0.0 else 0.0)
    let final := if positiveExp then saturatingAdd start e else saturatingAdd start (-(e : Int))
    match fromParts negative sig final with
    | some x => return x
    | none => fail .numberOutOfRange

/-- The exponent part after `e`: its sign, then its digits and the double. -/
def exponentPart (negative : Bool) (sig : Nat) (start : Int) : Reader Float := do
  bump
  exponentValue negative sig start (← exponentSign)

/-- The double of a significand and exponent, or out of range. -/
def finishParts (negative : Bool) (sig : Nat) (e : Int) : Reader Float := do
  match fromParts negative sig e with
  | some x => return x
  | none => fail .numberOutOfRange

/-- The end of a number after its digits: its exponent, if one follows, then the double. -/
def numberEnd (negative : Bool) (sig : Nat) (e : Int) : Reader Float := do
  match ← peek with
  | some 101 => exponentPart negative sig e
  | some 69 => exponentPart negative sig e
  | _ => finishParts negative sig e

/-- The digits of a fraction after its point: they join the significand while they fit, the
    rest are dropped, and at least one is required. Gives the significand and the number of
    digits it took. -/
def fractionDigits (sig : Nat) : Reader (Nat × Nat) := do
  bump
  let ((sig, count), overflow) ← digitsWhile
    (fun (s, k) d => if fitsAfter s d then some (s * 10 + d, k + 1) else none) (sig, 0)
  if overflow then
    let _ ← skipDigits
    pure (sig, count)
  else if count == 0 then
    match ← peek with
    | some _ => failAhead .invalidNumber
    | none => failAhead .eofValue
  else pure (sig, count)

/-- The fraction after the point, then the end of the number. -/
def fractionPart (negative : Bool) (sig : Nat) (start : Int) : Reader Float := do
  let (sig, count) ← fractionDigits sig
  numberEnd negative sig (start - (count : Int))

/-- A number after its integer part, as a double: its fraction, if one follows, then its
    end. -/
def afterInteger (negative : Bool) (sig : Nat) (e : Int) : Reader Float := do
  match ← peek with
  | some 46 => fractionPart negative sig e
  | _ => numberEnd negative sig e

/-- The number of an integer's digits that fit in 64 bits: a whole number, or after a minus
    sign a negative one within 64 signed bits, and `-0` or anything below as a double. -/
def integerNumber (negative : Bool) (sig : Nat) : Number :=
  if !negative then .unsigned sig
  else if sig == 0 || sig > 0x8000000000000000 then .float (-(Decimal.ofNatNearest sig))
  else .signed (-(sig : Int))

/-- **A number after its optional minus sign**: an integer that fits in 64 bits stays one
    (a negative one within 64 signed bits, `-0` as a double), anything else is a double. -/
def readNumber (negative : Bool) : Reader Number := do
  match ← next with
  | none => fail .eofValue
  | some 48 =>
    match ← peek with
    | some b =>
      if isDigitByte b then failAhead .invalidNumber
      else if b == 46 || b == 101 || b == 69 then return .float (← afterInteger negative 0 0)
      else return (if negative then .float (-0.0) else .unsigned 0)
    | none => return (if negative then .float (-0.0) else .unsigned 0)
  | some b =>
    if !(isDigitByte b) then fail .invalidNumber
    let (sig, overflow) ← digitsWhile
      (fun s d => if fitsAfter s d then some (s * 10 + d) else none) (digitValue b)
    if overflow then
      let dropped ← skipDigits
      return .float (← afterInteger negative sig dropped)
    match ← peek with
    | some 46 => return .float (← afterInteger negative sig 0)
    | some 101 => return .float (← afterInteger negative sig 0)
    | some 69 => return .float (← afterInteger negative sig 0)
    | _ => return integerNumber negative sig

/-- The fraction of a skipped number. -/
def skipFraction : Reader Unit := do
  bump
  let n ← skipDigits
  if n == 0 then failAhead .invalidNumber

/-- The exponent of a skipped number. -/
def skipExponent : Reader Unit := do
  bump
  match ← peek with
  | some 43 => bump
  | some 45 => bump
  | _ => pure ()
  match ← next with
  | some b => if isDigitByte b then do let _ ← skipDigits; pure () else fail .invalidNumber
  | none => fail .invalidNumber

/-- **A skipped number after its optional minus sign**: syntax only, no range. -/
def skipNumber : Reader Unit := do
  match ← next with
  | some 48 =>
    match ← peek with
    | some b => if isDigitByte b then failAhead .invalidNumber
    | none => pure ()
  | some b =>
    if isDigitByte b then do let _ ← skipDigits; pure () else fail .invalidNumber
  | none => fail .invalidNumber
  match ← peek with
  | some 46 =>
    skipFraction
    match ← peek with
    | some 101 => skipExponent
    | some 69 => skipExponent
    | _ => pure ()
  | some 101 => skipExponent
  | some 69 => skipExponent
  | _ => pure ()

/-! ## 3. Skipped values -/

/-- The kind of a container being skipped. -/
inductive Frame where
  | array
  | object
  deriving BEq

/-- One scalar, skipped, or the opening bracket of a container, consumed. -/
def scalarOrOpen : Reader (Option Frame) := do
  match ← skipBlanks with
  | none => failAhead .eofValue
  | some b =>
    if b == 110 then do bump; keyword [117, 108, 108]; pure none
    else if b == 116 then do bump; keyword [114, 117, 101]; pure none
    else if b == 102 then do bump; keyword [97, 108, 115, 101]; pure none
    else if b == 45 then do bump; skipNumber; pure none
    else if isDigitByte b then do skipNumber; pure none
    else if b == 34 then do bump; skipString; pure none
    else if b == 91 then do bump; pure (some .array)
    else if b == 123 then do bump; pure (some .object)
    else failAhead .expectedValue

/-- Inside an object being skipped: a key string and its colon. -/
def skipKey : Reader Unit := do
  match ← skipBlanks with
  | some 34 => bump
  | some _ => failAhead .keyMustBeString
  | none => failAhead .eofObject
  skipString
  match ← skipBlanks with
  | some 58 => bump
  | some _ => failAhead .expectedColon
  | none => failAhead .eofObject

/-- The fault for a byte that cannot follow inside a container. -/
def Frame.badSeparator : Frame → Fault
  | .array => .expectedListCommaOrEnd
  | .object => .expectedObjectCommaOrEnd

/-- The fault for the end of the text inside a container. -/
def Frame.eof : Frame → Fault
  | .array => .eofList
  | .object => .eofObject

/-- The closing bracket of a container. -/
def Frame.closer : Frame → UInt8
  | .array => 93
  | .object => 125

mutual
/-- Skip one value inside the containers of `stack` (innermost first), then what follows. -/
def skipIn : Nat → List Frame → Reader Unit
  | 0, _ => fail .eofValue
  | fuel + 1, stack => do
    match ← scalarOrOpen with
    | some frame => afterValue fuel false frame stack
    | none =>
      match stack with
      | [] => pure ()
      | frame :: rest => afterValue fuel true frame rest

/-- After a value in `frame` (or after its opening bracket, when `comma` is false): a comma
    continues it, its closing bracket ends it; right after the opening bracket anything else
    starts its first member. -/
def afterValue : Nat → Bool → Frame → List Frame → Reader Unit
  | 0, _, _, _ => fail .eofValue
  | fuel + 1, comma, frame, stack => do
    match ← skipBlanks with
    | none => failAhead frame.eof
    | some b =>
      if comma && b == 44 then do
        bump
        if frame == .object then skipKey
        skipIn fuel (frame :: stack)
      else if b == frame.closer then do
        bump
        match stack with
        | [] => pure ()
        | outer :: rest => afterValue fuel true outer rest
      else if comma then failAhead frame.badSeparator
      else do
        if frame == .object then skipKey
        skipIn fuel (frame :: stack)
end

/-- **A skipped value**: any JSON value, checked for syntax only and kept nowhere. Containers
    are tracked on an explicit stack, so nesting has no limit here. -/
def skipValue : Reader Unit := do
  skipIn (4 * (← get).rest.length + 4) []

/-! ## 4. Containers -/

/-- Whether another member of an object follows; `first` before the first one. -/
def nextKey (first : Bool) : Reader Bool := do
  match ← skipBlanks with
  | none => failAhead .eofObject
  | some 125 => return false
  | some b =>
    if first then
      if b == 34 then return true else failAhead .keyMustBeString
    else if b == 44 then do
      bump
      match ← skipBlanks with
      | some 34 => return true
      | some 125 => failAhead .trailingComma
      | some _ => failAhead .keyMustBeString
      | none => failAhead .eofValue
    else failAhead .expectedObjectCommaOrEnd

/-- A member's key, its opening quote next. -/
def readKey : Reader String := do
  bump
  readString

/-- The colon between a key and its value. -/
def colon : Reader Unit := do
  match ← skipBlanks with
  | some 58 => bump
  | some _ => failAhead .expectedColon
  | none => failAhead .eofObject

/-- Whether another item of an array follows; `first` before the first one. -/
def nextItem (first : Bool) : Reader Bool := do
  match ← skipBlanks with
  | none => failAhead .eofList
  | some 93 => return false
  | some b =>
    if first then return true
    else if b == 44 then do
      bump
      match ← skipBlanks with
      | some 93 => failAhead .trailingComma
      | some _ => return true
      | none => failAhead .eofValue
    else failAhead .expectedListCommaOrEnd

/-- What must follow the members of an object. -/
def closeObject : Reader Unit := do
  match ← skipBlanks with
  | some 125 => bump
  | some 44 => failAhead .trailingComma
  | some _ => failAhead .trailingCharacters
  | none => failAhead .eofObject

/-- What must follow the items of an array. -/
def closeArray : Reader Unit := do
  match ← skipBlanks with
  | some 93 => bump
  | some 44 => do
    bump
    match ← skipBlanks with
    | some 93 => failAhead .trailingComma
    | _ => failAhead .trailingCharacters
  | some _ => failAhead .trailingCharacters
  | none => failAhead .eofList

/-- What must follow the document: blanks only. -/
def finish : Reader Unit := do
  match ← skipBlanks with
  | some _ => failAhead .trailingCharacters
  | none => pure ()

/-- **A container**: one level deeper (at most 128 in all), the opening bracket consumed, the
    body, then the closing part. The closing part is read even after the body failed, and the
    body's error wins; so an error without a position gets the one after the closing part. -/
def within {α : Type} (close : Reader Unit) (body : Reader α) : Reader α := do
  let c ← get
  if c.depth ≤ 1 then failAhead .recursionLimit
  set { c with depth := c.depth - 1 }
  bump
  let ret ← attempt body
  modify fun c => { c with depth := c.depth + 1 }
  let closing ← attempt close
  match ret, closing with
  | .ok v, .ok () => pure v
  | .error e, _ => throw e
  | .ok _, .error e => throw e

/-- How a number is named when it is not the kind expected. -/
def Number.unexpected : Number → Unexpected
  | .unsigned n => .unsigned n
  | .signed i => .signed i
  | .float x => .float x

/-- **A value of the wrong kind where `expected` was wanted**: a scalar is read so that the
    error can name it, and the error stands after it; a container is named unread. -/
def wrongKind {α : Type} (expected : String) : Reader α := do
  let found ← do
    match ← peek with
    | some 110 => do bump; keyword [117, 108, 108]; pure Unexpected.null
    | some 116 => do bump; keyword [114, 117, 101]; pure (Unexpected.bool true)
    | some 102 => do bump; keyword [97, 108, 115, 101]; pure (Unexpected.bool false)
    | some 45 => do bump; pure (← readNumber true).unexpected
    | some 34 => do bump; pure (Unexpected.str (← readString))
    | some 91 => pure Unexpected.sequence
    | some 123 => pure Unexpected.map
    | some b =>
      if isDigitByte b then pure (← readNumber false).unexpected
      else failAhead .expectedValue
    | none => failAhead .expectedValue
  fail (.invalidType found expected)

/-- A value or `null`. -/
def readOption {α : Type} (inner : Reader α) : Reader (Option α) := do
  match ← skipBlanks with
  | some 110 => do bump; keyword [117, 108, 108]; pure none
  | _ => some <$> inner

/-- A boolean. -/
def readBool : Reader Bool := positioned do
  match ← skipBlanks with
  | none => failAhead .eofValue
  | some 116 => do bump; keyword [114, 117, 101]; pure true
  | some 102 => do bump; keyword [97, 108, 115, 101]; pure false
  | some _ => wrongKind "a boolean"

/-- A number read as a double. -/
def readDouble : Reader Float := positioned do
  match ← skipBlanks with
  | none => failAhead .eofValue
  | some 45 => do bump; pure (← readNumber true).toFloat
  | some b =>
    if isDigitByte b then pure (← readNumber false).toFloat
    else wrongKind "f64"

/-- The next item of an array, if any. -/
def element {α : Type} (first : Bool) (inner : Reader α) : Reader (Option α) := do
  if ← nextItem first then some <$> inner else pure none

/-! ## 5. Buffered values -/

/-- Any JSON value, read and kept. -/
inductive Content where
  | null
  | bool (b : Bool)
  | number (n : Number)
  | str (s : String)
  | seq (items : List Content)
  | map (entries : List (String × Content))

/-- How a buffered value is named when it is not the kind expected. -/
def Content.unexpected : Content → Unexpected
  | .null => .null
  | .bool b => .bool b
  | .number n => n.unexpected
  | .str s => .str s
  | .seq _ => .sequence
  | .map _ => .map

mutual
/-- **Any value, kept**: containers count toward the depth limit. -/
def readContent : Nat → Reader Content
  | 0 => fail .eofValue
  | fuel + 1 => positioned do
    match ← skipBlanks with
    | none => failAhead .eofValue
    | some b =>
      if b == 110 then do bump; keyword [117, 108, 108]; pure .null
      else if b == 116 then do bump; keyword [114, 117, 101]; pure (.bool true)
      else if b == 102 then do bump; keyword [97, 108, 115, 101]; pure (.bool false)
      else if b == 45 then do bump; pure (.number (← readNumber true))
      else if isDigitByte b then pure (.number (← readNumber false))
      else if b == 34 then do bump; pure (.str (← readString))
      else if b == 91 then .seq <$> within closeArray (readItems fuel true [])
      else if b == 123 then .map <$> within closeObject (readEntries fuel true [])
      else failAhead .expectedValue

/-- The items of an array, after its opening bracket. -/
def readItems : Nat → Bool → List Content → Reader (List Content)
  | 0, _, acc => pure acc
  | fuel + 1, first, acc => do
    if ← nextItem first then
      let v ← readContent fuel
      readItems fuel false (acc ++ [v])
    else pure acc

/-- The members of an object, after its opening brace. -/
def readEntries : Nat → Bool → List (String × Content) → Reader (List (String × Content))
  | 0, _, acc => pure acc
  | fuel + 1, first, acc => do
    if ← nextKey first then
      let k ← readKey
      colon
      let v ← readContent fuel
      readEntries fuel false (acc ++ [(k, v)])
    else pure acc
end

/-- Run a reader over a byte string from its start. -/
def Reader.run' {α : Type} (r : Reader α) (bs : List UInt8) : Except Error α :=
  match r.run (Cursor.start bs) with
  | .ok a _ => .ok a
  | .error e _ => .error e

/-- The number a literal stands for, read as the streaming reader reads numbers. -/
def Literal.read (n : Literal) : Except Error Number :=
  let body : Reader Number := do
    match ← peek with
    | some 45 => do bump; readNumber true
    | _ => readNumber false
  body.run' (Text.Utf8.encode n.render)

end SmartHelmet.Json
