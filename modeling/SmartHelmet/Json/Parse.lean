import SmartHelmet.Json.Value
/-!
# Reading a JSON document into a value

A plain recursive reader for well-formed documents, used where only the value matters and
any fault is just a refusal: `Value.parse?` gives the value of a text that is exactly one JSON
value between blanks. Numbers stay `Literal`s, digit for digit; `\u` escapes combine surrogate
pairs. Nesting is bounded by the length of the text, which is the fuel of the reader.
-/

namespace SmartHelmet.Json

/-- JSON's four blanks. -/
def isBlank (c : Char) : Bool := c == ' ' || c == '\n' || c == '\t' || c == '\r'

/-- Skip blanks. -/
def dropBlanks (cs : List Char) : List Char := cs.dropWhile isBlank

/-- Four hexadecimal digits. -/
def hex4? : List Char → Option (Nat × List Char)
  | a :: b :: c :: d :: rest => do
    let a ← Text.Hex.digit? a
    let b ← Text.Hex.digit? b
    let c ← Text.Hex.digit? c
    let d ← Text.Hex.digit? d
    pure (((a * 16 + b) * 16 + c) * 16 + d, rest)
  | _ => none

/-- The body of a string after its opening quote, up to and without the closing quote. -/
def stringBody? (fuel : Nat) (cs : List Char) (acc : String) : Option (String × List Char) :=
  match fuel, cs with
  | 0, _ => none
  | _, [] => none
  | _ + 1, '"' :: rest => some (acc, rest)
  | _ + 1, ['\\'] => none
  | fuel + 1, '\\' :: e :: rest =>
    match e with
    | '"' => stringBody? fuel rest (acc.push '"')
    | '\\' => stringBody? fuel rest (acc.push '\\')
    | '/' => stringBody? fuel rest (acc.push '/')
    | 'b' => stringBody? fuel rest (acc.push '\x08')
    | 'f' => stringBody? fuel rest (acc.push '\x0c')
    | 'n' => stringBody? fuel rest (acc.push '\n')
    | 'r' => stringBody? fuel rest (acc.push '\r')
    | 't' => stringBody? fuel rest (acc.push '\t')
    | 'u' => do
      let (n, rest) ← hex4? rest
      if 0xD800 ≤ n && n < 0xDC00 then
        match rest with
        | '\\' :: 'u' :: more =>
          let (m, more) ← hex4? more
          if 0xDC00 ≤ m && m < 0xE000 then
            stringBody? fuel more (acc.push (Char.ofNat (0x10000 + (n - 0xD800) * 1024 + (m - 0xDC00))))
          else none
        | _ => none
      else if 0xDC00 ≤ n && n < 0xE000 then none
      else stringBody? fuel rest (acc.push (Char.ofNat n))
    | _ => none
  | fuel + 1, c :: rest => if c.toNat < 0x20 then none else stringBody? fuel rest (acc.push c)

/-- A run of decimal digits. -/
def digitsOf (cs : List Char) : String × List Char :=
  (String.ofList (cs.takeWhile Char.isDigit), cs.dropWhile Char.isDigit)

/-- A number literal: `-? (0 | [1-9][0-9]*) (. [0-9]+)? ([eE] [+-]? [0-9]+)?`. -/
def literal? (cs : List Char) : Option (Literal × List Char) := do
  let (negative, cs) := match cs with
    | '-' :: rest => (true, rest)
    | _ => (false, cs)
  let (integer, cs) := digitsOf cs
  guard (!integer.isEmpty && !(integer.length > 1 && integer.startsWith "0"))
  let (fraction, cs) ← match cs with
    | '.' :: rest =>
      let (f, rest) := digitsOf rest
      if f.isEmpty then none else some (f, rest)
    | _ => some ("", cs)
  let (exponent, cs) ← match cs with
    | e :: rest =>
      if e == 'e' || e == 'E' then
        let (neg, rest) := match rest with
          | '-' :: r => (true, r)
          | '+' :: r => (false, r)
          | _ => (false, rest)
        let (d, rest) := digitsOf rest
        if d.isEmpty then none
        else some ((if neg then -(d.toNat! : Int) else (d.toNat! : Int)), rest)
      else some (0, cs)
    | [] => some (0, cs)
  pure (⟨negative, integer, fraction, exponent⟩, cs)

mutual
/-- One value after optional blanks. -/
def value? : Nat → List Char → Option (Value × List Char)
  | 0, _ => none
  | fuel + 1, cs =>
    match dropBlanks cs with
    | 'n' :: 'u' :: 'l' :: 'l' :: rest => some (.null, rest)
    | 't' :: 'r' :: 'u' :: 'e' :: rest => some (.bool true, rest)
    | 'f' :: 'a' :: 'l' :: 's' :: 'e' :: rest => some (.bool false, rest)
    | '"' :: rest => (stringBody? rest.length rest "").map fun (s, r) => (.str s, r)
    | '[' :: rest =>
      match dropBlanks rest with
      | ']' :: r => some (.array [], r)
      | _ => (items? fuel rest []).map fun (xs, r) => (.array xs, r)
    | '{' :: rest =>
      match dropBlanks rest with
      | '}' :: r => some (.object [], r)
      | _ => (members? fuel rest []).map fun (ms, r) => (.object ms, r)
    | cs => (literal? cs).map fun (n, r) => (.literal n, r)

/-- Array items after the opening bracket, each followed by a comma or the closing bracket. -/
def items? : Nat → List Char → List Value → Option (List Value × List Char)
  | 0, _, _ => none
  | fuel + 1, cs, acc => do
    let (v, rest) ← value? fuel cs
    match dropBlanks rest with
    | ',' :: r => items? fuel r (acc ++ [v])
    | ']' :: r => some (acc ++ [v], r)
    | _ => none

/-- Object members after the opening brace. -/
def members? : Nat → List Char → List (String × Value) → Option (List (String × Value) × List Char)
  | 0, _, _ => none
  | fuel + 1, cs, acc => do
    let cs := dropBlanks cs
    match cs with
    | '"' :: rest =>
      let (k, rest) ← stringBody? rest.length rest ""
      match dropBlanks rest with
      | ':' :: rest =>
        let (v, rest) ← value? fuel rest
        match dropBlanks rest with
        | ',' :: r => members? fuel r (acc ++ [(k, v)])
        | '}' :: r => some (acc ++ [(k, v)], r)
        | _ => none
      | _ => none
    | _ => none
end

/-- **The value of a text that is exactly one JSON value between blanks.** -/
def Value.parse? (s : String) : Option Value :=
  let cs := s.toList
  match value? (2 * cs.length + 2) cs with
  | some (v, rest) => if (dropBlanks rest).isEmpty then some v else none
  | none => none

end SmartHelmet.Json
