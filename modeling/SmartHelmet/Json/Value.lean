import SmartHelmet.Decimal.Layout
import SmartHelmet.Text.Hex
/-!
# JSON values and their compact text

* `Literal` — a number exactly as written: sign, integer digits, fraction digits, exponent;
* `Value` — a JSON value; objects keep their members in order, numbers are integers, doubles
  or literals read from text;
* `quote` — a string in double quotes with the short escapes `\" \\ \n \t \r \b \f`, other
  control characters as `\u00xx` (lowercase), everything else as it is;
* `Value.render` — compact text, no blanks; a double by `Layout.wire`, a non-finite one as
  `null`.
-/

namespace SmartHelmet.Json

/-- A number as written in JSON text: `-? int (. frac)? (e exp)?`, kept digit for digit. -/
structure Literal where
  negative : Bool
  integer : String
  fraction : String
  exponent : Int
  deriving Repr, BEq

/-- A JSON value. Object members keep their order and may repeat. -/
inductive Value where
  | null
  | bool (b : Bool)
  | int (i : Int)
  | float (x : Float)
  | literal (n : Literal)
  | str (s : String)
  | array (items : List Value)
  | object (members : List (String × Value))
  deriving Inhabited

/-- The escape of one character inside a quoted string, or `none` to write it as it is. -/
def escapeChar (c : Char) : Option String :=
  if c == '"' then some "\\\""
  else if c == '\\' then some "\\\\"
  else if c == '\n' then some "\\n"
  else if c == '\t' then some "\\t"
  else if c == '\r' then some "\\r"
  else if c == '\x08' then some "\\b"
  else if c == '\x0c' then some "\\f"
  else if c.toNat < 0x20 then
    some ("\\u00" ++ String.singleton (Text.Hex.lowerDigit (c.toNat / 16))
      ++ String.singleton (Text.Hex.lowerDigit (c.toNat % 16)))
  else none

/-- **A string in double quotes**, each character escaped as `escapeChar` says. -/
def quote (s : String) : String :=
  s.foldl (fun acc c => match escapeChar c with
    | some e => acc ++ e
    | none => acc.push c) "\"" |>.push '"'

/-- The text of a literal, as it was written. -/
def Literal.render (n : Literal) : String :=
  (if n.negative then "-" else "") ++ n.integer
    ++ (if n.fraction.isEmpty then "" else "." ++ n.fraction)
    ++ (if n.exponent == 0 then "" else "e" ++ toString n.exponent)

/-- The text of a double inside JSON: `Layout.wire`, and `null` where JSON has no number. -/
def floatText (x : Float) : String :=
  match Decimal.kindOf x with
  | .finite => Decimal.Layout.wire.render x
  | _ => "null"

mutual
/-- **Compact JSON text of a value.** -/
def Value.render : Value → String
  | .null => "null"
  | .bool b => if b then "true" else "false"
  | .int i => toString i
  | .float x => floatText x
  | .literal n => n.render
  | .str s => quote s
  | .array items => "[" ++ renderItems items ++ "]"
  | .object members => "\x7b" ++ renderMembers members ++ "\x7d"

/-- Items separated by commas. -/
def renderItems : List Value → String
  | [] => ""
  | [v] => v.render
  | v :: rest => v.render ++ "," ++ renderItems rest

/-- Members `"key":value` separated by commas. -/
def renderMembers : List (String × Value) → String
  | [] => ""
  | [(k, v)] => quote k ++ ":" ++ v.render
  | (k, v) :: rest => quote k ++ ":" ++ v.render ++ "," ++ renderMembers rest
end

end SmartHelmet.Json
