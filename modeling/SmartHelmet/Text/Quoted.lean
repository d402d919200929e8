import SmartHelmet.Unicode.Escaped
/-!
# Quoted text for diagnostics

Diagnostics quote a text in double quotes so that every character can be told apart:

* `\0 \t \r \n \\ \"` take their short escapes;
* characters that print nothing, extend the character before them, or are ignorable by
  default (see `Unicode.isEscaped`) are written `\u{hex}` in lowercase;
* every other character stands as it is.
-/

namespace SmartHelmet.Text

/-- Lowercase hexadecimal digits of a number, at least one. -/
def hexDigits (n : Nat) : String :=
  String.ofList (Nat.toDigits 16 n)

/-- The quoted form of one character. -/
def quoteChar (c : Char) : String :=
  if c == '\x00' then "\\0"
  else if c == '\t' then "\\t"
  else if c == '\r' then "\\r"
  else if c == '\n' then "\\n"
  else if c == '\\' then "\\\\"
  else if c == '"' then "\\\""
  else if Unicode.isEscaped c then "\\u\x7b" ++ hexDigits c.toNat ++ "\x7d"
  else String.singleton c

/-- **A text in double quotes with its silent characters escaped.** -/
def quoted (s : String) : String :=
  s.foldl (fun acc c => acc ++ quoteChar c) "\"" |>.push '"'

end SmartHelmet.Text
