/-!
# Blank characters

The Unicode White_Space characters: the ASCII tab, line feed, vertical tab, form feed, carriage
return and space, the next-line and no-break spaces, the Ogham space mark, the typographic spaces
`U+2000` to `U+200A`, the line and paragraph separators, the narrow no-break and medium
mathematical spaces, and the ideographic space. Settings are trimmed of them at both ends.
-/

namespace SmartHelmet.Text

/-- The White_Space code points as ranges. -/
def blankRanges : List (Nat × Nat) :=
  [(0x09, 0x0D), (0x20, 0x20), (0x85, 0x85), (0xA0, 0xA0), (0x1680, 0x1680), (0x2000, 0x200A),
   (0x2028, 0x2029), (0x202F, 0x202F), (0x205F, 0x205F), (0x3000, 0x3000)]

/-- Whether a character is blank. -/
def isBlank (c : Char) : Bool :=
  blankRanges.any fun (lo, hi) => lo ≤ c.toNat && c.toNat ≤ hi

/-- A text without its leading blanks. -/
def trimStart (s : String) : String := String.ofList (s.toList.dropWhile isBlank)

/-- A text without its trailing blanks. -/
def trimEnd (s : String) : String := String.ofList (s.toList.reverse.dropWhile isBlank).reverse

/-- **A text without blanks at either end.** -/
def trim (s : String) : String := trimEnd (trimStart s)

end SmartHelmet.Text
