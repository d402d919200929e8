import SmartHelmet.Url.Punycode
import SmartHelmet.Unicode.IdnaMapping
import SmartHelmet.Unicode.Normalize
import SmartHelmet.Unicode.Mark
import SmartHelmet.Unicode.Bidi
import SmartHelmet.Unicode.Joining
/-!
# Domains to ASCII

A domain of a special URL becomes ASCII the way internationalized domain names do (UTS 46,
nontransitional, without the hyphen and length checks). A domain of small ASCII letters,
digits, `-` and `.` with no label starting with `xn--` is its own ASCII form and passes through
at once (`passesThrough`); any other goes through the steps:

1. every character is mapped by its status — kept, replaced, dropped, or refused — and the
   result is put in composed normal form;
2. the ASCII characters a URL host may not hold — controls, space, `% # / : < > ? @ [ \ ] ^ |`
   and DEL — make the domain invalid;
3. the domain splits into labels at `.`; a label that starts with `xn--` must be ASCII and
   decode as Punycode to a label that is not empty and not all ASCII;
4. every label, decoded, must be valid: in composed normal form, not starting with `xn--` or
   with a mark, holding only valid characters and deviations, with each zero-width joiner
   after a virama and each zero-width non-joiner after a virama or between joining letters;
5. when some label holds a right-to-left character or an Arabic digit, every label must keep
   the bidirectional rule: a left-to-right label holds no right-to-left character and ends in
   a letter or digit, a right-to-left label holds no left-to-right letter, does not mix the
   two kinds of digits, and ends in a letter or digit;
6. each label with non-ASCII characters becomes `xn--` and its Punycode.
-/

namespace SmartHelmet.Url

open SmartHelmet.Unicode

/-- The characters of a domain after mapping, or `none` when one is disallowed. -/
def mapDomain (cs : List Char) : Option (List Nat) :=
  (cs.mapM fun (c : Char) => match idnaStatus c.toNat with
    | .valid | .deviation => some [c.toNat]
    | .mapped target => some target
    | .ignored => some []
    | .disallowed => none).map List.flatten

/-- The ASCII code points a domain may not hold. -/
def forbiddenInDomain (n : Nat) : Bool :=
  n < 0x21 || n == 0x7F || "#%/:<>?@[\\]^|".any (·.toNat == n)

/-- Split a sequence at a separator. -/
def splitAt {α : Type} [BEq α] (sep : α) : List α → List (List α)
  | [] => [[]]
  | c :: rest =>
    let parts := splitAt sep rest
    if c == sep then [] :: parts
    else match parts with
      | p :: ps => (c :: p) :: ps
      | [] => [[c]]

/-- The code points of `xn--`. -/
def acePrefix : List Nat := "xn--".toList.map Char.toNat

/-- Whether a code point's status lets it stand in a label. -/
def allowedInLabel (n : Nat) : Bool :=
  match idnaStatus n with
  | .valid | .deviation => true
  | _ => false

/-- The zero-width non-joiner and joiner. -/
def zeroWidthNonJoiner : Nat := 0x200C
def zeroWidthJoiner : Nat := 0x200D

/-- Whether, skipping transparent characters, the nearest character joins towards the joiner:
    one of the types `sides`. -/
def joinsFrom (sides : List JoiningType) : List Nat → Bool
  | [] => false
  | c :: rest =>
    match joiningType (Char.ofNat c) with
    | .T => joinsFrom sides rest
    | t => sides.contains t

/-- Whether the joiners of a label stand where they may: each zero-width joiner after a
    virama, each zero-width non-joiner after a virama or between a character joining to the
    right and one joining to the left. `before` holds the characters before, last first. -/
def joinersFit : List Nat → List Nat → Bool
  | _, [] => true
  | before, c :: after =>
    let afterVirama := before.head?.any isVirama
    let fits :=
      if c == zeroWidthJoiner then afterVirama
      else if c == zeroWidthNonJoiner then
        afterVirama || (joinsFrom [.L, .D] before && joinsFrom [.R, .D] after)
      else true
    fits && joinersFit (c :: before) after

/-- Whether a label of a right-to-left domain keeps the bidirectional rule. -/
def keepsBidiRule (label : List Nat) : Bool :=
  let classes := label.map fun n => bidiClass (Char.ofNat n)
  let last := (classes.reverse.dropWhile (· == .NSM)).head?
  match classes with
  | [] => true
  | .L :: _ =>
    classes.all (fun b => [.L, .EN, .ES, .CS, .ET, .ON, .BN, .NSM].contains b) &&
      last.any ([.L, .EN].contains ·)
  | .R :: _ | .AL :: _ =>
    classes.all (fun b => [.R, .AL, .AN, .EN, .ES, .CS, .ET, .ON, .BN, .NSM].contains b) &&
      last.any ([.R, .AL, .EN, .AN].contains ·) &&
      !(classes.contains .EN && classes.contains .AN)
  | _ => false

/-- Whether a label holds a right-to-left character or an Arabic digit. -/
def isRightToLeft (label : List Nat) : Bool :=
  label.any fun n => [BidiClass.R, .AL, .AN].contains (bidiClass (Char.ofNat n))

/-- Whether a label, as Unicode, is valid on its own. -/
def validLabel (label : List Nat) : Bool :=
  nfcCodes label == label && !label.contains ('.'.toNat) && !acePrefix.isPrefixOf label &&
    !(label.head?.any fun n => isMark (Char.ofNat n)) &&
    label.all allowedInLabel && joinersFit [] label

/-- The Unicode form of one mapped label, or `none` when it does not decode. -/
def labelToUnicode (label : List Nat) : Option (List Nat) :=
  if acePrefix.isPrefixOf label then
    if label.any (· ≥ 0x80) then none
    else do
      let decoded ← Punycode.decode ((label.drop 4).map Char.ofNat)
      if decoded.isEmpty || decoded.all (· < 0x80) then none else some decoded
  else some label

/-- The ASCII form of one label given its Unicode form. -/
def labelToAscii (label unicode : List Nat) : String :=
  if acePrefix.isPrefixOf label || unicode.all (· < 0x80) then String.ofList (label.map Char.ofNat)
  else "xn--" ++ Punycode.encode (unicode.map Char.ofNat)

/-- Whether a domain is its own ASCII form: small ASCII letters, digits, `-` and `.` only, and
    no label that starts with `xn--`. Such a domain passes every check unchanged. -/
def passesThrough (cs : List Char) : Bool :=
  cs.all (fun c => ('a' ≤ c && c ≤ 'z') || ('0' ≤ c && c ≤ '9') || c == '-' || c == '.') &&
    (splitAt '.' cs).all fun label => !"xn--".toList.isPrefixOf label

/-- **The ASCII form of a domain**, or `none` when it is no valid domain. -/
def domainToAscii (domain : String) : Option String :=
  if passesThrough domain.toList then some domain
  else do
    let mapped ← mapDomain domain.toList
    let normal := nfcCodes mapped
    if normal.any forbiddenInDomain then none
    let labels := splitAt ('.'.toNat) normal
    let unicode ← labels.mapM labelToUnicode
    if !unicode.all validLabel then none
    if unicode.any isRightToLeft && !unicode.all keepsBidiRule then none
    pure (".".intercalate (List.zipWith labelToAscii labels unicode))

end SmartHelmet.Url
