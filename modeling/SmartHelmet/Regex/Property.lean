import SmartHelmet.Regex.CharClass
import SmartHelmet.Regex.Syntax
import SmartHelmet.Unicode.Category
import SmartHelmet.Unicode.Script
import SmartHelmet.Unicode.BinaryProperty
import SmartHelmet.Unicode.PropertyValue
/-!
# Unicode classes by name

A class `\p{..}` names its characters by a property:

* a name alone is a binary property (`Alphabetic`, `White_Space`, ...), else a general
  category (`Lu`, `Letter`, also `Any`, `Assigned` and `ASCII`), else a script (`Greek`);
  the names `cf`, `sc` and `lc` are categories even though properties have them as aliases;
* a property and a value (`gc=Lu`, `sc:Greek`, `Age=6.0`, `scx=Latn`, and the grapheme
  cluster, sentence and word break values) name the characters with that value;
* names and values match loosely: case, spaces, `_`, `-` and a leading `is` do not count.

A property that is unknown, or that has no values to name, is not found; a value unknown to
its property is not found either.
-/

namespace SmartHelmet.Regex

open SmartHelmet.Unicode

/-- **A name as loose matching sees it**: a leading `is` dropped, spaces, `_` and `-` dropped,
    ASCII letters lowercased, other non-ASCII characters dropped (`isc` stays). -/
def looseName (name : String) : String :=
  let cs := name.toList
  let (startsWithIs, cs) := match cs with
    | a :: b :: rest => if (a == 'i' || a == 'I') && (b == 's' || b == 'S') then (true, rest)
      else (false, cs)
    | _ => (false, cs)
  let out := cs.filterMap fun c =>
    if c == ' ' || c == '_' || c == '-' then none
    else if 'A' ≤ c && c ≤ 'Z' then some (Char.ofNat (c.toNat + 32))
    else if c.toNat < 0x80 then some c
    else none
  if startsWithIs && out == ['c'] then "isc" else String.ofList out

/-- The long name a table of `alias=Name` entries gives an alias. -/
def aliasLookup (table : String) (key : String) : Option String :=
  (table.splitOn " ").findSome? fun e =>
    match e.splitOn "=" with
    | [k, v] => if k == key then some v else none
    | _ => none

/-- What a class names, its names made canonical. -/
inductive Query where
  | binary (name : String)
  | category (name : String)
  | script (name : String)
  | byValue (property value : String)

/-- The canonical category of a loose value, with `Any`, `Assigned` and `ASCII`. -/
def canonicalCategory (value : String) : Option String :=
  match value with
  | "any" => some "Any"
  | "assigned" => some "Assigned"
  | "ascii" => some "ASCII"
  | _ => aliasLookup categoryAliases value

/-- The value aliases of the properties other than category and script. -/
def valueAliases : String → Option String
  | "Age" => some ageAliases
  | "Grapheme_Cluster_Break" => some graphemeBreakAliases
  | "Sentence_Break" => some sentenceBreakAliases
  | "Word_Break" => some wordBreakAliases
  | "Script_Extensions" => some scriptAliases
  | _ => none

/-- **What a name alone names.** -/
def canonicalBinary (name : String) : Except ErrorKind Query :=
  let norm := looseName name
  let viaProperty :=
    if norm != "cf" && norm != "sc" && norm != "lc" then aliasLookup propertyAliases norm
    else none
  match viaProperty with
  | some canon => .ok (.binary canon)
  | none =>
    match canonicalCategory norm with
    | some canon => .ok (.category canon)
    | none =>
      match aliasLookup scriptAliases norm with
      | some canon => .ok (.script canon)
      | none => .error .unicodePropertyNotFound

/-- **What a property and a value name.** -/
def canonicalByValue (property value : String) : Except ErrorKind Query :=
  let value := looseName value
  match aliasLookup propertyAliases (looseName property) with
  | none => .error .unicodePropertyNotFound
  | some "General_Category" =>
    match canonicalCategory value with
    | some canon => .ok (.category canon)
    | none => .error .unicodePropertyValueNotFound
  | some "Script" =>
    match aliasLookup scriptAliases value with
    | some canon => .ok (.script canon)
    | none => .error .unicodePropertyValueNotFound
  | some canon =>
    match valueAliases canon with
    | none => .error .unicodePropertyValueNotFound
    | some table =>
      match aliasLookup table value with
      | some v => .ok (.byValue canon v)
      | none => .error .unicodePropertyValueNotFound

/-- The ranges of a table whose value passes a test. -/
def rangesWhere (t : RangeMap) (p : Nat → Bool) : Ranges :=
  canonical ((t.entries.toList.filter fun (_, _, v) => p v).map fun (lo, hi, _) => (lo, hi))

/-- The position of a name in a list, from `base`. -/
def indexOf? (names : List String) (name : String) (base : Nat) : Option Nat :=
  (names.zipIdx base).findSome? fun (n, i) => if n == name then some i else none

/-- The characters of one category by its number; the unassigned ones are those of no
    listed range. -/
def categoryRanges (index : Nat) : Ranges :=
  if index == 0 then (rangesWhere categoryTable fun _ => true).complement topChar
  else rangesWhere categoryTable (· == index)

/-- **The characters of a general category**, a group of them, or `Any`, `Assigned`,
    `ASCII`. -/
def generalCategory (name : String) : Except ErrorKind Ranges :=
  match name with
  | "Any" => .ok [(0, topChar)]
  | "ASCII" => .ok [(0, 0x7F)]
  | "Assigned" => .ok (categoryRanges 0 |>.complement topChar)
  | "Decimal_Number" => .ok digitRanges
  | _ =>
    match (categoryGroups.find? (·.1 == name)) with
    | some (_, members) => .ok (members.foldl (fun acc i => acc.union (categoryRanges i)) [])
    | none =>
      match indexOf? categoryNames name 0 with
      | some i => .ok (categoryRanges i)
      | none => .error .unicodePropertyValueNotFound

/-- The characters of a script; `Unknown` holds those of no listed range. -/
def scriptRanges (name : String) : Except ErrorKind Ranges :=
  match indexOf? scriptNames name 0 with
  | some 0 => .ok ((rangesWhere scriptTable fun _ => true).complement topChar)
  | some i => .ok (rangesWhere scriptTable (· == i))
  | none => .error .unicodePropertyValueNotFound

/-- The characters of a value of a break property; `Other` holds those of no listed range. -/
def breakRanges (names : List String) (text value : String) : Except ErrorKind Ranges :=
  let table := RangeMap.ofText text
  if value == "Other" then .ok ((rangesWhere table fun _ => true).complement topChar)
  else match indexOf? names value 1 with
    | some i => .ok (rangesWhere table (· == i))
    | none => .error .unicodePropertyValueNotFound

/-- **The characters a query names.** -/
def Query.ranges : Query → Except ErrorKind Ranges
  | .binary "White_Space" => .ok whiteSpaceRanges
  | .binary name =>
    match binaryPropertyText name with
    | some text => .ok (Ranges.ofText text)
    | none => .error .unicodePropertyNotFound
  | .category name => generalCategory name
  | .script name => scriptRanges name
  | .byValue "Age" v =>
    match indexOf? ageNames v 1 with
    | some i => .ok (rangesWhere (RangeMap.ofText ageText) (· ≤ i))
    | none => .error .unicodePropertyValueNotFound
  | .byValue "Script_Extensions" v =>
    match scriptExtensionText v with
    | some text => .ok (Ranges.ofText text)
    | none => scriptRanges v
  | .byValue "Grapheme_Cluster_Break" v => breakRanges graphemeBreakNames graphemeBreakText v
  | .byValue "Sentence_Break" v => breakRanges sentenceBreakNames sentenceBreakText v
  | .byValue "Word_Break" v => breakRanges wordBreakNames wordBreakText v
  | .byValue _ _ => .error .unicodePropertyNotFound

/-- **The characters of a Unicode class**, before any negation. -/
def unicodeClassRanges (kind : UnicodeKind) : Except ErrorKind Ranges := do
  let query ← match kind with
    | .oneLetter c => canonicalBinary (String.singleton c)
    | .named name => canonicalBinary name
    | .namedValue _ name value => canonicalByValue name value
  query.ranges

end SmartHelmet.Regex
