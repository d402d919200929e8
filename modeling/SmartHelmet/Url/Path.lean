import SmartHelmet.Url.Percent
/-!
# Paths

The path of a URL that can be a base is kept as the text it is written as, empty or starting
with `/`, and reading a path works on that text, segment by segment, as it is written:

* a segment ends at `/` (and at `\` in a special URL); `?` and `#` end the path;
* a segment `..` (also written with `%2e`) first gives up the slash before it, unless that slash
  starts the path or follows a drive letter, and then the path loses its last segment, unless
  the path is a file path whose last segment is a drive letter written with `:`;
* a segment `.` is dropped, its slash kept;
* in a file path, a segment starting right after the first slash that is a drive letter,
  `C:` or `C|`, is written `C:`, and the URL loses its host; a character that would follow a
  lone `C:` there gets a slash before it;
* a file path keeps one leading slash, however many it was read with.

A path that reading leaves starting with `//` and that has no host before it is written after
`/.`, so that it does not read as an authority. Adding a segment whole (`pushSegment`) and
dropping a trailing slash (`popIfEmpty`) are the two edits a path takes afterwards.
-/

namespace SmartHelmet.Url

/-- The path of a URL. -/
inductive Path where
  /-- The path of a URL that cannot be a base: one opaque text. -/
  | unsegmented (text : String)
  /-- A path as written, empty or starting with `/`; `dotted` when `/.` is written before it,
      which a path starting with `//` needs when no host stands before it. -/
  | hierarchical (text : String) (dotted : Bool)
  deriving Repr, BEq, DecidableEq

/-- The text of a path, without any `/.` written before it. -/
def Path.text : Path → String
  | .unsegmented text => text
  | .hierarchical text _ => text

/-- How a scheme reads its path. -/
inductive PathKind where
  /-- The path of a `file` URL. -/
  | file
  /-- The path of another special URL. -/
  | special
  /-- The path of any other URL. -/
  | plain
  deriving Repr, BEq, DecidableEq

/-- Whether paths of a kind are special: `\` ends their segments too. -/
def PathKind.isSpecial : PathKind → Bool
  | .plain => false
  | _ => true

/-- Whether paths of a kind are file paths. -/
def PathKind.isFile : PathKind → Bool
  | .file => true
  | _ => false

/-- Whether a character is a tab or a line break, which reading skips. -/
def isTabOrNewline (c : Char) : Bool := c == '\t' || c == '\n' || c == '\r'

/-- Whether a character is an ASCII letter. -/
def isAsciiAlpha (c : Char) : Bool := c.toNat < 0x80 && c.isAlpha

/-- Whether a text is a drive letter: an ASCII letter and `:` or `|`. -/
def isDriveLetter : List Char → Bool
  | [a, b] => isAsciiAlpha a && (b == ':' || b == '|')
  | _ => false

/-- Whether a text is a drive letter written with `:`. -/
def isNormalizedDriveLetter : List Char → Bool
  | [a, ':'] => isAsciiAlpha a
  | _ => false

/-- Whether a text starts with a drive letter that ends it or is followed by `/`, `\`, `?` or
    `#`. -/
def startsWithDriveLetter : List Char → Bool
  | a :: b :: rest =>
    isAsciiAlpha a && (b == ':' || b == '|') &&
      (match rest with
        | [] => true
        | c :: _ => c == '/' || c == '\\' || c == '?' || c == '#')
  | _ => false

/-- Whether a segment is `.`. -/
def isSingleDot (s : List Char) : Bool :=
  let t := String.ofList s
  t == "." || t == "%2e" || t == "%2E"

/-- Whether a segment is `..`. -/
def isDoubleDot (s : List Char) : Bool :=
  let t := (String.ofList s).toLower
  t == ".." || t == ".%2e" || t == "%2e." || t == "%2e%2e"

/-- The position of the last `/` of a text. -/
def lastSlash (text : List Char) : Option Nat :=
  ((List.range text.length).zip text |>.filter (·.2 == '/')).getLast?.map (·.1)

/-- Whether the slash that ends a text may go before a `..`: some slash stands before it in
    the path, and no drive letter follows that slash. -/
def lastSlashRemovable (text : List Char) : Bool :=
  match lastSlash text.dropLast with
  | some i => !startsWithDriveLetter (text.drop (i + 1))
  | none => false

/-- A path without its last segment, its slash kept; a file path keeps a last segment that is a
    drive letter written with `:`. -/
def popSegment (file : Bool) (text : List Char) : List Char :=
  match lastSlash text with
  | some i => if file && isNormalizedDriveLetter (text.drop (i + 1)) then text else text.take (i + 1)
  | none => text

/-- A path shortened by a `..`: an empty path, or a file path that is only a drive letter
    written with `:`, stays. -/
def shorten (file : Bool) (text : List Char) : List Char :=
  if text.isEmpty || (file && isNormalizedDriveLetter text) then text
  else popSegment file text

/-- A path being read: the text so far, where the segment being read starts, and whether the
    URL keeps its host. -/
structure PathReader where
  text : List Char
  start : Nat
  hasHost : Bool

/-- **Close the segment being read**; `slash` when a slash, already written, ends it. -/
def PathReader.close (kind : PathKind) (r : PathReader) (slash : Bool) : PathReader :=
  let segment := if slash then (r.text.drop r.start).dropLast else r.text.drop r.start
  if isDoubleDot segment then
    let text := r.text.take r.start
    let text := if text.getLast? == some '/' && lastSlashRemovable text then text.dropLast else text
    let text := shorten kind.isFile text
    { r with text := if slash && text.getLast? != some '/' then text ++ ['/'] else text }
  else if isSingleDot segment then
    let text := r.text.take r.start
    { r with text := if text.getLast? != some '/' then text ++ ['/'] else text }
  else if kind.isFile && r.start == 1 && isDriveLetter segment then
    { r with
      text := r.text.take r.start ++ segment.take 1 ++ [':'] ++ (if slash then ['/'] else [])
      hasHost := false }
  else r

/-- Write one character of a segment, percent-encoded by `set`; in a file path whose text after
    its first character is a drive letter written with `:`, a slash comes first and the segment
    starts after it. -/
def PathReader.add (kind : PathKind) (set : EncodeSet) (r : PathReader) (c : Char) :
    PathReader :=
  let r := if kind.isFile && !r.text.isEmpty && isNormalizedDriveLetter (r.text.drop 1) then
      { r with text := r.text ++ ['/'], start := r.start + 1 }
    else r
  { r with text := r.text ++ (encodeChar set c).toList }

/-- Read characters into a path up to `?`, `#` or the end; `whole` reads a single segment to the
    end, slashes, `?` and `#` included as text. The reader and the rest of the input. -/
def PathReader.read (kind : PathKind) (whole : Bool) (r : PathReader) :
    List Char → PathReader × List Char
  | [] => (r.close kind false, [])
  | c :: rest =>
    if !whole && (c == '/' || (kind.isSpecial && c == '\\')) then
      let r := ({ r with text := r.text ++ ['/'] } : PathReader).close kind true
      PathReader.read kind whole { r with start := r.text.length } rest
    else if !whole && (c == '?' || c == '#') then (r.close kind false, c :: rest)
    else
      let set := if !whole then pathSet else if kind.isSpecial then specialSegmentSet else segmentSet
      PathReader.read kind whole (r.add kind set c) rest

/-- **Read a path** after the text `text`: the path, whether the URL keeps its host, and the
    rest of the input from its `?` or `#`. A file path keeps one leading slash. -/
def readPath (kind : PathKind) (whole : Bool) (text : List Char) (hasHost : Bool)
    (input : List Char) : List Char × Bool × List Char :=
  let (r, rest) := PathReader.read kind whole ⟨text, text.length, hasHost⟩ input
  let text := if kind.isFile then '/' :: r.text.dropWhile (· == '/') else r.text
  (text, r.hasHost, rest)

/-- **A path without its trailing slash**, unless that slash is all of it. -/
def popIfEmpty (text : List Char) : List Char :=
  if text.length ≤ 1 then text
  else if text.getLast? == some '/' then text.dropLast
  else text

/-- **A path with one more segment**, written whole and percent-encoded; `.` and `..` are
    not added. -/
def pushSegment (kind : PathKind) (text : List Char) (segment : String) : List Char :=
  if segment == "." || segment == ".." then text
  else
    let text := if text.length > 1 || text.isEmpty then text ++ ['/'] else text
    (readPath kind true text true (segment.toList.filter (!isTabOrNewline ·))).1

end SmartHelmet.Url
