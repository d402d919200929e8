import SmartHelmet.Url.Basic
/-!
# Parsing URLs

`Url.parse` reads a URL without a base URL, as the URL Standard's basic parser does:

* controls and spaces are trimmed from both ends, and tabs and line breaks removed throughout;
* a scheme (an ASCII letter, then letters, digits, `+`, `-`, `.`, then `:`) is required and
  lowercased; a text without one is relative, and relative URLs need a base;
* a special scheme skips any run of `/` and `\` and reads an authority; `file` reads an
  optional host after `//`; another scheme reads an authority after `//`, a path after `/`, or
  else an opaque path;
* an authority is optional credentials up to its last `@`, a host (up to a `:` outside
  brackets), and an optional port of at most five digits' worth below `2 ^ 16`;
* a path is read as the text it is written as (`readPath`), segment by segment, each
  percent-encoded; `.` and `..` segments (also written `%2e`) are resolved as they come;
* the query runs to `#`, the fragment to the end, each percent-encoded by its set.
-/

namespace SmartHelmet.Url

/-- Whether a character is a C0 control or a space. -/
def isControlOrSpace (c : Char) : Bool := c.toNat ≤ 0x20

/-- The characters of an input the parser reads. -/
def preprocess (s : String) : List Char :=
  let cs := s.toList.dropWhile isControlOrSpace
  let cs := (cs.reverse.dropWhile isControlOrSpace).reverse
  cs.filter (!isTabOrNewline ·)

/-- Whether a character may go on with a scheme. -/
def isSchemeChar (c : Char) : Bool :=
  c.toNat < 0x80 && (c.isAlphanum || c == '+' || c == '-' || c == '.')

/-- The scheme at the start, lowercased, and the rest after its colon. -/
def splitScheme (cs : List Char) : Option (String × List Char) :=
  match cs with
  | c :: _ =>
    if c.toNat < 0x80 && c.isAlpha then
      match cs.dropWhile isSchemeChar with
      | ':' :: rest => some (String.ofList ((cs.takeWhile isSchemeChar).map Char.toLower), rest)
      | _ => none
    else none
  | [] => none

/-- Whether a character separates path segments. -/
def isSlash (special : Bool) (c : Char) : Bool := c == '/' || (special && c == '\\')

/-- Whether a character ends an authority. -/
def endsAuthority (special : Bool) (c : Char) : Bool := isSlash special c || c == '?' || c == '#'

/-- The query and fragment at the start of a text that begins with `?`, `#` or nothing. -/
def queryAndFragment (special : Bool) (cs : List Char) : Option String × Option String :=
  let fragment := fun (f : List Char) => some (percentEncode fragmentSet (String.ofList f))
  match cs with
  | '?' :: rest =>
    let set := if special then specialQuerySet else querySet
    let query := some (percentEncode set (String.ofList (rest.takeWhile (· != '#'))))
    match rest.dropWhile (· != '#') with
    | '#' :: f => (query, fragment f)
    | _ => (query, none)
  | '#' :: f => (none, fragment f)
  | _ => (none, none)

/-- The port after a `:`, none when it has no digits or is the scheme's default; digits end at
    `/`, `\`, `?`, `#` or the end. -/
def parsePort (default : Option Nat) : List Char → Nat → Bool → Except Error (Option Nat × List Char)
  | c :: rest, port, seen =>
    if c.isDigit then
      let port := port * 10 + (c.toNat - '0'.toNat)
      if port > 65535 then .error .invalidPort else parsePort default rest port true
    else if c == '/' || c == '\\' || c == '?' || c == '#' then
      .ok (if !seen || some port == default then none else some port, c :: rest)
    else .error .invalidPort
  | [], port, seen => .ok (if !seen || some port == default then none else some port, [])

/-- The host text of an authority: up to a `:` outside brackets or the end of the authority. -/
def hostSpan (special : Bool) : List Char → Bool → List Char × List Char
  | c :: rest, inBrackets =>
    if (c == ':' && !inBrackets) || endsAuthority special c then ([], c :: rest)
    else
      let inBrackets := if c == '[' then true else if c == ']' then false else inBrackets
      let (host, after) := hostSpan special rest inBrackets
      (c :: host, after)
  | [], _ => ([], [])

/-- The position of the last `@` in a text. -/
def lastAt (cs : List Char) : Option Nat :=
  (cs.zipIdx.filter (·.1 == '@')).getLast?.map (·.2)

/-- Credentials split at their first `:` and percent-encoded. -/
def credentialsOf (info : List Char) : String × String :=
  let user := info.takeWhile (· != ':')
  let pass := (info.dropWhile (· != ':')).drop 1
  (percentEncode userinfoSet (String.ofList user), percentEncode userinfoSet (String.ofList pass))

/-- The path after an authority and the rest from its `?` or `#`: a special URL's path
    always starts with `/`, which a `/` or `\` right after the authority gives; another URL's
    path is empty before `?`, `#` or the end, and otherwise starts with `/`. -/
def pathAfterAuthority (kind : PathKind) (cs : List Char) : String × List Char :=
  let (start, input) := match kind, cs with
    | .plain, c :: _ => (if c == '/' then [] else ['/'], cs)
    | .plain, [] => ([], [])
    | _, c :: more => (['/'], if c == '/' || c == '\\' then more else cs)
    | _, [] => (['/'], [])
  match kind, cs with
  | .plain, c :: _ =>
    if c == '?' || c == '#' then ("", cs)
    else
      let (text, _, rest) := readPath kind false start true input
      (String.ofList text, rest)
  | _, _ =>
    let (text, _, rest) := readPath kind false start true input
    (String.ofList text, rest)

/-- The credentials of an authority up to its last `@`, percent-encoded, the text after them,
    and whether either was written. An `@` that starts the authority is dropped, unless the
    authority ends right after it. -/
def userinfoOf (special : Bool) (cs : List Char) :
    Except Error (String × String × List Char × Bool) :=
  let authority := cs.takeWhile (!endsAuthority special ·)
  match lastAt authority with
  | none => pure ("", "", cs, false)
  | some 0 =>
    match cs.drop 1 with
    | c :: rest => if endsAuthority special c then throw .emptyHost else pure ("", "", c :: rest, false)
    | [] => pure ("", "", [], false)
  | some i =>
    let info := authority.take i
    let (user, pass) := credentialsOf info
    pure (user, pass, cs.drop (i + 1), !(info.takeWhile (· != ':')).isEmpty || !pass.isEmpty)

/-- The host of an authority from its text; a special URL's host is never empty. -/
def authorityHost (special : Bool) (hostText : String) : Except Error Host :=
  if special && hostText.isEmpty then throw .emptyHost
  else if special then Host.parse hostText else Host.parsePlain hostText

/-- The port after a host, and the rest after it; an empty host takes neither a port nor
    credentials. -/
def portAfterHost (scheme : String) (host : Host) (credentials : Bool) (rest : List Char) :
    Except Error (Option Nat × List Char) := do
  let empty := host == .domain ""
  if empty && rest.head? == some ':' then throw .emptyHost
  let (port, rest) ← match rest with
    | ':' :: more => parsePort ((defaultPort scheme).getD none) more 0 false
    | _ => pure (none, rest)
  if empty && credentials then throw .emptyHost
  pure (port, rest)

/-- **A URL with an authority**, from the text after its scheme and slashes. -/
def parseAuthority (scheme : String) (cs : List Char) : Except Error Url := do
  let special := isSpecial scheme
  let (username, password, hostPart, credentials) ← userinfoOf special cs
  let (hostChars, rest) := hostSpan special hostPart false
  let host ← authorityHost special (String.ofList hostChars)
  let (port, rest) ← portAfterHost scheme host credentials rest
  let (path, rest) := pathAfterAuthority (pathKind scheme) rest
  let (query, fragment) := queryAndFragment special rest
  pure { scheme, username, password, host := some host, port, path := .hierarchical path false,
         query, fragment }

/-- Whether a character is a slash of a file URL. -/
def isFileSlash (c : Char) : Bool := c == '/' || c == '\\'

/-- A file URL from its host, its path as read, whether it keeps its host, and the rest from
    its `?` or `#`; a file URL is always written with `//`, its host empty when it has none. -/
def fileUrl (host : Option Host) (path : List Char) (hasHost : Bool) (rest : List Char) : Url :=
  let (query, fragment) := queryAndFragment true rest
  let host := if hasHost then host else none
  { scheme := "file", host := some (host.getD (.domain "")),
    path := .hierarchical (String.ofList path) false, query, fragment }

/-- A file URL without a host, from the text of its path on. -/
def fileWithoutHost (cs : List Char) : Url :=
  let (path, _, rest) := readPath .file false ['/'] false cs
  fileUrl none path false rest

/-- A file URL from the text after `file://`: a host up to the path, unless it is a drive
    letter, which starts the path; `localhost` is no host. After no host the path is read from
    an empty text, so the segment after its first slash is no longer the first. -/
def fileAfterSlashes (cs : List Char) : Except Error Url := do
  let hostChars := cs.takeWhile (!endsAuthority true ·)
  let remaining := cs.dropWhile (!endsAuthority true ·)
  if isDriveLetter hostChars then
    pure (fileWithoutHost cs)
  else
    let host ← if hostChars.isEmpty then pure none else do
      let h ← Host.parse (String.ofList hostChars)
      pure (if h == .domain "localhost" then none else some h)
    let input := match remaining with
      | c :: more => if isFileSlash c then more else remaining
      | [] => []
    let (path, hasHost, rest) :=
      readPath .file false (if host.isSome then ['/'] else []) host.isSome input
    pure (fileUrl host path hasHost rest)

/-- **A file URL**, from the text after `file:`. -/
def parseFile (cs : List Char) : Except Error Url :=
  match cs with
  | a :: b :: more =>
    if isFileSlash a && isFileSlash b then fileAfterSlashes more
    else pure (fileWithoutHost (if isFileSlash a then b :: more else cs))
  | [a] => pure (fileWithoutHost (if isFileSlash a then [] else [a]))
  | [] => pure (fileWithoutHost [])

/-- **Parse a URL** without a base. -/
def parse (input : String) : Except Error Url := do
  match splitScheme (preprocess input) with
  | none => throw .relativeWithoutBase
  | some (scheme, rest) =>
    if scheme == "file" then parseFile rest
    else if isSpecial scheme then parseAuthority scheme (rest.dropWhile isFileSlash)
    else match rest with
      | '/' :: '/' :: more => parseAuthority scheme more
      | '/' :: more =>
        let (path, _, rest) := readPath .plain false ['/'] false more
        let (query, fragment) := queryAndFragment false rest
        -- a path starting with `//` after no host is written after `/.`
        pure { scheme, path := .hierarchical (String.ofList path) (path.take 2 == ['/', '/']),
               query, fragment }
      | _ =>
        let text := rest.takeWhile (fun c => c != '?' && c != '#')
        let (query, fragment) := queryAndFragment false (rest.dropWhile (fun c => c != '?' && c != '#'))
        pure { scheme, path := .unsegmented (percentEncode controls (String.ofList text)), query,
               fragment }

end SmartHelmet.Url
