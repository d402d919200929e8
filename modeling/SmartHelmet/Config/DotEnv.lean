import SmartHelmet.Text.Blank
import SmartHelmet.Text.Quoted
import SmartHelmet.Unicode.Alphanumeric
/-!
# Environment files

An environment file adds named values to an environment, one assignment a line:

* lines end at a line feed, a carriage return before it dropped; each line is trimmed of
  trailing blanks and then of leading ones; blank lines and lines starting with `#` say nothing;
* an assignment is a name, optionally after `export`, then `=`, then a value, with blanks
  allowed around the `=`; a name starts with an ASCII letter or `_` and goes on with ASCII
  letters, digits, `_` and `.`;
* a value may mix bare, `'strong'` and `"weak"` quoted parts; in weak quotes and bare text a
  backslash keeps the next `\`, `'`, `"`, `$` or space as it is and makes `n` a line feed; `$NAME`
  and `${NAME}` are replaced by the variable's value (bare and in weak quotes), where a bare name
  is letters and digits; a blank outside quotes ends the value, after which only blanks or a `#`
  comment may follow;
* a variable's value is the environment's, else the latest the file gave it, else empty.

Loading stops at the first line that is no assignment; the lines before it stay. A name the
environment already has keeps its value: the environment wins over the file, and the first
assignment in the file over later ones. A value with a NUL character cannot enter the
environment: setting it stops the program (`Unsettable`).
-/

namespace SmartHelmet.Config

/-- Named values, the latest first. -/
abbrev Vars := List (String × String)

/-- The value of a name. -/
def Vars.get? (vs : Vars) (key : String) : Option String := (vs.find? (·.1 == key)).map (·.2)

namespace DotEnv

/-- What a `$` has started while a value is read. -/
inductive Substitution where
  | off
  /-- A bare name, `$NAME`. -/
  | bare
  /-- A braced name, `${NAME}`. -/
  | braced
  deriving Repr, BEq, DecidableEq

/-- The reader of a value between two characters. -/
structure ValueState where
  output : String := ""
  strong : Bool := false
  weak : Bool := false
  escaped : Bool := false
  expectingEnd : Bool := false
  substitution : Substitution := .off
  name : String := ""

/-- The character a backslash escape stands for. -/
def escapeOf (c : Char) : Option Char :=
  if c == '\\' || c == '\'' || c == '"' || c == '$' || c == ' ' then some c
  else if c == 'n' then some '\n'
  else none

/-- Read the characters of a value; `none` for a value that is malformed before its end. -/
def readValue (resolve : String → String) : List Char → ValueState → Option ValueState
  | [], st => some st
  | c :: rest, st =>
    if st.expectingEnd then
      if c == ' ' || c == '\t' then readValue resolve rest st
      else if c == '#' then some st
      else none
    else if st.escaped then
      match escapeOf c with
      | some e => readValue resolve rest { st with output := st.output.push e, escaped := false }
      | none => none
    else if st.strong then
      if c == '\'' then readValue resolve rest { st with strong := false }
      else readValue resolve rest { st with output := st.output.push c }
    else if st.substitution != .off then
      if Unicode.isAlphanumeric c then readValue resolve rest { st with name := st.name.push c }
      else if st.substitution == .braced then
        if c == '}' then
          readValue resolve rest { st with output := st.output ++ resolve st.name, name := "",
                                           substitution := .off }
        else readValue resolve rest { st with name := st.name.push c }
      else if c == '{' && st.name.isEmpty then readValue resolve rest { st with substitution := .braced }
      else
        let output := st.output ++ resolve st.name
        -- the character that ends a bare name stands as it is, quote or blank alike
        if c == '$' then readValue resolve rest { st with output, name := "", substitution := .bare }
        else readValue resolve rest { st with output := output.push c, name := "", substitution := .off }
    else if c == '$' then readValue resolve rest { st with substitution := .bare }
    else if st.weak then
      if c == '"' then readValue resolve rest { st with weak := false }
      else if c == '\\' then readValue resolve rest { st with escaped := true }
      else readValue resolve rest { st with output := st.output.push c }
    else if c == '\'' then readValue resolve rest { st with strong := true }
    else if c == '"' then readValue resolve rest { st with weak := true }
    else if c == '\\' then readValue resolve rest { st with escaped := true }
    else if c == ' ' || c == '\t' then readValue resolve rest { st with expectingEnd := true }
    else readValue resolve rest { st with output := st.output.push c }

/-- **The value of an assignment**, or `none` when it is malformed or leaves a quote or a
    braced name open. -/
def parseValue (resolve : String → String) (input : List Char) : Option String := do
  let st ← readValue resolve input {}
  if st.substitution == .braced || st.strong || st.weak then none
  else some (st.output ++ resolve st.name)

/-- Whether a character may start a name. -/
def isNameStart (c : Char) : Bool := c.isAlpha && c.toNat < 0x80 || c == '_'

/-- Whether a character may go on with a name. -/
def isNamePart (c : Char) : Bool := c.isAlphanum && c.toNat < 0x80 || c == '_' || c == '.'

/-- A name at the start of the text, and the rest. -/
def parseKey (cs : List Char) : Option (String × List Char) :=
  match cs with
  | c :: _ => if isNameStart c then some (String.ofList (cs.takeWhile isNamePart), cs.dropWhile isNamePart)
    else none
  | [] => none

/-- The text after an `=`, blanks skipped. -/
def afterEquals (cs : List Char) : Option (List Char) :=
  match cs with
  | '=' :: rest => some (rest.dropWhile Text.isBlank)
  | _ => none

/-- **One line of a file**: `some none` for a line that says nothing, `some (some (key, value))`
    for an assignment, `none` for a malformed line. -/
def parseLine (resolve : String → String) (line : String) : Option (Option (String × String)) := do
  let cs := (Text.trimEnd line).toList.dropWhile Text.isBlank
  match cs with
  | [] => some none
  | '#' :: _ => some none
  | _ =>
    let (key, rest) ← parseKey cs
    let rest := rest.dropWhile Text.isBlank
    let (key, value) ← match key, afterEquals rest with
      | _, some value => some (key, value)
      | "export", none => do
        let (key, rest) ← parseKey rest
        let value ← afterEquals (rest.dropWhile Text.isBlank)
        some (key, value)
      | _, none => none
    match value with
    | [] => some (some (key, ""))
    | '#' :: _ => some (some (key, ""))
    | _ => (parseValue resolve value).map fun v => some (key, v)

/-- The lines of a file: split at line feeds, a carriage return before a line feed dropped,
    nothing after a final line feed. -/
def lines (content : String) : List String :=
  let pieces := content.splitOn "\n"
  let dropReturn := fun (s : String) =>
    if s.endsWith "\r" then String.ofList s.toList.dropLast else s
  match pieces.reverse with
  | [] => []
  | last :: earlier =>
    let earlier := earlier.reverse.map dropReturn
    if last.isEmpty then earlier else earlier ++ [last]

/-- The value a `$` name stands for: the environment's, else the file's latest, else empty. -/
def resolveIn (env file : Vars) (name : String) : String :=
  match env.get? name with
  | some v => v
  | none => (file.get? name).getD ""

/-- An assignment the environment cannot take: its value holds a NUL character. -/
structure Unsettable where
  key : String
  value : String
  deriving Repr, BEq

/-- The message of the stop an unsettable assignment causes. -/
def Unsettable.message (u : Unsettable) : String :=
  "failed to set environment variable `" ++ Text.quoted u.key ++ "` to `" ++
    Text.quoted u.value ++ "`: file name contained an unexpected NUL byte"

/-- Load lines into the environment, with the file's values so far. -/
def loadLines : List String → Vars → Vars → Except Unsettable Vars
  | [], env, _ => .ok env
  | line :: rest, env, file =>
    match parseLine (resolveIn env file) line with
    | none => .ok env
    | some none => loadLines rest env file
    | some (some (key, value)) =>
      if (env.get? key).isSome then loadLines rest env ((key, value) :: file)
      else if value.contains (Char.ofNat 0) then .error ⟨key, value⟩
      else loadLines rest ((key, value) :: env) ((key, value) :: file)

end DotEnv

/-- **An environment with a file's assignments added**, up to the file's first malformed line;
    names the environment has keep their values. An assignment of a value with a NUL character
    to a new name stops the loading with an error. -/
def Vars.loadFile (env : Vars) (content : String) : Except DotEnv.Unsettable Vars :=
  DotEnv.loadLines (DotEnv.lines content) env []

end SmartHelmet.Config
