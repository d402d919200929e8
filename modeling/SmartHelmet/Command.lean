import SmartHelmet.Json.Reader
import SmartHelmet.Log
/-!
# Inbound commands

The monitoring service sends a device small JSON messages. A message is either an object with
the optional boolean members `vibrate` and `crash_detected` (other members are ignored, `null`
means absent, a member may not repeat), or an array of at most two such booleans read in that
order:

* `Command` — the two optional flags;
* `Command.read` — the message's value, read as `Json.Reader` reads;
* `decode` — a message that is exactly one such value between blanks, and the log line for one
  that is not;
* `Alert`, `interpret` — only `vibrate: true` raises the drowsiness alert; a crash report is
  logged and changes nothing; anything else, malformed input included, is normal.
-/

namespace SmartHelmet

open Json

/-- The flags of a command message. -/
structure Command where
  vibrate : Option Bool := none
  crashDetected : Option Bool := none
  deriving Repr, BEq

/-- The alert state of the helmet. -/
inductive Alert where
  | normal
  | drowsy
  deriving Repr, BEq, DecidableEq

/-- The name of an alert state. -/
def Alert.name : Alert → String
  | .normal => "Normal"
  | .drowsy => "Drowsy"

/-- An optional flag. -/
def flag : Reader (Option Bool) := readOption readBool

/-- The members of a command object, after its brace. -/
def Command.members : Nat → Bool → Option (Option Bool) → Option (Option Bool) → Reader Command
  | 0, _, v, c => pure ⟨v.getD none, c.getD none⟩
  | fuel + 1, first, v, c => do
    if ← nextKey first then
      let key ← readKey
      if key == "vibrate" then
        if v.isSome then failShape (.duplicateField "vibrate")
        colon
        let x ← flag
        Command.members fuel false (some x) c
      else if key == "crash_detected" then
        if c.isSome then failShape (.duplicateField "crash_detected")
        colon
        let x ← flag
        Command.members fuel false v (some x)
      else
        colon
        skipValue
        Command.members fuel false v c
    else pure ⟨v.getD none, c.getD none⟩

/-- The items of a command array, after its bracket: up to two flags, missing ones absent. -/
def Command.items : Reader Command := do
  let v ← element true flag
  let c ← element (v.isNone) flag
  pure ⟨v.getD none, c.getD none⟩

/-- **A command value**: an object or an array, anything else of the wrong kind. -/
def Command.read : Reader Command := positioned do
  match ← skipBlanks with
  | none => failAhead .eofValue
  | some 91 => within closeArray Command.items
  | some 123 => do
    let n := (← get).rest.length
    within closeObject (Command.members (n + 1) true none none)
  | some _ => wrongKind "struct Command"

/-- **A message that is exactly one command value between blanks.** -/
def Command.decode? (raw : Bytes) : Except Json.Error Command :=
  (do let c ← Command.read; finish; pure c).run' raw

/-- The log line of a message that is no command. -/
def malformedLine (e : Json.Error) (raw : Bytes) : Log.Entry :=
  ⟨.debug, Log.commandTarget,
    "Ignoring malformed command (" ++ e.message ++ "): " ++ Text.Utf8.decodeLossy raw⟩

/-- A message's command, if any, with the line logged for a malformed one. -/
def decode (raw : Bytes) : Option Command × List Log.Entry :=
  match Command.decode? raw with
  | .ok c => (some c, [])
  | .error e => (none, [malformedLine e raw])

/-- **The alert state a message leads to**, with the lines logged on the way. -/
def interpret (raw : Bytes) : Alert × List Log.Entry :=
  let (c, lines) := decode raw
  let c := c.getD {}
  let crash := if c.crashDetected == some true then
      [⟨.warn, Log.commandTarget,
        "Crash detected by monitoring service, emergency services notified"⟩]
    else []
  if c.vibrate == some true then
    (.drowsy, lines ++ crash ++ [⟨.warn, Log.commandTarget, "Helmet vibrating: drowsiness detected"⟩])
  else (.normal, lines ++ crash)

end SmartHelmet
