import SmartHelmet.Regex.Parse
import SmartHelmet.Regex.Report
import SmartHelmet.Regex.Automaton
import SmartHelmet.Regex.Footprint
/-!
# Patterns

A pattern is read, resolved under its flags and compiled; a pattern that cannot be read or
resolved is reported with the failing part marked (`Error.render`), and one whose automaton
would pass the size limit is refused with the limit. A compiled pattern tells whether a text
holds a match anywhere.
-/

namespace SmartHelmet.Regex

/-- A compiled pattern. -/
structure Pattern where
  /-- The pattern as written. -/
  text : String
  /-- What it runs. -/
  program : Program
  deriving Repr

/-- **Compile a pattern**, or the report of why it cannot be. -/
def Pattern.compile (text : String) : Except String Pattern :=
  match parse text with
  | .error e => .error (e.render text)
  | .ok ast =>
    match resolve {} ast with
    | .error e => .error (e.render text)
    | .ok (e, _) =>
      if e.tooLarge then
        .error ("Compiled regex exceeds size limit of " ++ toString sizeLimit ++ " bytes.")
      else .ok ⟨text, Program.ofExpr e⟩

/-- **Whether a text holds a match** of the pattern. -/
def Pattern.isMatch (p : Pattern) (s : String) : Bool := p.program.isMatch s

end SmartHelmet.Regex
