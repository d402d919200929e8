import SmartHelmet.Log
import SmartHelmet.Text.Blank
import SmartHelmet.Regex.Pattern
/-!
# Which log lines are written

The program writes a log line when the filter lets it through. The filter is read from a
specification, `directives/pattern`:

* the directives are separated by commas, each trimmed; a directive is a level alone (every
  target), a target alone (every level), or `target=level`; a bad one is skipped with a
  warning;
* a line is shown when the directive with the longest target that starts its own target
  allows its level; among targets of equal length the last one given counts;
* the program itself sets the directive for every target to INFO, so only directives for
  named targets change what it writes;
* after a `/`, a regular expression: a line is written only when its text holds a match; an
  expression that does not compile is reported, line by line, after the directives' warnings,
  and filters nothing.

Levels read without regard to case: `off`, `error`, `warn`, `info`, `debug`, `trace`.
-/

namespace SmartHelmet.Log

/-- How verbose a level is: 1 for errors up to 4 for debug lines. -/
def Level.rank : Level → Nat
  | .error => 1
  | .warn => 2
  | .info => 3
  | .debug => 4

/-- The most verbose rank a level name allows: 0 for `off`, 5 for `trace`. -/
def limitOf (name : String) : Option Nat :=
  match name.toLower with
  | "off" => some 0
  | "error" => some 1
  | "warn" => some 2
  | "info" => some 3
  | "debug" => some 4
  | "trace" => some 5
  | _ => none

/-- The rank of the most verbose level. -/
def allLevels : Nat := 5

/-- One directive: the targets it names (all, when none) and the most verbose rank shown. -/
structure Directive where
  target : Option String
  limit : Nat
  deriving Repr, BEq

/-- What a specification says: its directives, its pattern and its warnings. -/
structure Filter where
  directives : List Directive := []
  pattern : Option Regex.Pattern := none
  warnings : List String := []
  deriving Repr

/-- Add a directive; one for the same targets is replaced in place. -/
def Filter.insert (f : Filter) (d : Directive) : Filter :=
  if f.directives.any (·.target == d.target) then
    { f with directives := f.directives.map fun e => if e.target == d.target then d else e }
  else { f with directives := f.directives ++ [d] }

/-- The warning for a directive that is skipped. -/
def skipped (spec : String) : String :=
  "warning: invalid logging spec '" ++ spec ++ "', ignoring it"

/-- Read one trimmed, nonempty directive. -/
def readDirective (s : String) : Except String Directive :=
  match s.splitOn "=" with
  | [part] =>
    match limitOf part with
    | some n => .ok ⟨none, n⟩
    | none => .ok ⟨some part, allLevels⟩
  | [part, level] =>
    let level := Text.trim level
    if level.isEmpty then .ok ⟨some part, allLevels⟩
    else match limitOf level with
      | some n => .ok ⟨some part, n⟩
      | none => .error (skipped level)
  | _ => .error (skipped s)

/-- **Read a specification.** -/
def Filter.parse (spec : String) : Filter :=
  let parts := spec.splitOn "/"
  if parts.length > 2 then { warnings := [skipped spec ++ " (too many '/'s)"] }
  else
    let f := ((parts.head?.getD "").splitOn ",").foldl (fun (f : Filter) m =>
      let m := Text.trim m
      if m.isEmpty then f
      else match readDirective m with
        | .ok d => f.insert d
        | .error w => { f with warnings := f.warnings ++ [w] }) {}
    match parts[1]? with
    | none => f
    | some text =>
      match Regex.Pattern.compile text with
      | .ok p => { f with pattern := some p }
      | .error report =>
        { f with warnings := f.warnings ++ ("warning: invalid regex filter - " ++ report).splitOn "\n" }

/-- **The filter the program writes with**: the specification's, with every target at INFO. -/
def Filter.forProgram (spec : Option String) : Filter :=
  ((spec.map Filter.parse).getD {}).insert ⟨none, 3⟩

/-- The length of the targets a directive names. -/
def Directive.reach (d : Directive) : Nat := (d.target.map String.length).getD 0

/-- Whether a directive speaks for a target. -/
def Directive.covers (d : Directive) (target : String) : Bool :=
  match d.target with
  | some t => t.isPrefixOf target
  | none => true

/-- The directive that speaks for a target: the longest covering one, the last among equals. -/
def Filter.ruling (f : Filter) (target : String) : Option Directive :=
  f.directives.foldl (fun best d =>
    if !d.covers target then best
    else match best with
      | some b => if d.reach ≥ b.reach then some d else best
      | none => some d) none

/-- **Whether a line is written.** -/
def Filter.shows (f : Filter) (e : Entry) : Bool :=
  let levelOk := match f.ruling e.target with
    | some d => e.level.rank ≤ d.limit
    | none => false
  levelOk && match f.pattern with
    | some p => p.isMatch e.message
    | none => true

end SmartHelmet.Log
