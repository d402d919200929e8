import SmartHelmet.Program.Report
import SmartHelmet.Config.DotEnv
import SmartHelmet.Config.Summary
import SmartHelmet.Service.Endpoint
import SmartHelmet.Log.Filter
/-!
# The simulator program

What the simulator does from start to exit, on a network where every connection fails:

1. the configuration is read from the environment, with an environment file's assignments
   added (a value the environment cannot hold stops the program, exit code 101); a bad value
   ends the program (exit code 1);
2. it announces itself and reports its configuration; a frame length that leaves 32 bits
   stops it there (exit code 101);
3. the status service's URL must be a base URL; then the device's status is requested, which
   on such a network fails: the program ends with that error (exit code 1).

The program writes its log lines to its error stream as `[time LEVEL target] message`, the
level padded to five characters, those at level INFO and above unless the environment's
`RUST_LOG` says otherwise for a target (see `Log.Filter`); it ends an error with a line
`Error: ` and the error's report.
-/

namespace SmartHelmet.Program

/-- A line on the error stream: a log line, or text. -/
inductive Line where
  | log (entry : Log.Entry)
  | text (line : String)

/-- How the program ended: its error stream and its exit code. -/
structure Exit where
  lines : List Line
  code : Nat

/-- **A line as written**, log lines stamped with `time`. -/
def Line.render (time : String) : Line → String
  | .log e => "[" ++ time ++ " " ++ e.level.name.pushn ' ' (5 - e.level.name.length) ++ " " ++
      e.target ++ "] " ++ e.message
  | .text line => line

/-- A log line of the program itself. -/
def programLine (level : Log.Level) (message : String) : Line :=
  .log ⟨level, Log.programTarget, message⟩

/-- Where the frame length is computed, as a stopped program names it. -/
def frameLenSite : String := "src/config.rs:48:9"

/-- Where an environment variable is set, as a stopped program names it. -/
def setVarSite : String := "library/std/src/env.rs"

/-- The lines of a program stopped at `site` with a message. -/
def stopLines (site message : String) : List Line :=
  [.text "", .text ("thread 'main' panicked at " ++ site ++ ":"), .text message,
   .text "note: run with `RUST_BACKTRACE=1` environment variable to display a backtrace"]

/-- The lines of a program stopped by an abort. -/
def abortLines (site : String) (a : Abort) : List Line := stopLines site a.message

/-- The lines of a program that ends with a run error. -/
def fatal (e : Session.RunError) : List Line :=
  [programLine .error ("Fatal error: " ++ e.message), .text ("Error: " ++ reportRun e)]

/-- Everything the program would log and print, before the log filter. -/
def transcript (env : Config.Vars) (file : Option String) (network : Net.ConnectError) :
    List Line × Nat :=
  let loaded := match file with
    | some content => env.loadFile content
    | none => .ok env
  match loaded with
  | .error u => (stopLines setVarSite u.message, 101)
  | .ok vars =>
  match Config.ofLookup vars.get? with
  | .error e =>
    ([programLine .error ("Failed to load configuration: " ++ e.message),
      .text ("Error: " ++ reportConfig e)], 1)
  | .ok config =>
    let start := programLine .info "Smart helmet simulator starting up"
    let (summary, stop) := config.summary
    let opening := start :: summary.map Line.log
    match stop with
    | some a => (opening ++ abortLines frameLenSite a, 101)
    | none =>
      match Service.Endpoint.ofSettings config.service with
      | .error f => (opening ++ fatal (.service f), 1)
      | .ok endpoint =>
        let url := endpoint.checkUrl config.session.deviceId
        let asking := [Line.log ⟨.info, Log.sessionTarget, "Checking device status..."⟩,
          .log ⟨.debug, Log.serviceTarget, "GET " ++ url.text⟩]
        let failure := Service.get url network
        (opening ++ asking ++ fatal (.service (.request failure)), 1)

/-- Whether a line passes the log filter; text always does. -/
def Line.passes (f : Log.Filter) : Line → Bool
  | .log e => f.shows e
  | .text _ => true

/-- **Run the program** with an environment, an optional environment file, on a network where
    every connection fails with \`network\`: the log filter is read from the environment alone,
    before the file is. -/
def run (env : Config.Vars) (file : Option String) (network : Net.ConnectError) : Exit :=
  let filter := Log.Filter.forProgram (env.get? "RUST_LOG")
  let (lines, code) := transcript env file network
  ⟨filter.warnings.map Line.text ++ lines.filter (·.passes filter), code⟩

end SmartHelmet.Program
