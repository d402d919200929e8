import SmartHelmet.Program.Run
/-!
# The simulator's command line

Reads the environment and the nearest `.env` file (in the working directory or above it),
runs the simulator and writes its error stream. The program has no wall clock, so a
placeholder stands where each log line's time would be; it has no network either, so every
connection it attempts is unreachable.
-/

open SmartHelmet

/-- The names a \`.env\` file mentions: every run of name characters. -/
def mentionedNames (content : String) : List String :=
  let spaced := content.toList.map fun c => if c.isAlphanum || c == '_' then c else ' '
  ((String.ofList spaced).splitOn " ").filter (!·.isEmpty)

/-- The values of the named variables that are set. -/
def readVars (names : List String) : IO Config.Vars :=
  names.eraseDups.filterMapM fun n => do
    return (← IO.getEnv n).map (n, ·)

/-- The directory above a directory. -/
def parentDir (dir : String) : String :=
  let up := String.ofList ((dir.toList.reverse.dropWhile (· != '/')).drop 1).reverse
  if up.isEmpty then "/" else up

/-- The nearest \`.env\` file's content, looking upward from a directory. -/
partial def findDotEnv (dir : String) : IO (Option String) := do
  let path := if dir == "/" then "/.env" else dir ++ "/.env"
  try
    return some (← IO.FS.readFile path)
  catch _ =>
    if dir == "/" then return none else findDotEnv (parentDir dir)

def main : IO UInt32 := do
  let file ← findDotEnv (toString (← IO.currentDir))
  let names := "RUST_LOG" :: Config.keys ++ (file.map mentionedNames).getD []
  let env ← readVars names
  let exit := Program.run env file .unreachable
  let err ← IO.getStderr
  for line in exit.lines do
    err.putStrLn (line.render "<time>")
  return exit.code.toUInt32
