import FilmQuery.CommandLine.Run
import FilmQuery.Http.Relay

/-!
# The program

Answers the question of the command line. Requests go out on standard output, a line each, and
their outcomes come in on standard input; the answer follows the last request. Log records and
refusals go to standard error.
-/

namespace FilmQuery

/-- The variables of the process that may matter: the settings in either case, and what the file
of settings refers to. -/
def readEnvironment (file : Option Text) : IO Environment := do
  let names := Setting.all.map Setting.variableName
  let lower := names.map fun t => t.map fun c => if isUpperAscii c then c + 0x20 else c
  let found ← (names ++ lower ++ SettingsFile.references (file.getD [])).mapM fun name => do
    return (← IO.getEnv name.toString).map fun value => (name, lit value)
  return found.filterMap id

/-- The file of settings in the working directory, if there is one. -/
def readSettingsFile : IO (Option Text) := do
  try
    return some (lit (← IO.FS.readFile ".env"))
  catch _ => return none

/-- Hands a request to the relay and waits for its outcome. -/
def relay (request : Request) : IO Outcome := do
  let output ← IO.getStdout
  output.putStrLn (Json.encode request.toJson).toString
  output.flush
  return .ofLine (lit (← (← IO.getStdin).getLine))

/-- Runs the command line and gives the status to end with. -/
def runProgram (words : List String) : IO UInt32 := do
  let started ← IO.monoMsNow
  let file ← readSettingsFile
  let environment ← readEnvironment file
  match ← CommandLine.run relay relay environment file (words.map lit) with
  | .exit e => return e.code.toUInt32
  | .refused e =>
    for line in e.report do
      IO.eprintln line.toString
    return 1
  | .printed output levels events =>
    let latency := Text.ofNat ((← IO.monoMsNow) - started)
    for e in events.filter (Event.isShown levels) do
      IO.eprintln (e.level.name ++ lit " " ++ e.message latency).toString
    IO.print output.toString
    return 0

end FilmQuery

def main (words : List String) : IO UInt32 := FilmQuery.runProgram words
