import FilmQuery.Log.Level
import FilmQuery.Settings.Load

/-!
# Starting up

Before anything else the settings are loaded and the level of the log is chosen. A process that
cannot start says why.
-/

namespace FilmQuery

/-- Why a process does not start. -/
inductive StartError where
  | settings (details : List Detail)
  | level (e : UnknownLevel)
  | noToken
  deriving DecidableEq, Repr

def StartError.message : StartError → Text
  | settings _ => lit "Invalid environment configuration"
  | level e => e.message
  | noToken => lit "TELEGRAM_BOT_TOKEN is required to run the bot"

/-- The lines of a refusal: its message, and what is wrong with each setting. -/
def StartError.report (e : StartError) : List Text :=
  e.message ::
    match e with
    | settings details =>
      details.map fun d => Text.join (lit ".") d.path ++ lit ": " ++ d.misfit.message
    | _ => []

/-- What a process has once it has started. -/
structure Startup where
  settings : Settings
  levels : LogLevels
  deriving Repr

/-- Starts a process; a level that is requested stands before that of the settings. -/
def start (environment : Environment) (file : Option Text) (level : Option Text) :
    Except StartError Startup := do
  let settings ← (Settings.load environment file).mapError .settings
  let name := (setText? level).getD settings.logLevel
  let levels ← (LogLevels.choose (some name) (environment.lookup (lit "LOG_LEVEL"))).mapError .level
  return { settings, levels }

end FilmQuery
