import FilmQuery.Text.Quoted
import FilmQuery.Text.Upper

/-!
# Log levels

A level is asked for by its name in any case. Two levels have a second name. The chat library's
own loggers report every update, so they are raised to warnings, unless everything is to be seen.
-/

namespace FilmQuery

inductive LogLevel where
  | notset
  | debug
  | info
  | warning
  | error
  | critical
  deriving DecidableEq, Repr

namespace LogLevel

def name : LogLevel → Text
  | notset => lit "NOTSET"
  | debug => lit "DEBUG"
  | info => lit "INFO"
  | warning => lit "WARNING"
  | error => lit "ERROR"
  | critical => lit "CRITICAL"

/-- The levels by name. -/
def names : List (Text × LogLevel) :=
  [notset, debug, info, warning, error, critical].map (fun l => (l.name, l))
    ++ [(lit "WARN", warning), (lit "FATAL", critical)]

/-- The level of a name in upper case. -/
def ofName? (t : Text) : Option LogLevel := names.lookup t

/-- How severe a record must be to be shown. -/
def rank : LogLevel → Nat
  | notset => 0
  | debug => 10
  | info => 20
  | warning => 30
  | error => 40
  | critical => 50

end LogLevel

/-- A level was asked for that there is not. -/
structure UnknownLevel where
  name : Text
  deriving DecidableEq, Repr

def UnknownLevel.message (e : UnknownLevel) : Text := lit "Unknown level: " ++ e.name.quoted

/-- The levels in force: for the program, and for the chat library's own loggers. -/
structure LogLevels where
  program : LogLevel
  library : LogLevel
  deriving DecidableEq, Repr

/-- The levels that result from a request, or else from the environment. -/
def LogLevels.choose (requested fromEnvironment : Option Text) : Except UnknownLevel LogLevels :=
  let name :=
    (((setText? requested).or (setText? fromEnvironment)).getD (lit "INFO")).upper
  match LogLevel.ofName? name with
  | none => .error ⟨name⟩
  | some level =>
    .ok ⟨level, if LogLevel.debug.rank < level.rank then .warning else .notset⟩

end FilmQuery
