import FilmQuery.Failure
import FilmQuery.Intent.Reading
import FilmQuery.Log.Level

/-!
# Events

What is worth a record in the log. Questions are recorded only for whoever looks for a bug. Queries
and causes of failure are logged, and never shown to the user.
-/

namespace FilmQuery

inductive Event where
  | asked (question : Text)
  | compiled (document : Text)
  | handled (rows : Nat) (topN : Option Int)
  | unreadable (e : Intent.ReadError)
  | modelFailed (reason : Text)
  | queryFailed (reason : Text) (document : Option Text)
  | answerFailed (cause : Unexpected)
  | replyFailed (cause : Unexpected)
  | starting (model host url : Text)
  | shuttingDown
  deriving DecidableEq, Repr

namespace Event

/-- The level of a record. A model that answers in prose alone deserves no warning. -/
def level : Event → LogLevel
  | asked _ => .debug
  | compiled _ | handled .. | starting .. | shuttingDown => .info
  | unreadable e => if e.isMissing then .info else .warning
  | modelFailed _ | queryFailed .. | answerFailed _ | replyFailed _ => .error

/-- A text, or `None` where there is none. -/
def orNone (t : Option Text) : Text := t.getD (lit "None")

/-- The text of a record; `latency` is the time since the question arrived, in milliseconds. -/
def message (latency : Text) : Event → Text
  | asked question => lit "question text=" ++ question.quoted
  | compiled document => lit "compiled query=" ++ document
  | handled rows topN =>
    lit "handled rows=" ++ Text.ofNat rows ++ lit " top_n=" ++ orNone (topN.map Text.ofInt)
      ++ lit " latency_ms=" ++ latency
  | unreadable e =>
    (if e.isMissing then lit "unreadable intent reason=" else lit "malformed intent JSON reason=")
      ++ e.message
  | modelFailed reason => lit "model gateway failed reason=" ++ reason
  | queryFailed reason document =>
    lit "query execution failed reason=" ++ reason ++ lit " query=" ++ orNone document
  | answerFailed _ => lit "answer pipeline failed"
  | replyFailed _ => lit "handler failed"
  | starting model host url =>
    lit "starting bot model=" ++ model ++ lit " llm=" ++ host ++ lit " graphql=" ++ url
  | shuttingDown => lit "shutting down"

/-- Whether a record is shown at the levels in force. -/
def isShown (levels : LogLevels) (e : Event) : Bool := levels.program.rank ≤ e.level.rank

/-- The failure that is recorded together with its trace. -/
def cause? : Event → Option Unexpected
  | answerFailed cause | replyFailed cause => some cause
  | _ => none

end Event

end FilmQuery
