import FilmQuery.Answer
import FilmQuery.CommandLine.Options
import FilmQuery.Startup

/-!
# A question on the command line

One question is answered and the answer printed, after the query and an empty line if the query is
to be shown.
-/

namespace FilmQuery.CommandLine

/-- How a run ends. -/
inductive Ending where
  | exit (e : Exit)
  | refused (e : StartError)
  | printed (output : Text) (levels : LogLevels) (events : List Event)
  deriving Repr

/-- What is printed of an answer. -/
def printed (showQuery : Bool) (a : Answer) : Text :=
  let query :=
    match a.query with
    | some q => if showQuery then q.document ++ lit "\n\n" else []
    | none => []
  query ++ a.output ++ lit "\n"

/-- Answers the question of a command line; the two actions send requests to the services. -/
def run {m : Type → Type} [Monad m] (sendModel sendStore : Request → m Outcome)
    (environment : Environment) (file : Option Text) (words : List Text)
    (depth : Nat := Json.usualDepth) : m Ending := do
  match parse words with
  | .error e => return .exit e
  | .ok options =>
    match start environment file options.logLevel with
    | .error e => return .refused e
    | .ok ⟨settings, levels⟩ =>
      let a ← Answer.ofQuestion (settings.modelService.ask sendModel · depth)
        (settings.movieStore.execute sendStore · depth)
        (some (Text.join (lit " ") options.question)) depth
      return .printed (printed options.showQuery a) levels a.events

end FilmQuery.CommandLine
