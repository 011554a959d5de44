import FilmQuery.Log.Event
import FilmQuery.Startup

/-!
# The bot's process

Once it has its settings and a token, the process signs in, registers one handler for all messages,
and polls until polling ends or fails. It signs out in either case.
-/

namespace FilmQuery.Bot

/-- What the process does with the chat. -/
inductive Act where
  | signIn (token : Text)
  | register (router : Text) (handlers : Nat)
  | poll (host url : Text)
  | signOut
  deriving DecidableEq, Repr

/-- What a process did and logged, and the failure that it ended with. -/
structure Run where
  acts : List Act
  events : List Event
  failure : Option Unexpected
  deriving Repr

/-- The name of the router that all messages go to. -/
def routerName : Text := lit "movies"

/-- Runs the process; polling is an action that gives the failure it ends with, if any. -/
def run {m : Type → Type} [Monad m] (poll : Settings → m (Option Unexpected))
    (environment : Environment) (file : Option Text) : m (Except StartError Run) := do
  match start environment file none with
  | .error e => return .error e
  | .ok ⟨settings, _⟩ =>
    match setText? settings.botToken with
    | none => return .error .noToken
    | some token =>
      let failure ← poll settings
      return .ok {
        acts := [.signIn token, .register routerName 1,
          .poll settings.modelHost settings.storeUrl, .signOut]
        events := [.starting settings.modelName settings.modelHost settings.storeUrl,
          .shuttingDown]
        failure }

end FilmQuery.Bot
