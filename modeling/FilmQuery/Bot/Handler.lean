import FilmQuery.Bot.Message

/-!
# Handling a message

Every message gets one reply: an answer if it asks a question, and otherwise a request for input.
Where that request cannot be sent, an apology is tried once. Sending is an action that may fail.
-/

namespace FilmQuery.Bot

/-- What is logged while a message is handled, and the failure that is left in the end. -/
structure Handled where
  events : List Event := []
  failure : Option Unexpected := none
  deriving Repr

/-- Sends a reply as the last step. -/
def conclude {m : Type → Type} [Monad m] (send : Text → m (Option Unexpected)) (reply : Text)
    (events : List Event) : m Handled := do
  let failure ← send (fit reply)
  return { events, failure }

/-- Handles a message; `send` gives the failure if it fails. -/
def handle {m : Type → Type} [Monad m] (model : Text → m (Except Failure Json))
    (store : Text → m (Except Failure (Option (List Row))))
    (send : Text → m (Option Unexpected)) (msg : Message) (depth : Nat := Json.usualDepth) :
    m Handled := do
  if msg.isQuestion then
    let answer ← Answer.ofQuestion model store (some msg.content) depth
    conclude send answer.output answer.events
  else
    match ← send Answer.emptyInput with
    | none => return {}
    | some cause => conclude send Answer.internalError [.replyFailed cause]

end FilmQuery.Bot
