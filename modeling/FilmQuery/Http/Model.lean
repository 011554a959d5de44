import FilmQuery.Http.Exchange
import FilmQuery.Http.Prompt
import FilmQuery.Json.Decode
import FilmQuery.Json.Encode

/-!
# The language model's service

A prompt is posted to the service and its envelope comes back. A body that is not JSON is itself
the envelope, as a text.
-/

namespace FilmQuery

/-- Where the service is and which model it should use. -/
structure ModelService where
  host : Text := lit "http://localhost:11434"
  model : Text := lit "phi3"
  timeout : Number := .real (.ofInt 60)
  deriving Repr

namespace ModelService

/-- The address that prompts are posted to. -/
def url (s : ModelService) : Text := Text.trimEnd (· == '/'.toNat) s.host ++ lit "/api/generate"

/-- The body of a request. -/
def body (s : ModelService) (prompt : Text) : Text :=
  Json.encode (.object [
    (lit "model", .string s.model),
    (lit "prompt", .string prompt),
    (lit "stream", .bool false)])

/-- The envelope in the body of a response. -/
def envelopeOf (bs : Bytes) (depth : Nat) : Except Failure Json :=
  let t := Utf8.decodeLossy bs
  match Json.decode t depth with
  | .ok j => .ok j
  | .error (.malformed ..) => .ok (.string t)
  | .error (.digits limit) => .error (.unexpected (.digits limit))
  | .error .tooDeep => .error (.unexpected .tooDeep)

/-- The envelope that an outcome gives. -/
def receive (outcome : Outcome) (depth : Nat) : Except Failure Json :=
  match outcome with
  | .response bs => envelopeOf bs depth
  | .status code _ => .error (.model (lit "LLM HTTP error: " ++ Text.ofInt code))
  | .unreachable reason =>
    .error (.model (lit "LLM connection error: <urlopen error " ++ reason ++ lit ">"))
  | .broken reason => .error (.model (lit "LLM connection error: " ++ reason))

/-- Sends a prompt. -/
def generate {m : Type → Type} [Monad m] (s : ModelService) (send : Request → m Outcome)
    (prompt : Text) (depth : Nat := Json.usualDepth) : m (Except Failure Json) := do
  match ← post send s.url s.timeout [(lit "content-type", lit "application/json")]
      (s.body prompt) with
  | .ok outcome => return receive outcome depth
  | .error e => return .error (.unexpected e)

/-- Asks for the intent of a question. -/
def ask {m : Type → Type} [Monad m] (s : ModelService) (send : Request → m Outcome)
    (question : Text) (depth : Nat := Json.usualDepth) : m (Except Failure Json) :=
  s.generate send (Prompt.ofQuestion question) depth

end ModelService

end FilmQuery
