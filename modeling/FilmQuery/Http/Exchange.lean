import FilmQuery.Bytes.Utf8
import FilmQuery.Failure

/-!
# Exchanges over HTTP

A request that is sent and the outcomes that sending it can have. Both services are posted JSON. A
URL that is refused ends the exchange before anything is sent.

Some URLs are not refused, though nothing can be sent to them: there are blanks in them, their port
is no number, or their host has an empty label. No outcome stands for what becomes of these, so
what is said of outcomes is about other endpoints.
-/

namespace FilmQuery

structure Request where
  url : Text
  timeout : Number
  headers : List (Text × Text)
  body : Text
  deriving Repr

/-- What comes of a request: a response, an error status with a body, or no response. -/
inductive Outcome where
  | response (body : Bytes)
  | status (code : Int) (body : Bytes)
  | unreachable (reason : Text)
  | broken (reason : Text)
  deriving Repr

/-- Posts a JSON body and hands on the outcome. -/
def post {m : Type → Type} [Monad m] (send : Request → m Outcome) (url : Text) (timeout : Number)
    (headers : List (Text × Text)) (body : Text) : m (Except Unexpected Outcome) :=
  match Url.resolve url with
  | .error e => pure (.error (.badUrl e))
  | .ok url => do
    let outcome ← send ⟨url, timeout, headers, body⟩
    return .ok outcome

end FilmQuery
