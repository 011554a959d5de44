import FilmQuery.Bytes.Wide
import FilmQuery.Http.Exchange
import FilmQuery.Json.Encode
import FilmQuery.Reply

/-!
# The movie store

A query document is posted to the store and rows come back. Errors that the store reports in its
response are failures. A response without movies gives no rows, which is not the same as an empty
list of rows but is shown alike.
-/

namespace FilmQuery

structure MovieStore where
  url : Text := lit "http://localhost:4000/graphql"
  timeout : Number := .real (.ofInt 30)
  deriving Repr

namespace MovieStore

/-- The body of a request. -/
def body (document : Text) : Text := Json.encode (.object [(lit "query", .string document)])

/-- What one reported error says: its `message`, or the error itself where it has none. -/
def errorMessage (error : Json) : Json :=
  match error with
  | .object entries => (entries.lookup (lit "message")).getD (.string error.display)
  | _ => .string error.display

/-- The messages of the errors in a response. -/
def errorMessages (response : Json) : List Json :=
  match response.field? (lit "errors") with
  | none => []
  | some errors =>
    if errors.isPresent then
      match errors with
      | .array items => items.map errorMessage
      | _ => [.string errors.display]
    else []

/-- The texts of a list of values; it fails at the first value that is no text. -/
def texts (index : Nat) : List Json → Except Failure (List Text)
  | [] => .ok []
  | .string t :: rest => (texts (index + 1) rest).map (t :: ·)
  | j :: _ => .error (.unexpected (.notText index (.of j)))

/-- The errors of a response in one line, empty if there are none. -/
def errorLine (response : Json) : Except Failure Text :=
  (texts 0 (errorMessages response)).map (Text.join (lit "; "))

/-- The rows in a response. -/
def rowsOf (response : Json) : Except Failure (Option (List Row)) :=
  match response with
  | .object _ =>
    match errorMessages response with
    | [] =>
      .ok ((((response.field? (lit "data")).bind fun d => d.field? (lit "movies")).bind
        Json.array?).map fun items => items.filterMap Json.object?)
    | _ => do
      let line ← errorLine response
      .error (.store (lit "GraphQL errors: " ++ line))
  | _ => .error (.store (lit "unexpected GraphQL response format"))

/-- The failure that an error status stands for; the body may say more about it. -/
def statusFailure (code : Int) (bs : Bytes) (depth : Nat) : Failure :=
  let report (line : Text) : Failure :=
    .store (Text.trimEnd isBlank
      (lit "GraphQL HTTP error: " ++ Text.ofInt code ++ lit " " ++ line))
  match Json.ofBytes bs depth with
  | .error .illFormed => report []
  | .error (.digits limit) => .unexpected (.digits limit)
  | .error .tooDeep => .unexpected .tooDeep
  | .ok response =>
    match errorLine response with
    | .ok line => report line
    | .error failure => failure

/-- The rows that an outcome gives. -/
def receive (outcome : Outcome) (depth : Nat) : Except Failure (Option (List Row)) :=
  match outcome with
  | .response bs =>
    match Json.ofBytes bs depth with
    | .ok response => rowsOf response
    | .error .illFormed => .error (.store (lit "GraphQL endpoint did not return valid JSON"))
    | .error (.digits limit) => .error (.unexpected (.digits limit))
    | .error .tooDeep => .error (.unexpected .tooDeep)
  | .status code bs => .error (statusFailure code bs depth)
  | .unreachable reason =>
    .error (.store (lit "GraphQL connection error: <urlopen error " ++ reason ++ lit ">"))
  | .broken reason => .error (.store (lit "GraphQL connection error: " ++ reason))

/-- Runs a query document. -/
def execute {m : Type → Type} [Monad m] (s : MovieStore) (send : Request → m Outcome)
    (document : Text) (depth : Nat := Json.usualDepth) :
    m (Except Failure (Option (List Row))) := do
  match ← post send s.url s.timeout
      [(lit "accept", lit "application/json"), (lit "content-type", lit "application/json")]
      (body document) with
  | .ok outcome => return receive outcome depth
  | .error e => return .error (.unexpected e)

end MovieStore

end FilmQuery
