import FilmQuery.Http.Exchange
import FilmQuery.Json.Decode
import FilmQuery.Json.Encode

/-!
# Relayed exchanges

A process without sockets leaves the sending to a relay: it writes each request as a JSON object on
a line of its own and is answered with an outcome in the same form. An outcome has a `body` with or
without a `status`, or says that the server is `unreachable` or what has `failed`.
-/

namespace FilmQuery

/-- The JSON object of a request. -/
def Request.toJson (r : Request) : Json :=
  .object [
    (lit "method", .string (lit "POST")),
    (lit "url", .string r.url),
    (lit "timeout", .number r.timeout),
    (lit "headers", .object (r.headers.map fun (k, v) => (k, .string v))),
    (lit "body", .string r.body)]

/-- The outcome that a JSON object tells of; a relay that breaks down has failed. -/
def Outcome.ofJson (j : Json) : Outcome :=
  let text? (key : String) : Option Text := (j.field? (lit key)).bind Json.string?
  match text? "unreachable", text? "failed", text? "body" with
  | some reason, _, _ => .unreachable reason
  | none, some reason, _ => .broken reason
  | none, none, none => .broken (lit "no outcome")
  | none, none, some body =>
    let bytes := Utf8.encode body
    match j.field? (lit "status") with
    | some (.number (.int code)) =>
      if 200 ≤ code ∧ code < 300 then .response bytes else .status code bytes
    | _ => .response bytes

/-- The outcome on a line from the relay. -/
def Outcome.ofLine (line : Text) : Outcome :=
  match Json.decode line with
  | .ok j => .ofJson j
  | .error _ => .broken (lit "no outcome")

end FilmQuery
