import FilmQuery.Http.Exchange

/-!
# Exchanges that are written down

An exchange is run against the outcome that its request comes to, and the requests are written down.
A URL that is refused means no request, and any other means one.
-/

namespace FilmQuery

namespace Outcome

/-- Sends a request, which comes to the given outcome. -/
def send (outcome : Outcome) (request : Request) : StateM (List Request) Outcome := do
  modify (· ++ [request])
  return outcome

/-- The body that came back, with whatever status. -/
def body? : Outcome → Option Bytes
  | response bs | status _ bs => some bs
  | unreachable _ | broken _ => none

end Outcome

section

variable {α : Type} {receive : Outcome → Except Failure α} {outcome : Outcome} {url : Text}
  {timeout : Number} {headers : List (Text × Text)} {body : Text}

/-- What an exchange comes to, and its requests: one, or none where the URL is refused. -/
def exchange (receive : Outcome → Except Failure α) (outcome : Outcome) (url : Text)
    (timeout : Number) (headers : List (Text × Text)) (body : Text) :
    Except Failure α × List Request :=
  match Url.resolve url with
  | .error e => (.error (.unexpected (.badUrl e)), [])
  | .ok url => (receive outcome, [⟨url, timeout, headers, body⟩])

theorem run_exchange :
    (do
        match ← post outcome.send url timeout headers body with
        | .ok outcome => return receive outcome
        | .error e => return .error (.unexpected e) :
      StateM (List Request) (Except Failure α)).run [] =
      exchange receive outcome url timeout headers body := by
  unfold post exchange
  cases Url.resolve url <;> rfl

/-- What excludes unexpected failures holds of an exchange where the URL is accepted and it holds of
what is received. -/
theorem exchange_iff {P : Except Failure α → Prop}
    (hP : ∀ cause, ¬P (.error (.unexpected cause))) :
    P (exchange receive outcome url timeout headers body).1 ↔
      (∃ accepted, Url.resolve url = .ok accepted) ∧ P (receive outcome) := by
  unfold exchange
  cases Url.resolve url with
  | error e => exact iff_of_false (hP _) fun h => by obtain ⟨⟨_, h⟩, -⟩ := h; cases h
  | ok accepted => simp

end

end FilmQuery
