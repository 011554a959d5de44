import FilmQuery.Braces
import FilmQuery.Envelope
import FilmQuery.Intent.Decode
import FilmQuery.Json.Decode

/-!
# Reading the model's answer

From an envelope to an intent: the best text of the envelope, the first object in it, its value,
and the intent that the value gives. Each step has its own way to fail.
-/

namespace FilmQuery.Intent

/-- Why no intent could be read. -/
inductive ReadError where
  | noText
  | noObject
  | malformed (fault : Json.Fault) (position : Nat)
  | digits (limit : DigitLimit)
  | notAnObject
  | invalid (details : List Detail)
  | tooDeep
  deriving DecidableEq, Repr

/-- The sentence about a failure. -/
def ReadError.message : ReadError → Text
  | noText => lit "model response has no text"
  | noObject => lit "no JSON object in model response"
  | malformed fault position =>
    lit "invalid JSON: " ++ fault.message ++ lit " at pos " ++ Text.ofNat position
  | digits limit => lit "invalid JSON: " ++ limit.message
  | notAnObject => lit "intent JSON is not an object"
  | invalid _ => lit "intent JSON does not match schema"
  | tooDeep => []

/-- Whether there was nothing to read an intent from. -/
def ReadError.isMissing : ReadError → Bool
  | noText | noObject => true
  | _ => false

/-- The intent that a JSON text gives. -/
def parse (t : Text) (depth : Nat := Json.usualDepth) : Except ReadError Intent :=
  match Json.decode t depth with
  | .error (.malformed fault position) => .error (.malformed fault position)
  | .error (.digits limit) => .error (.digits limit)
  | .error .tooDeep => .error .tooDeep
  | .ok (.object entries) =>
    match ofJson (.object entries) with
    | .ok intent => .ok intent
    | .error details => .error (.invalid details)
  | .ok _ => .error .notAnObject

/-- The intent that an envelope holds. -/
def ofEnvelope (envelope : Json) (depth : Nat := Json.usualDepth) : Except ReadError Intent :=
  match Text.trim isBlank (Envelope.bestText envelope) with
  | [] => .error .noText
  | t =>
    match Braces.firstObject? t with
    | none => .error .noObject
    | some object => parse object depth

end FilmQuery.Intent
