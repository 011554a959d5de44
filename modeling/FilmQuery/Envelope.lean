import FilmQuery.Json.Value
import FilmQuery.Text.Blank

/-!
# Envelopes

The model's answer arrives in an envelope whose shape depends on the service. Its best text is the
envelope itself if it is a text; else the first text under `response`, `output` or `text`; else the
first usable entry of an array under `response`; else the first text with something in it, level
by level from the outside.
-/

namespace FilmQuery.Envelope

/-- The keys that may hold the answer, in order of preference. -/
def textKeys : List Text := [lit "response", lit "output", lit "text"]

/-- The first text under one of the text keys. -/
def keyedText? (j : Json) : Option Text :=
  textKeys.findSome? fun key => (j.field? key).bind Json.string?

/-- The text of an entry: the entry itself, or its `content`. -/
def entryText? (entry : Json) : Option Text :=
  match entry with
  | .string t => some t
  | entry => (entry.field? (lit "content")).bind Json.string?

/-- The first usable entry of a `response` array. -/
def arrayText? (j : Json) : Option Text :=
  ((j.field? (lit "response")).bind Json.array?).bind fun entries => entries.findSome? entryText?

/-- The members of a container, in order. -/
def children : Json → List Json
  | .array items => items
  | .object entries => entries.map Prod.snd
  | _ => []

def isContainer : Json → Bool
  | .array _ | .object _ => true
  | _ => false

/-- The text of a value that is a text with something in it. -/
def filledText? : Json → Option Text
  | .string t => if t.isAllBlank then none else some t
  | _ => none

/-- How many containers are looked into at most. -/
def maxVisited : Nat := 10000

/-- Looks into the containers of a queue, and then into those inside them, for a text. -/
def searchLevels : (budget : Nat) → (queue : List Json) → Option Text
  | 0, _ | _, [] => none
  | budget + 1, j :: queue =>
    match (children j).findSome? filledText? with
    | some t => some t
    | none => searchLevels budget (queue ++ (children j).filter isContainer)

/-- The best text of an envelope, empty if there is none. -/
def bestText (envelope : Json) : Text :=
  match envelope with
  | .string t => t
  | .array _ | .object _ =>
    let direct := (keyedText? envelope).or (arrayText? envelope)
    (direct.or (searchLevels maxVisited [envelope])).getD []
  | _ => []

end FilmQuery.Envelope
