import FilmQuery.Json.Value
import FilmQuery.Number.Display
import FilmQuery.Text.Quoted

/-!
# Values in prose

How a value appears in a reply or a message. A text appears as it is; inside a container it is
quoted. Null is `None`, the truth values are capitalised, and containers have brackets or braces
with a comma and a space between their members.
-/

namespace FilmQuery.Json

def displayNumber : Number → Text
  | .int i => Text.ofInt i
  | .real x => x.display

mutual

/-- A value as it appears inside a container. -/
def nested : Json → Text
  | .null => lit "None"
  | .bool true => lit "True"
  | .bool false => lit "False"
  | .number n => displayNumber n
  | .string t => t.quoted
  | .array items => lit "[" ++ Text.join (lit ", ") (nestedItems items) ++ lit "]"
  | .object entries =>
    lit "\x7b" ++ Text.join (lit ", ") (nestedEntries entries) ++ lit "\x7d"

def nestedItems : List Json → List Text
  | [] => []
  | j :: js => nested j :: nestedItems js

def nestedEntries : List (Text × Json) → List Text
  | [] => []
  | (k, j) :: rest => (k.quoted ++ lit ": " ++ nested j) :: nestedEntries rest

end

/-- A value on its own. -/
def display : Json → Text
  | .string t => t
  | j => nested j

/-- Whether a value counts as present: null, false, zero and whatever is empty do not. -/
def isPresent : Json → Bool
  | .null => false
  | .bool b => b
  | .number (.int i) => i != 0
  | .number (.real x) => !x.isZero
  | .string t => !t.isEmpty
  | .array items => !items.isEmpty
  | .object entries => !entries.isEmpty

end FilmQuery.Json
