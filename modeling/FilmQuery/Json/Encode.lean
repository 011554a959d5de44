import FilmQuery.Json.Decode
import FilmQuery.Number.Display
import FilmQuery.Text.Quoted

/-!
# Writing JSON

Values are written in ASCII: what is no printable ASCII character is escaped by its UTF-16 units,
so a character beyond U+FFFF becomes an escaped pair of surrogates. A comma and a colon are each
followed by one space.
-/

namespace FilmQuery.Json

/-- An escaped UTF-16 unit. -/
def unitEscape (u : Nat) : Text := lit "\\u" ++ hexDigits 4 u

/-- One code point inside a string. -/
def encodePoint (c : CodePoint) : Text :=
  if c = '"'.toNat then lit "\\\""
  else if c = '\\'.toNat then lit "\\\\"
  else if c = 8 then lit "\\b"
  else if c = 9 then lit "\\t"
  else if c = 10 then lit "\\n"
  else if c = 12 then lit "\\f"
  else if c = 13 then lit "\\r"
  else if 0x20 ≤ c ∧ c < 0x7F then [c]
  else if c < 0x10000 then unitEscape c
  else
    unitEscape (0xD800 + (c - 0x10000) / 0x400) ++ unitEscape (0xDC00 + (c - 0x10000) % 0x400)

def encodeString (t : Text) : Text := lit "\"" ++ t.flatMap encodePoint ++ lit "\""

def encodeNumber : Number → Text
  | .int i => Text.ofInt i
  | .real (.infinite negative) => if negative then lit "-Infinity" else lit "Infinity"
  | .real .nan => lit "NaN"
  | .real x => x.display

mutual

/-- The JSON text of a value. -/
def encode : Json → Text
  | .null => lit "null"
  | .bool true => lit "true"
  | .bool false => lit "false"
  | .number n => encodeNumber n
  | .string t => encodeString t
  | .array items => lit "[" ++ Text.join (lit ", ") (encodeItems items) ++ lit "]"
  | .object entries =>
    lit "\x7b" ++ Text.join (lit ", ") (encodeEntries entries) ++ lit "\x7d"

def encodeItems : List Json → List Text
  | [] => []
  | j :: js => encode j :: encodeItems js

def encodeEntries : List (Text × Json) → List Text
  | [] => []
  | (k, j) :: rest => (encodeString k ++ lit ": " ++ encode j) :: encodeEntries rest

end

end FilmQuery.Json
