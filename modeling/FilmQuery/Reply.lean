import FilmQuery.Json.Display

/-!
# Replies

Each row of the result becomes one line, in the order received: title, year, id, directors and
rating always, genres and actors if there are any. A value that is missing shows as `n/a` and a
number that is an integer shows as one. No rows at all have a sentence of their own.

Rows come from the reader of JSON. So an integer in them has no more digits than are converted, and
a value is nested no deeper than the stack allowed when it was read. A row that is larger could not
be shown, but no reader gives one.
-/

namespace FilmQuery

/-- A row: the entries of an object that was read. -/
abbrev Row := List (Text × Json)

namespace Reply

def noMovies : Text := lit "No movies found."

def separator : Text := lit " — "

/-- A single value in a line. -/
def scalar (value : Option Json) : Text :=
  match value with
  | none | some .null => lit "n/a"
  | some (.number (.real x)) => x.literal
  | some j => j.display

/-- What the objects of an array have under a key, with commas between. -/
def names (items : Option Json) (key : Text) : Text :=
  match items with
  | some (.array items) =>
    let found := items.filterMap fun item =>
      match item.field? key with
      | none | some .null => none
      | some j => some j.display
    Text.join (lit ", ") found
  | _ => []

/-- A labelled part of a line, left out if it is empty. -/
def optional (label : Text) (t : Text) : Text :=
  if t.isEmpty then [] else separator ++ label ++ t

/-- The line of a row. -/
def line (row : Row) : Text :=
  lit "- " ++ scalar (row.lookup (lit "title"))
    ++ lit " (" ++ scalar (row.lookup (lit "year")) ++ lit ") [id: "
    ++ scalar (row.lookup (lit "ids")) ++ lit "]"
    ++ separator ++ lit "directors: " ++ names (row.lookup (lit "directors")) (lit "name")
    ++ separator ++ lit "rating: " ++ scalar (row.lookup (lit "rating"))
    ++ optional (lit "genres: ") (names (row.lookup (lit "genres")) (lit "type"))
    ++ optional (lit "actors: ") (names (row.lookup (lit "actors")) (lit "name"))

/-- The reply to a result; a missing result counts as one without rows. -/
def ofRows (rows : Option (List Row)) : Text :=
  match rows.getD [] with
  | [] => noMovies
  | rows => Text.join (lit "\n") (rows.map line)

end Reply

end FilmQuery
