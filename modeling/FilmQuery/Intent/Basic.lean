import FilmQuery.Json.Value

/-!
# Intents

What a question asks for: filters on the movies, the fields to show and how many rows. A slot that
is `none`, empty or null is open, and may still be filled from the question. Years and rating values
are kept as they were received; only the query decides whether they are numbers.
-/

namespace FilmQuery

/-- A comparison of the rating with a value. -/
structure Rating where
  op : Option Text
  value : Json
  deriving Repr

/-- The filters of an intent; a movie has to pass all that are set. -/
structure Filters where
  ids : Option Text := none
  title : Option Text := none
  titleExact : Option Text := none
  director : Option Text := none
  actor : Option Text := none
  genre : Option Text := none
  rating : Option Rating := none
  year : Json := .null
  yearFrom : Json := .null
  deriving Repr

structure Intent where
  purpose : Text := []
  filters : Filters := {}
  fields : List Text := []
  topN : Option Int := none
  deriving Repr

namespace Intent

/-- The fields shown when none are asked for. -/
def defaultFields : List Text :=
  [lit "ids", lit "title", lit "year", lit "rating", lit "directors", lit "actors", lit "genres"]

end Intent

/-- Whether a text slot is open. -/
def isOpen (slot : Option Text) : Bool := slot.all List.isEmpty

end FilmQuery
