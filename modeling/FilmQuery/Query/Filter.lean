import FilmQuery.Comparison
import FilmQuery.Intent.Basic
import FilmQuery.Json.Finite
import FilmQuery.Number.Display
import FilmQuery.Text.Upper

/-!
# The filter of a query

The filters of an intent become a list of predicates in a fixed order, one for each slot that is
set; the exact title stands in front of the title and replaces it. Texts appear in double quotes
with each double quote escaped.
-/

namespace FilmQuery

/-- Escapes each double quote with a backslash. -/
def escapeQuotes (t : Text) : Text :=
  t.flatMap fun c => if c = '"'.toNat then lit "\\\"" else [c]

/-- A string literal of a query. -/
def stringLiteral (t : Text) : Text := lit "\"" ++ escapeQuotes t ++ lit "\""

/-- One predicate on a movie. -/
inductive Predicate where
  | ids (t : Text)
  | title (t : Text)
  | titleContains (t : Text)
  | director (t : Text)
  | actor (t : Text)
  | genre (t : Text)
  | rating (c : Comparison) (x : Binary64)
  | yearFrom (x : Binary64)
  | year (x : Binary64)
  deriving DecidableEq, Repr

namespace Predicate

/-- An entry whose value is an object with one text in it. -/
def someEntry (relation key : String) (t : Text) : Text :=
  lit relation ++ lit ": \x7b " ++ lit key ++ lit ": " ++ stringLiteral t ++ lit " \x7d"

/-- The entry of the filter object that states a predicate. -/
def render : Predicate → Text
  | ids t => lit "ids: " ++ stringLiteral t
  | title t => lit "title: " ++ stringLiteral t
  | titleContains t => lit "title_CONTAINS: " ++ stringLiteral t
  | director t => someEntry "directors_SOME" "name_CONTAINS" t
  | actor t => someEntry "actors_SOME" "name_CONTAINS" t
  | genre t => someEntry "genres_SOME" "type_CONTAINS" t
  | rating c x => lit "rating_" ++ c.name ++ lit ": " ++ x.literal
  | yearFrom x => lit "year_GTE: " ++ x.literal
  | year x => lit "year: " ++ x.literal

end Predicate

namespace Rating

/-- The comparison that a rating filter names; any name but those known compares as `gt`. -/
def comparison (r : Rating) : Comparison :=
  .ofName (Text.upper (Text.trim isBlank ((setText? r.op).getD (lit "GT"))))

/-- The predicate of a rating filter with a usable value. -/
def predicate? (r : Rating) : Option Predicate := r.value.finite?.map (.rating r.comparison)

end Rating

namespace Filters

/-- The predicate on the title. -/
def titlePredicate? (f : Filters) : Option Predicate :=
  match setText? f.titleExact with
  | some t => some (.title t)
  | none => (setText? f.title).map .titleContains

/-- The predicates of the filters, in their order. -/
def predicates (f : Filters) : List Predicate :=
  [(setText? f.ids).map .ids,
    f.titlePredicate?,
    (setText? f.director).map .director,
    (setText? f.actor).map .actor,
    (setText? f.genre).map .genre,
    f.rating.bind Rating.predicate?,
    f.yearFrom.finite?.map .yearFrom,
    f.year.finite?.map .year].filterMap id

end Filters

end FilmQuery
