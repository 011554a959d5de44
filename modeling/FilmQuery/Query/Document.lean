import FilmQuery.Query.Field
import FilmQuery.Query.Filter

/-!
# Queries

A query asks for the movies that pass a list of predicates, and for a selection of their fields.
-/

namespace FilmQuery

structure Query where
  predicates : List Predicate
  selection : List Field
  deriving DecidableEq, Repr

namespace Query

/-- The query of an intent. -/
def ofIntent (i : Intent) : Query := ⟨i.filters.predicates, Field.selected i.fields⟩

/-- The filter object, if there is anything to filter by. -/
def filterObject? (q : Query) : Option Text :=
  match q.predicates with
  | [] => none
  | ps => some (lit "\x7b " ++ Text.join (lit ", ") (ps.map Predicate.render) ++ lit " \x7d")

def selectionText (q : Query) : Text := Field.renderAll q.selection

/-- The document that is sent to the movie store. -/
def document (q : Query) : Text :=
  let argument :=
    match q.filterObject? with
    | some object => lit "(where: " ++ object ++ lit ")"
    | none => []
  lit "query \x7b movies" ++ argument ++ lit " \x7b " ++ q.selectionText ++ lit " \x7d \x7d"

end Query

end FilmQuery
