import FilmQuery.Text.Blank

/-!
# Comparisons

A rating is compared with a value in one of five ways. A question writes them with signs, an intent
and a query with names. A sign or a name that is not known compares as greater.
-/

namespace FilmQuery

/-- How a rating is compared. -/
inductive Comparison where
  | gt
  | gte
  | lt
  | lte
  | eq
  deriving DecidableEq, Repr

namespace Comparison

def all : List Comparison := [gt, gte, lt, lte, eq]

/-- The name of a comparison in a query. -/
def name : Comparison → Text
  | gt => lit "GT"
  | gte => lit "GTE"
  | lt => lit "LT"
  | lte => lit "LTE"
  | eq => lit "EQ"

/-- The sign that a question uses for a comparison. -/
def symbol : Comparison → Text
  | gt => lit ">"
  | gte => lit ">="
  | lt => lit "<"
  | lte => lit "<="
  | eq => lit "="

/-- The comparison of a sign with blanks around it; any other text compares as `gt`. -/
def ofSymbol (t : Text) : Comparison :=
  (all.find? fun c => c.symbol == Text.trim isBlank t).getD gt

@[simp] theorem ofSymbol_symbol (c : Comparison) : ofSymbol c.symbol = c := by
  cases c <;> decide

/-- The comparison of a name; any other text compares as `gt`. -/
def ofName (t : Text) : Comparison := (all.find? fun c => c.name == t).getD gt

end Comparison

end FilmQuery
