import FilmQuery.Json.Value
import FilmQuery.Number.Numeral

/-!
# Finite numbers

A year or a rating value is used only if it is a number: an integer, a double, or a text naming
one. What is not finite, and an integer that no finite double is near to, is not used.
-/

namespace FilmQuery.Json

/-- The double that a value stands for, finite or not. -/
def toReal? : Json → Option Binary64
  | .number (.int i) => some (.ofInt i)
  | .number (.real x) => some x
  | .string t => if t.isAllBlank then none else Numeral.readReal? t
  | _ => none

/-- The finite double that a value stands for. -/
def finite? (j : Json) : Option Binary64 := j.toReal?.filter Binary64.isFinite

end FilmQuery.Json
