import FilmQuery.Number.Numeral

/-!
# Spans of time in settings

A timeout is a positive number of seconds, infinity included, as a decimal in ASCII digits. Single
low lines may separate its characters.
-/

namespace FilmQuery.Seconds

/-- A text with its low lines dropped, if it has any: single ones, and not at its ends. -/
def ungroup? (t : Text) : Option Text :=
  let line := '_'.toNat
  if t.contains line && t.head? != some line && t.getLast? != some line
      && !(t.zip t.tail).contains (line, line) then
    some (t.filter (· != line))
  else none

/-- The double that a text names. -/
def read? (t : Text) : Option Binary64 :=
  (Numeral.real? (Text.trim isWhite t)).or ((ungroup? t).bind Numeral.real?)

end FilmQuery.Seconds
