import FilmQuery.Text.Printable

/-!
# Quoted form

A text shown inside a message or inside another value stands between quotes. Single quotes are
used unless the text holds a single quote and no double quote. A backslash and the quote in use
are escaped, tab, line feed and carriage return have short escapes, and what is not printable is
given by its code point in two, four or eight hexadecimal digits.
-/

namespace FilmQuery

/-- The low `n` hexadecimal digits of a number, in lower case. -/
def hexDigits : (n value : Nat) → Text
  | 0, _ => []
  | n + 1, value =>
    hexDigits n (value / 16) ++ [(Nat.digitChar (value % 16)).toNat]

namespace Text

/-- The quote that surrounds `t`. -/
def quoteOf (t : Text) : CodePoint :=
  if t.contains 0x27 && !t.contains '"'.toNat then '"'.toNat else 0x27

/-- One code point inside quotes `q`. -/
def quotedPoint (q c : CodePoint) : Text :=
  if c = q ∨ c = '\\'.toNat then ['\\'.toNat, c]
  else if c = 9 then lit "\\t"
  else if c = 10 then lit "\\n"
  else if c = 13 then lit "\\r"
  else if isPrintable c then [c]
  else if c < 0x100 then lit "\\x" ++ hexDigits 2 c
  else if c < 0x10000 then lit "\\u" ++ hexDigits 4 c
  else lit "\\U" ++ hexDigits 8 c

/-- The quoted form of a text. -/
def quoted (t : Text) : Text :=
  let q := quoteOf t
  q :: t.flatMap (quotedPoint q) ++ [q]

end Text

end FilmQuery
