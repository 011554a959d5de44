import FilmQuery.Comparison
import FilmQuery.Intent.Basic
import FilmQuery.Number.Numeral
import FilmQuery.Question.Search

/-!
# Numbers in a question

`id 5` names a movie, `after 1999` or `from 1999` a first year, `top 5` a number of rows, and
`rating > 8` or `with rating above 8` a rating. The digits of an id and of a number of rows are
ASCII digits; years and ratings may be written with the digits of any script.
-/

namespace FilmQuery.Question

/-- The comparison signs, a longer one in front of the one that it begins with. -/
def comparisonSigns : List Text := [lit ">=", lit ">", lit "<=", lit "<", lit "="]

/-- The comparison of the longest sign that stands here, and the text after it. -/
def comparison? (t : Text) : Option (Comparison × Text) :=
  comparisonSigns.findSome? fun sign =>
    (Text.after? sign t).map fun rest => (.ofSymbol sign, rest)

/-- Digits and perhaps a point with more digits. -/
def numeral? (t : Text) : Option Binary64 :=
  match t.span isDigit with
  | ([], _) => none
  | (whole, rest) =>
    let fraction :=
      match rest with
      | c :: rest => if c = '.'.toNat then rest.takeWhile isDigit else []
      | [] => []
    some (Binary64.ofDecimal false (Text.decimalValue (whole ++ fraction)) (-fraction.length))

/-- The word `rating`, a comparison sign and a numeral. -/
def ratingComparison? : Recognizer (Comparison × Binary64) := fun _ t =>
  (Text.afterFolded? (lit "rating") t).bind fun rest =>
    (comparison? (skipBlanks rest)).bind fun (c, rest) =>
      (numeral? (skipBlanks rest)).map fun x => (c, x)

/-- The words `with rating above` or `with rating over`, and a numeral. -/
def ratingAbove? : Recognizer Binary64 := fun _ t => do
  let rest ← Text.afterFolded? (lit "with") t
  let rest ← blanks? rest
  let rest ← Text.afterFolded? (lit "rating") rest
  let rest ← blanks? rest
  let rest ← (Text.afterFolded? (lit "above") rest).or (Text.afterFolded? (lit "over") rest)
  numeral? (skipBlanks rest)

/-- The rating that a question asks for. -/
def rating? (t : Text) : Option Rating :=
  match find? ratingComparison? t with
  | some (c, x) => some ⟨some c.name, .number (.real x)⟩
  | none => (find? ratingAbove? t).map fun x => ⟨some Comparison.gt.name, .number (.real x)⟩

/-- ASCII digits that end a word. -/
def wordDigits? (t : Text) : Option Text :=
  match t.span isAsciiDigit with
  | ([], _) => none
  | (ds, rest) => if wordEnds rest then some ds else none

/-- A word that begins with a lower-case `id`, and the digits after it. -/
def idClause? : Recognizer Text := fun before t =>
  if wordStarts before then
    (Text.after? (lit "id") t).bind fun rest => wordDigits? (skipBlanks rest)
  else none

/-- The id that a question names. -/
def ids? (t : Text) : Option Text := find? idClause? t

/-- Four digits that end a word, as a number. -/
def year? (t : Text) : Option Nat :=
  let ds := t.take 4
  if ds.length = 4 && ds.all isDigit && wordEnds (t.drop 4) then some (Text.decimalValue ds)
  else none

/-- A preposition, blanks and a year. -/
def yearClause? (word : Text) : Recognizer Nat := fun before t =>
  if wordStarts before then
    (Text.afterFolded? word t).bind fun rest => (blanks? rest).bind year?
  else none

/-- The first year that a question asks for; `after` comes before `from`. -/
def yearFrom? (t : Text) : Option Nat :=
  (find? (yearClause? (lit "after")) t).or (find? (yearClause? (lit "from")) t)

/-- The word `top`, blanks and digits. -/
def topClause? : Recognizer Text := fun before t =>
  if wordStarts before then
    (Text.afterFolded? (lit "top") t).bind fun rest => (blanks? rest).bind wordDigits?
  else none

/-- The number of rows that a question asks for; it fails where it has too many digits. -/
def topN? (t : Text) : Except DigitLimit (Option Nat) :=
  match find? topClause? t with
  | none => .ok none
  | some ds => (Numeral.readNat ds).map some

end FilmQuery.Question
