import FilmQuery.Number.Shortest
import FilmQuery.Text.Basic

/-!
# How numbers are written

A double is written with its shortest digits: in positional notation if its first digit stands at
a power of ten from -4 to 15, with a fraction always present, and otherwise with an exponent that
has a sign and at least two digits. In a query a number that is an integer is written as one.
-/

namespace FilmQuery.Binary64

/-- Puts `digits` and zeros around the decimal point, `point` places after the first digit. -/
def positional (digits : Text) (point : Int) : Text :=
  if point ≤ 0 then
    lit "0." ++ List.replicate (-point).toNat '0'.toNat ++ digits
  else
    let whole := digits.take point.toNat
    let fraction := digits.drop point.toNat
    whole ++ List.replicate (point.toNat - digits.length) '0'.toNat ++ lit "."
      ++ (if fraction.isEmpty then lit "0" else fraction)

/-- One digit, the other digits after a point, and the exponent of the first digit. -/
def scientific (digits : Text) (exponent : Int) : Text :=
  let e := Text.ofNat exponent.natAbs
  digits.take 1 ++ (if digits.length ≤ 1 then [] else lit "." ++ digits.drop 1)
    ++ lit "e" ++ (if exponent < 0 then lit "-" else lit "+")
    ++ (if e.length < 2 then lit "0" ++ e else e)

/-- The text of a positive number `m * 2 ^ q`. -/
def displayPositive (m : Nat) (q : Int) : Text :=
  let (d, e) := shortest m q
  let digits := Text.ofNat d
  let exponent : Int := e + digits.length - 1
  if -4 ≤ exponent ∧ exponent < 16 then positional digits (exponent + 1)
  else scientific digits exponent

/-- The shortest text that reads back as the number. -/
def display : Binary64 → Text
  | finite negative m q =>
    (if negative then lit "-" else [])
      ++ (if m = 0 then lit "0.0" else displayPositive m q)
  | infinite negative => if negative then lit "-inf" else lit "inf"
  | nan => lit "nan"

/-- The number literal of a query: an integer in full where the number is one. -/
def literal (x : Binary64) : Text :=
  if x.isIntegral then Text.ofInt (x.truncate?.getD 0) else x.display

end FilmQuery.Binary64
