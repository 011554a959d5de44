import FilmQuery.Number.Binary64
import FilmQuery.Text.Blank
import FilmQuery.Text.Digit
import FilmQuery.Text.Fold

/-!
# Numerals

Reading numbers from text. White space around a numeral is skipped, digits may be of any script,
and single low lines may stand between digits. A whole numeral has digits with an optional sign; a
real numeral may have a point and an exponent, or name infinity or not-a-number in any case.
-/

namespace FilmQuery

/-- Integers of more digits than this are not converted from text. -/
def maxDigits : Nat := 4300

/-- An integer had too many digits to be converted. -/
structure DigitLimit where
  digits : Nat
  deriving DecidableEq, Repr

/-- The wording of the refusal. -/
def DigitLimit.message (e : DigitLimit) : Text :=
  lit "Exceeds the limit (4300 digits) for integer string conversion: value has "
    ++ Text.ofNat e.digits
    ++ lit " digits; use sys.set_int_max_str_digits() to increase the limit"

namespace Numeral

/-- Digits of any script become ASCII digits and white space beyond ASCII becomes a space. -/
def plain (t : Text) : Text :=
  t.map fun c =>
    if c < 0x80 then c
    else if isWhite c then 0x20
    else
      match digitValue? c with
      | some d => '0'.toNat + d
      | none => c

/-- The sign in front of a numeral. -/
def sign : Text → Bool × Text
  | c :: t =>
    if c = '-'.toNat then (true, t) else if c = '+'.toNat then (false, t) else (false, c :: t)
  | [] => (false, [])

/-- Drops low lines, provided that each stands between two digits. -/
def ungroup? : (before : Option CodePoint) → Text → Option Text
  | before, [] => if before = some '_'.toNat then none else some []
  | before, c :: t =>
    if c = '_'.toNat then
      if before.any isAsciiDigit then ungroup? (some c) t else none
    else if before = some '_'.toNat && !isAsciiDigit c then none
    else (ungroup? (some c) t).map (c :: ·)

/-- The run of ASCII digits in front of a text, and the rest. -/
def digits (t : Text) : Text × Text := t.span isAsciiDigit

/-- The exponent part of a real numeral: nothing, or `e` with an optional sign and digits. -/
def exponent? : Text → Option Int
  | [] => some 0
  | c :: t =>
    if c = 'e'.toNat ∨ c = 'E'.toNat then
      let (negative, t) := sign t
      let (ds, rest) := digits t
      if ds.isEmpty || !rest.isEmpty then none
      else
        let n : Nat := Text.decimalValue ds
        some (if negative then -n else n)
    else none

/-- The value of an unsigned decimal: digits with an optional point, and an optional exponent. -/
def decimal? (negative : Bool) (t : Text) : Option Binary64 :=
  let (whole, t) := digits t
  let (fraction, t) :=
    match t with
    | c :: r => if c = '.'.toNat then digits r else ([], c :: r)
    | [] => ([], [])
  if whole.isEmpty && fraction.isEmpty then none
  else
    (exponent? t).map fun e =>
      Binary64.ofDecimal negative (Text.decimalValue (whole ++ fraction)) (e - fraction.length)

/-- The value of a sign and a decimal or a name. -/
def real? (t : Text) : Option Binary64 :=
  let (negative, t) := sign t
  let name := t.map fun c => if isUpperAscii c then c + 0x20 else c
  if name = lit "inf" ∨ name = lit "infinity" then some (.infinite negative)
  else if name = lit "nan" then some .nan
  else decimal? negative t

/-- The double that a text names. -/
def readReal? (t : Text) : Option Binary64 :=
  (ungroup? none (Text.trim isWhite (plain t))).bind real?

/-- The integer that a text names; `DigitLimit` where it names one that is too long. -/
def readInt? (t : Text) : Except DigitLimit (Option Int) :=
  let (negative, t) := sign (Text.trim isWhite (plain t))
  match ungroup? none t with
  | none => .ok none
  | some ds =>
    if ds.isEmpty || !ds.all isAsciiDigit then .ok none
    else if maxDigits < ds.length then .error ⟨ds.length⟩
    else
      let n : Nat := Text.decimalValue ds
      .ok (some (if negative then -n else n))

/-- The value of a run of digits, if there are not too many. -/
def readNat (ds : Text) : Except DigitLimit Nat :=
  if maxDigits < ds.length then .error ⟨ds.length⟩ else .ok (Text.decimalValue ds)

end Numeral

end FilmQuery
