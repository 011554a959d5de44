/-!
# Binary64

The double-precision numbers, held by sign, mantissa and exponent so that every law about them is a
law of natural numbers. A finite number is `m * 2 ^ q` with its sign. Rounding goes to the nearest
number with 53 bits, a tie to the even mantissa, and overflows to infinity; between zero and the
least normal number the exponent stays at -1074. Zero keeps its sign. Powers are `Nat.pow`, which
means the same whatever else is imported.
-/

namespace FilmQuery

inductive Binary64 where
  | finite (negative : Bool) (m : Nat) (q : Int)
  | infinite (negative : Bool)
  | nan
  deriving DecidableEq, Repr

namespace Binary64

/-- The least exponent of a finite number. -/
def minExponent : Int := -1074

/-- The greatest exponent of a finite number. -/
def maxExponent : Int := 971

/-- What rounding leaves: a full mantissa, or a smaller one at the least exponent. -/
def IsCanonical : Binary64 → Prop
  | finite _ m q =>
    m < Nat.pow 2 53 ∧ minExponent ≤ q ∧ q ≤ maxExponent ∧ (Nat.pow 2 52 ≤ m ∨ q = minExponent)
  | infinite _ | nan => True

/-- The natural number nearest to `a / b`, a tie to the even one. -/
def divEven (a b : Nat) : Nat :=
  let d := a / b
  let r := a % b
  if 2 * r < b then d
  else if b < 2 * r then d + 1
  else if d % 2 = 0 then d else d + 1

/-- The ratio `num / den` scaled by `2 ^ -q`, as numerator and denominator. -/
def scaled (num den : Nat) (q : Int) : Nat × Nat :=
  (num * Nat.pow 2 (-q).toNat, den * Nat.pow 2 q.toNat)

/-- The exponent of the greatest power of two that is at most `num / den`. -/
def floorLog2 (num den : Nat) : Int :=
  let k : Int := num.log2 - den.log2
  let (a, b) := scaled num den k
  if b ≤ a then k else k - 1

/-- A mantissa that rounding carried to 54 bits, and an exponent that may be too great. -/
def normalize (negative : Bool) (m : Nat) (q : Int) : Binary64 :=
  let (m, q) := if m = Nat.pow 2 53 then (Nat.pow 2 52, q + 1) else (m, q)
  if maxExponent < q then infinite negative else finite negative m q

/-- The number nearest to `num / den`, with the sign given; `den` is positive. -/
def ofRatio (negative : Bool) (num den : Nat) : Binary64 :=
  if num = 0 then finite negative 0 minExponent
  else
    let q := max (floorLog2 num den - 52) minExponent
    let (a, b) := scaled num den q
    normalize negative (divEven a b) q

/-- The number nearest to an integer. -/
def ofInt (i : Int) : Binary64 := ofRatio (i < 0) i.natAbs 1

/-- The number nearest to `coeff * 10 ^ exp`. Exponents that lie so far out that the result is
infinite or zero whatever the digits are decided first, so that no huge power is formed. -/
def ofDecimal (negative : Bool) (coeff : Nat) (exp : Int) : Binary64 :=
  if coeff = 0 then finite negative 0 minExponent
  else if 400 ≤ exp then infinite negative
  else if exp ≤ -(400 + coeff.log2 : Int) then finite negative 0 minExponent
  else ofRatio negative (coeff * Nat.pow 10 exp.toNat) (Nat.pow 10 (-exp).toNat)

def isFinite : Binary64 → Bool
  | finite .. => true
  | infinite _ | nan => false

/-- The integer part of a finite number, toward zero. -/
def truncate? : Binary64 → Option Int
  | finite negative m q =>
    let n : Nat := m * Nat.pow 2 q.toNat / Nat.pow 2 (-q).toNat
    some (if negative then -n else n)
  | infinite _ | nan => none

/-- Whether a number is finite and an integer. -/
def isIntegral : Binary64 → Bool
  | finite _ m q => m % Nat.pow 2 (-q).toNat == 0
  | infinite _ | nan => false

/-- Whether a number is greater than zero. -/
def isPositive : Binary64 → Bool
  | finite negative m _ => !negative && m != 0
  | infinite negative => !negative
  | nan => false

/-- Whether a number is zero, of either sign. -/
def isZero : Binary64 → Bool
  | finite _ m _ => m == 0
  | infinite _ | nan => false

end Binary64

end FilmQuery
