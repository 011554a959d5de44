import FilmQuery.Number.Binary64

/-!
# Shortest digits

The fewest decimal digits that read back as a given finite number, and of those the decimal nearest
to it, a tie going to the even last digit. The numbers that read back as `m * 2 ^ q` form an
interval around it, half a unit to each side (a quarter below a power of two), with its ends if `m`
is even. For one digit, two digits and so on up to seventeen the two neighbours on that decimal
grid are tried; seventeen digits always suffice.
-/

namespace FilmQuery.Binary64

/-- A rational number `num / den`. -/
structure Ratio where
  num : Nat
  den : Nat

namespace Ratio

/-- The rational `n * 2 ^ q`. -/
def ofBinary (n : Nat) (q : Int) : Ratio := ⟨n * Nat.pow 2 q.toNat, Nat.pow 2 (-q).toNat⟩

/-- The rational `n * 10 ^ e`. -/
def ofDecimal (n : Nat) (e : Int) : Ratio := ⟨n * Nat.pow 10 e.toNat, Nat.pow 10 (-e).toNat⟩

def blt (x y : Ratio) : Bool := x.num * y.den < y.num * x.den

def ble (x y : Ratio) : Bool := x.num * y.den ≤ y.num * x.den

/-- The integer part of `x / (10 ^ e)`. -/
def floorAt (x : Ratio) (e : Int) : Nat :=
  x.num * Nat.pow 10 (-e).toNat / (x.den * Nat.pow 10 e.toNat)

end Ratio

/-- The lower end of the interval of `m * 2 ^ q`. -/
def lowerEnd (m : Nat) (q : Int) : Ratio :=
  .ofBinary (if m = Nat.pow 2 52 ∧ q ≠ minExponent then 4 * m - 1 else 4 * m - 2) (q - 2)

/-- The upper end of the interval of `m * 2 ^ q`. -/
def upperEnd (m : Nat) (q : Int) : Ratio := .ofBinary (4 * m + 2) (q - 2)

/-- Whether the decimal `n * 10 ^ e` rounds to `m * 2 ^ q`. -/
def reads (m : Nat) (q : Int) (n : Nat) (e : Int) : Bool :=
  let x := Ratio.ofDecimal n e
  if m % 2 = 0 then (lowerEnd m q).ble x && x.ble (upperEnd m q)
  else (lowerEnd m q).blt x && x.blt (upperEnd m q)

/-- The decimal exponent `k` with `10 ^ k ≤ x < 10 ^ (k + 1)`, found from an estimate by bits. -/
def floorLog10 (x : Ratio) : Int :=
  let guess : Int := (floorLog2 x.num x.den) * 30103 / 100000
  if (Ratio.ofDecimal 1 (guess + 1)).ble x then guess + 1
  else if (Ratio.ofDecimal 1 guess).ble x then guess
  else guess - 1

/-- The neighbours of `m * 2 ^ q` on the grid of multiples of `10 ^ e`: the one that reads back,
or the nearer if both do. -/
def onGrid? (m : Nat) (q : Int) (e : Int) : Option Nat :=
  let x := Ratio.ofBinary m q
  let low := x.floorAt e
  match reads m q low e, reads m q (low + 1) e with
  | true, true =>
    -- the middle of the two neighbours is `(2 * low + 1) * 10 ^ e / 2`
    let twice : Ratio := ⟨2 * x.num, x.den⟩
    let middle := Ratio.ofDecimal (2 * low + 1) e
    if twice.blt middle then some low
    else if middle.blt twice then some (low + 1)
    else if low % 2 = 0 then some low else some (low + 1)
  | true, false => some low
  | false, true => some (low + 1)
  | false, false => none

/-- Tries the grids of `n`, `n + 1`, ... digits, where `k` is the exponent of the first digit. -/
def searchGrids (m : Nat) (q k : Int) : (tries : Nat) → (n : Nat) → Nat × Int
  | 0, n => ((Ratio.ofBinary m q).floorAt (k - n), k - n)
  | tries + 1, n =>
    match onGrid? m q (k - n) with
    | some d => (d, k - n)
    | none => searchGrids m q k tries (n + 1)

/-- Moves zeros at the end of the digits into the exponent. -/
def dropZeros : (fuel : Nat) → (digits : Nat) → (e : Int) → Nat × Int
  | 0, d, e => (d, e)
  | fuel + 1, d, e => if d % 10 = 0 then dropZeros fuel (d / 10) (e + 1) else (d, e)

/-- Digits `d` and exponent `e` such that `d * 10 ^ e` is the shortest decimal for the positive
number `m * 2 ^ q`. -/
def shortest (m : Nat) (q : Int) : Nat × Int :=
  let k := floorLog10 (Ratio.ofBinary m q)
  let (d, e) := searchGrids m q k 17 0
  dropZeros 17 d e

end FilmQuery.Binary64
