import PageSession.Decimal.Binary64

/-!
The shortest decimal of a binary number: the fewest digits that read back as the same number,
and among those the nearest to it.
-/
namespace PageSession.Decimal

/-- A decimal number: `digits` with the point after the first one, times 10 ^ `exponent`. -/
structure Scientific where
  digits : List Char
  exponent : Int
  deriving DecidableEq, Repr

def decimalDigits (n : Nat) : List Char := Nat.toDigits 10 n

/-- The exponent of the leading digit of `num / den`. -/
def leadingExponent (num den : Nat) : Int :=
  if den ≤ num then (decimalDigits (num / den)).length - 1
  else
    let length := (decimalDigits (den / num)).length
    if num * Nat.pow 10 (length - 1) = den then 1 - (length : Int) else -(length : Int)

/-- The magnitudes that round to a positive number: four times the number and its two ends,
in units of 2 ^ scale / 2 ^ 1076. -/
structure RoundingInterval where
  low : Nat
  middle : Nat
  high : Nat
  endsIncluded : Bool

def Binary64.interval (x : Binary64) : RoundingInterval :=
  { low := 4 * x.significand - (if x.significand = Nat.pow 2 52 ∧ 0 < x.scale then 1 else 2)
    middle := 4 * x.significand
    high := 4 * x.significand + 2
    endsIncluded := x.significand % 2 = 0 }

/-- Whether `num / den` lies in the interval. -/
def RoundingInterval.holds (interval : RoundingInterval) (scale num den : Nat) : Bool :=
  let value := num * Nat.pow 2 1076
  let unit := den * Nat.pow 2 scale
  if interval.endsIncluded then interval.low * unit ≤ value && value ≤ interval.high * unit
  else interval.low * unit < value && value < interval.high * unit

/-- The nearest multiple of 10 ^ `place` inside the interval of a number, if there is one. -/
def Binary64.onGrid? (x : Binary64) (place : Int) : Option Nat :=
  let up := Nat.pow 10 place.toNat
  let down := Nat.pow 10 (-place).toNat
  let num := x.significand * Nat.pow 2 x.scale * down
  let den := Nat.pow 2 1074 * up
  let nearest := roundDiv num den
  let floor := num / den
  let other := if nearest = floor then floor + 1 else floor
  [nearest, other].find? fun n => 0 < n && x.interval.holds x.scale (n * up) down

/-- The shortest decimal of a number other than zero; the sign is left out. Seventeen digits
always suffice, so the last alternative is never taken. -/
def Binary64.shortest (x : Binary64) : Scientific :=
  let leading := leadingExponent (x.significand * Nat.pow 2 x.scale) (Nat.pow 2 1074)
  let found := (List.range 17).findSome? fun (extra : Nat) =>
    (x.onGrid? (leading - extra)).map fun n => (n, leading - (extra : Int))
  match found with
  | some (n, place) =>
    let digits := decimalDigits n
    { digits := (digits.reverse.dropWhile (· = '0')).reverse
      exponent := place + digits.length - 1 }
  | none => { digits := ['0'], exponent := 0 }

end PageSession.Decimal
