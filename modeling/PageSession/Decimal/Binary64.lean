/-!
Finite binary floating-point numbers of 64 bits, as an exact magnitude with a sign.
Every operation here rounds one exact ratio to the nearest representable number, a tie going to
the even significand, and says when the result is too large to be finite.
-/
namespace PageSession.Decimal

/-- The number ±significand · 2 ^ scale / 2 ^ 1074. Numbers made by `Binary64.nearest?` have a
significand below 2 ^ 53, and at least 2 ^ 52 unless the scale is zero. -/
structure Binary64 where
  negative : Bool
  significand : Nat
  scale : Nat
  deriving DecidableEq, Repr

/-- A quotient rounded to the nearest whole number, a tie going to the even one. -/
def roundDiv (num den : Nat) : Nat :=
  let floor := num / den
  let twice := 2 * (num % den)
  if twice < den then floor
  else if den < twice then floor + 1
  else if floor % 2 = 0 then floor else floor + 1

namespace Binary64

def zero : Binary64 := ⟨false, 0, 0⟩

def isZero (x : Binary64) : Bool := x.significand = 0

/-- The nearest number to `num / den`, unless that is beyond the largest finite one. -/
def nearest? (num den : Nat) : Option Binary64 :=
  let units := num * Nat.pow 2 1074
  let scale := (units / den).log2 - 52
  let significand := roundDiv units (den * Nat.pow 2 scale)
  let (significand, scale) :=
    if significand = Nat.pow 2 53 then (Nat.pow 2 52, scale + 1) else (significand, scale)
  if 2045 < scale then none else some ⟨false, significand, scale⟩

def times? (x y : Binary64) : Option Binary64 :=
  (nearest? (x.significand * y.significand * Nat.pow 2 (x.scale + y.scale)) (Nat.pow 2 2148)).map
    fun z => { z with negative := x.negative != y.negative }

/-- The quotient by a number other than zero. -/
def over? (x y : Binary64) : Option Binary64 :=
  (nearest? (x.significand * Nat.pow 2 x.scale) (y.significand * Nat.pow 2 y.scale)).map
    fun z => { z with negative := x.negative != y.negative }

/-- The nearest number to a power of ten. -/
def tenTo? (n : Nat) : Option Binary64 := nearest? (Nat.pow 10 n) 1

/-- A number scaled by a power of ten, in steps of at most 308 powers with one rounding each. -/
def scaleTen? (x : Binary64) (exponent : Int) : Option Binary64 :=
  if 0 ≤ exponent then
    if exponent ≤ 308 then (tenTo? exponent.toNat).bind x.times?
    else if x.isZero then some x else none
  else if -308 ≤ exponent then (tenTo? (-exponent).toNat).bind x.over?
  else if x.isZero then some x
  else ((tenTo? 308).bind x.over?).bind fun y => y.scaleTen? (exponent + 308)
termination_by exponent.natAbs
decreasing_by omega

end Binary64
end PageSession.Decimal
