import PageSession.Decimal.Shortest

/-!
Numbers of a JSON text: the numeral as it is written, and the number it stands for. Whole numbers
of 64 bits, signed or unsigned, stay exact; every other number is a binary one.
-/
namespace PageSession.Json
open Decimal

/-- A number as written: its digits before and after the point, and its power of ten. -/
structure Numeral where
  negative : Bool := false
  whole : List Char
  fraction : List Char := []
  exponent : Option Int := none
  deriving DecidableEq, Repr

inductive Number where
  | integer (n : Int)
  | float (x : Binary64)
  deriving DecidableEq, Repr

def unsignedLimit : Nat := UInt64.size

/-- Appends digits to a significand while it fits into 64 bits, and returns the digits left. -/
def gather (significand : Nat) : List Char → Nat × List Char
  | [] => (significand, [])
  | digit :: rest =>
    let next := significand * 10 + (digit.toNat - '0'.toNat)
    if next < unsignedLimit then gather next rest else (significand, digit :: rest)

/-- The binary number of a numeral: at most 64 bits of its digits, scaled by the power of ten that
the remaining digits and the exponent call for. None when it is too large to be finite. -/
def Numeral.float? (n : Numeral) : Option Binary64 :=
  let (significand, dropped) := gather 0 n.whole
  let (significand, ignored) := gather significand n.fraction
  let exponent := n.exponent.getD 0 + dropped.length - (n.fraction.length - ignored.length : Nat)
  (Binary64.nearest? significand 1).bind fun x =>
    (x.scaleTen? exponent).map fun y => { y with negative := n.negative }

/-- The number a numeral stands for. Minus zero is a binary number. -/
def Numeral.number? (n : Numeral) : Option Number :=
  let (significand, dropped) := gather 0 n.whole
  if n.fraction.isEmpty && n.exponent.isNone && dropped.isEmpty then
    if !n.negative then some (.integer significand)
    else if 0 < significand && significand ≤ unsignedLimit / 2 then some (.integer (-significand))
    else n.float?.map .float
  else n.float?.map .float

/-- Binary numbers are written positionally while the exponent of the leading digit is from -5 to
15, and always show a point or an exponent with its sign. -/
def Numeral.ofFloat (x : Binary64) : Numeral :=
  if x.isZero then { negative := x.negative, whole := ['0'], fraction := ['0'] }
  else
    let short := x.shortest
    let places := short.exponent.toNat + 1
    if short.exponent < -5 ∨ 15 < short.exponent then
      { negative := x.negative, whole := short.digits.take 1, fraction := short.digits.drop 1
        exponent := some short.exponent }
    else if short.exponent < 0 then
      { negative := x.negative, whole := ['0']
        fraction := List.replicate (-short.exponent - 1).toNat '0' ++ short.digits }
    else
      let fraction := short.digits.drop places
      { negative := x.negative
        whole := short.digits.take places ++ List.replicate (places - short.digits.length) '0'
        fraction := if fraction.isEmpty then ['0'] else fraction }

/-- The numeral a number is written as. -/
def Number.numeral : Number → Numeral
  | .integer n => { negative := n < 0, whole := decimalDigits n.natAbs }
  | .float x => .ofFloat x

def exponentText : Option Int → String
  | none => ""
  | some e => (if e < 0 then "e-" else "e+") ++ String.ofList (decimalDigits e.natAbs)

def Numeral.text (n : Numeral) : String :=
  (if n.negative then "-" else "") ++ String.ofList n.whole ++
    (if n.fraction.isEmpty then "" else "." ++ String.ofList n.fraction) ++ exponentText n.exponent

def Number.text (n : Number) : String := n.numeral.text

end PageSession.Json
