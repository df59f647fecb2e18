import PageSession.Json.Token

/-!
Numbers of a TOML document. How a number is written and what it is worth are two questions: a
number that is written well enough may still have no value, being too large or having letters among
its digits, and this matters only to who reads it. Whole numbers have up to 128 bits; floating-point
numbers are finite unless they say that they are not.
-/
namespace PageSession.Toml
open Decimal Json

inductive Quantity where
  | integer (n : Int)
  | float (n : Numeral)
  /-- An infinity, or no number at all. -/
  | special
  /-- Written like a number, but without a value. -/
  | spoiled
  deriving DecidableEq, Repr

/-! ## Underscores -/

/-- Underscores stand behind the first character, before the last one, and never side by side.
Before one there is a digit, or the first character alone; behind one there is a digit. -/
def isGrouped (isDigit : Char → Bool) (cs : List Char) : Bool :=
  let groups := cs.splitOn '_'
  groups.length ≤ 1 ||
    (groups.all (fun group => !group.isEmpty) &&
      groups.tail.all (fun group => group.head?.any isDigit) &&
      groups.dropLast.all fun group => group.length = 1 || group.getLast?.any isDigit)

def withoutUnderscores (cs : List Char) : List Char := cs.filter (· ≠ '_')

/-! ## Whole numbers -/

/-- The value of digits in a base. -/
def natural? (base : Nat) (digits : List Char) : Option Nat :=
  if digits.isEmpty then none
  else do
    let values ← digits.mapM hexDigit?
    if values.all (· < base) then pure (values.foldl (fun n digit => base * n + digit) 0)
    else none

/-- The value of digits behind an optional sign. -/
def integer? (base : Nat) : List Char → Option Int
  | '-' :: digits => (natural? base digits).map fun n => -(n : Int)
  | '+' :: digits => (natural? base digits).map Int.ofNat
  | digits => (natural? base digits).map Int.ofNat

/-- Whole numbers have at most 128 bits, with or without a sign. -/
def fits (n : Int) : Bool := -(Nat.pow 2 127 : Nat) ≤ n && n < (Nat.pow 2 128 : Nat)

/-- What the written digits of a whole number are worth. -/
def wholeQuantity (base : Nat) (cs : List Char) : Quantity :=
  match (integer? base (withoutUnderscores cs)).filter fits with
  | some n => .integer n
  | none => .spoiled

/-- A number in a base that its letter names. It may lack its digits. -/
def based? (base : Nat) (cs : List Char) : Option Quantity :=
  if cs.all (fun c => c = '_' || (hexDigit? c).any (· < base)) && isGrouped (fun _ => true) cs then
    some (wholeQuantity base cs)
  else none

/-! ## Floating-point numbers -/

/-- Whether significand · 10 ^ exponent rounds to a finite number. -/
def isFinite (significand : Nat) (exponent : Int) : Bool :=
  let places := (decimalDigits significand).length + exponent
  if significand = 0 || places < -400 then true
  else if 400 < places then false
  else (Binary64.nearest? (significand * Nat.pow 10 exponent.toNat)
    (Nat.pow 10 (-exponent).toNat)).isSome

/-- A numeral is worth nothing when it is too large. -/
def floatQuantity (n : Numeral) : Quantity :=
  let significand := ofDigits (n.whole ++ n.fraction)
  if isFinite significand (n.exponent.getD 0 - n.fraction.length) then .float n else .spoiled

/-- The digits, one at least, of the digits and underscores at the front. -/
def digitRun? (cs : List Char) : Option (List Char × List Char) :=
  let (run, rest) := cs.span fun c => c.isDigit || c = '_'
  let digits := withoutUnderscores run
  if digits.isEmpty then none else some (digits, rest)

/-- The digits behind a point, if there is one. -/
def fractionPart? : List Char → Option (List Char × List Char)
  | '.' :: rest => digitRun? rest
  | rest => some ([], rest)

/-- The power of ten behind its letter, if there is one. -/
def exponentPart? : List Char → Option (Int × List Char)
  | 'e' :: rest | 'E' :: rest =>
    let (negative, rest) := match rest with
      | '-' :: rest => (true, rest)
      | '+' :: rest => (false, rest)
      | rest => (false, rest)
    (digitRun? rest).map fun (digits, rest) =>
      (if negative then -(ofDigits digits : Int) else ofDigits digits, rest)
  | rest => some (0, rest)

/-- A number with a point, an exponent or both, behind its sign. -/
def numeral? (negative : Bool) (cs : List Char) : Option Numeral := do
  let (whole, rest) ← digitRun? cs
  let (fraction, rest) ← fractionPart? rest
  let (exponent, rest) ← exponentPart? rest
  if rest.isEmpty && !(cs.head? = some '0' && 1 < whole.length) then
    pure { negative, whole, fraction, exponent := some exponent }
  else none

/-! ## All numbers -/

def isFloatMark (c : Char) : Bool := c = '.' || c = 'e' || c = 'E'

/-- A number in base ten, behind its sign and as a whole. A whole number begins with a digit or an
underscore, and with no zero unless it is one. -/
def decimal? (negative : Bool) (unsigned whole : List Char) : Option Quantity :=
  let behind := unsigned.dropWhile Char.isDigit
  if behind.any isFloatMark then
    if isGrouped Char.isDigit whole then (numeral? negative unsigned).map floatQuantity else none
  else if unsigned.isEmpty || !(behind.isEmpty || behind.head? = some '_') then none
  else if unsigned.head? = some '0' && unsigned ≠ ['0'] then none
  else if isGrouped (fun c => (hexDigit? c).isSome) whole then some (wholeQuantity 10 whole)
  else none

/-- Reads a number that takes all the characters. -/
def quantity? : List Char → Option Quantity
  | '0' :: 'x' :: rest => based? 16 rest
  | '0' :: 'o' :: rest => based? 8 rest
  | '0' :: 'b' :: rest => based? 2 rest
  | cs =>
    let (negative, unsigned) := match cs with
      | '-' :: rest => (true, rest)
      | '+' :: rest => (false, rest)
      | rest => (false, rest)
    if unsigned = ['i', 'n', 'f'] || unsigned = ['n', 'a', 'n'] then some .special
    else decimal? negative unsigned cs

end PageSession.Toml
