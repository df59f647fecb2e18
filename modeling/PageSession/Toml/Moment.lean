import PageSession.Json.Token

/-!
Moments of a TOML document: a date, a time of day, or both with the offset of a clock. A moment is
known by its normal form: a capital letter between date and time, at most nine places of a second
without needless zeros, and a plus before an offset of nothing.
-/
namespace PageSession.Toml
open Json

def daysIn (year month : Nat) : Nat :=
  if month = 2 then
    if year % 4 = 0 && (year % 100 ≠ 0 || year % 400 = 0) then 29 else 28
  else if month = 4 || month = 6 || month = 9 || month = 11 then 30
  else 31

def isPair (a b : Char) : Bool := a.isDigit && b.isDigit

/-- A day of the calendar, as year-month-day. -/
def isDate : List Char → Bool
  | [a, b, c, d, '-', e, f, '-', g, h] =>
    let day := ofDigits [g, h]
    let month := ofDigits [e, f]
    isPair a b && isPair c d && isPair e f && isPair g h && 1 ≤ month && month ≤ 12 && 1 ≤ day &&
      day ≤ daysIn (ofDigits [a, b, c, d]) month
  | _ => false

/-- The places of a second: nine at most, without zeros at the end, but never none. -/
def places (digits : List Char) : List Char :=
  let kept := ((digits.take 9).reverse.dropWhile (· = '0')).reverse
  if kept.isEmpty then ['0'] else kept

/-- What follows the seconds. -/
def fraction? : List Char → Option (List Char)
  | [] => some []
  | '.' :: digits =>
    if digits.isEmpty || !digits.all Char.isDigit then none else some ('.' :: places digits)
  | _ => none

/-- A time of day in its normal form: seconds and their fraction may be missing. -/
def time? : List Char → Option (List Char)
  | a :: b :: ':' :: c :: d :: rest =>
    if isPair a b && isPair c d && ofDigits [a, b] ≤ 23 && ofDigits [c, d] ≤ 59 then
      match rest with
      | [] => some [a, b, ':', c, d]
      | ':' :: e :: f :: rest =>
        if isPair e f && ofDigits [e, f] ≤ 60 then
          (fraction? rest).map fun fraction => [a, b, ':', c, d, ':', e, f] ++ fraction
        else none
      | _ => none
    else none
  | _ => none

/-- The distance of a clock from universal time, with its sign. -/
def offset? : List Char → Option (List Char)
  | ['Z'] | ['z'] => some ['Z']
  | [sign, a, b, ':', c, d] =>
    let hours := ofDigits [a, b]
    let minutes := ofDigits [c, d]
    if (sign = '+' || sign = '-') && isPair a b && isPair c d && hours ≤ 23 && minutes ≤ 59 then
      some [if hours = 0 && minutes = 0 then '+' else sign, a, b, ':', c, d]
    else none
  | _ => none

/-- A time of day with the offset of its clock. -/
def offsetTime? (cs : List Char) : Option (List Char) := do
  let (clock, offset) := cs.span fun c => c.isDigit || c = ':' || c = '.'
  let time ← time? clock
  if offset.isEmpty then pure time else pure (time ++ (← offset? offset))

/-- The normal form of a date, of a time of day, or of a date and a time with a letter or a blank
between them. -/
def moment? (cs : List Char) : Option String :=
  let date := cs.take 10
  if isDate date then
    match cs.drop 10 with
    | [] => some (String.ofList date)
    | c :: rest =>
      if c = 'T' || c = 't' || c = ' ' then
        (offsetTime? rest).map fun time => String.ofList (date ++ 'T' :: time)
      else none
  else (time? cs).map String.ofList

end PageSession.Toml
