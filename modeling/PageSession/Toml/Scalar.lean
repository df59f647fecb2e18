import PageSession.Toml.Moment
import PageSession.Toml.Quantity

/-!
Scalars of a TOML document: texts in four kinds of quotes, numbers, truth values and moments in
time. A reader takes the scalar at the front of a list of characters and returns the characters
behind it; its budget is at least the number of characters.
-/
namespace PageSession.Toml
open Json

inductive Scalar where
  | text (s : String)
  | number (q : Quantity)
  | bool (b : Bool)
  /-- A date, a time or both, in its normal form. -/
  | moment (form : String)
  deriving DecidableEq, Repr

/-- What may stand in comments and between quotes: a tab, or a character that is no control. -/
def isPlain (c : Char) : Bool := c = '\t' || (' ' ≤ c && c ≠ '\x7f')

/-! ## Texts between quotes -/

/-- A character from its number in hexadecimal digits. -/
def charOf? (digits : List Char) : Option Char := do
  let values ← digits.mapM hexDigit?
  let number := values.foldl (fun n digit => 16 * n + digit) 0
  if number.isValidChar then some (Char.ofNat number) else none

/-- The character that an escape behind its backslash stands for. -/
def escape? : List Char → Option (Char × List Char)
  | 'b' :: rest => some ('\x08', rest)
  | 't' :: rest => some ('\t', rest)
  | 'n' :: rest => some ('\n', rest)
  | 'f' :: rest => some ('\x0c', rest)
  | 'r' :: rest => some ('\r', rest)
  | 'e' :: rest => some ('\x1b', rest)
  | '"' :: rest => some ('"', rest)
  | '\\' :: rest => some ('\\', rest)
  | c :: rest =>
    let width := if c = 'x' then 2 else if c = 'u' then 4 else if c = 'U' then 8 else 0
    if width = 0 || rest.length < width then none
    else (charOf? (rest.take width)).map (·, rest.drop width)
  | [] => none

/-- A text on one line, behind its opening quote. -/
def basicText? : Nat → List Char → List Char → Option (List Char × List Char)
  | 0, _, _ => none
  | _ + 1, _, [] => none
  | _ + 1, done, '"' :: rest => some (done.reverse, rest)
  | budget + 1, done, '\\' :: rest => do
    let (c, rest) ← escape? rest
    basicText? budget (c :: done) rest
  | budget + 1, done, c :: rest => if isPlain c then basicText? budget (c :: done) rest else none

/-- A text on one line that knows no escapes. -/
def literalText? : List Char → List Char → Option (List Char × List Char)
  | _, [] => none
  | done, '\'' :: rest => some (done.reverse, rest)
  | done, c :: rest => if isPlain c then literalText? (c :: done) rest else none

/-- The characters behind the end of a line. -/
def newline? : List Char → Option (List Char)
  | '\n' :: rest => some rest
  | '\r' :: '\n' :: rest => some rest
  | _ => none

def isBlank (c : Char) : Bool := c = ' ' || c = '\t'

/-- Skips blanks and ends of lines. -/
def skipLines : Nat → List Char → List Char
  | 0, cs => cs
  | budget + 1, cs =>
    let behind := cs.dropWhile isBlank
    match newline? behind with
    | some rest => skipLines budget rest
    | none => behind

/-- Where a text goes on behind a backslash that ends a line. -/
def continuation? (budget : Nat) (cs : List Char) : Option (List Char) :=
  (newline? (cs.dropWhile isBlank)).map (skipLines budget)

/-- The end of a text over several lines, at three of its quotes: as many as two more quotes
belong to the text. -/
def closing? (quote : Char) : List Char → Option (List Char × List Char)
  | a :: b :: c :: rest =>
    if a = quote && b = quote && c = quote then
      let more := ((rest.takeWhile (· = quote)).take 2)
      some (more, rest.drop more.length)
    else none
  | _ => none

/-- A text over several lines, behind its opening quotes; with `escapes` a backslash is special. -/
def blockText? (quote : Char) (escapes : Bool) :
    Nat → List Char → List Char → Option (List Char × List Char)
  | 0, _, _ => none
  | budget + 1, done, cs =>
    match closing? quote cs with
    | some (more, rest) => some (done.reverse ++ more, rest)
    | none =>
      match cs with
      | [] => none
      | '\r' :: '\n' :: rest => blockText? quote escapes budget ('\n' :: '\r' :: done) rest
      | c :: rest =>
        if c = '\\' && escapes then
          match continuation? budget rest with
          | some rest => blockText? quote escapes budget done rest
          | none => do
            let (c, rest) ← escape? rest
            blockText? quote escapes budget (c :: done) rest
        else if isPlain c || c = '\n' then blockText? quote escapes budget (c :: done) rest
        else none

/-- A newline right behind the opening quotes does not belong to the text. -/
def trimFirst (cs : List Char) : List Char := (newline? cs).getD cs

/-- A text that may be a key: on one line. -/
def lineText? (budget : Nat) : List Char → Option (String × List Char)
  | '"' :: rest => (basicText? budget [] rest).map fun (s, rest) => (String.ofList s, rest)
  | '\'' :: rest => (literalText? [] rest).map fun (s, rest) => (String.ofList s, rest)
  | _ => none

def anyText? (budget : Nat) : List Char → Option (String × List Char)
  | '"' :: '"' :: '"' :: rest =>
    (blockText? '"' true budget [] (trimFirst rest)).map fun (s, rest) => (String.ofList s, rest)
  | '\'' :: '\'' :: '\'' :: rest =>
    (blockText? '\'' false budget [] (trimFirst rest)).map fun (s, rest) => (String.ofList s, rest)
  | cs => lineText? budget cs

/-! ## Words -/

/-- A character of a scalar without quotes: one that has no meaning of its own between scalars. -/
def isWordChar (c : Char) : Bool :=
  !(isBlank c || c = '\n' || c = '\r' || c = '=' || c = ',' || c = '#' || c = '[' || c = ']' ||
    c = '{' || c = '}')

/-- The characters of a scalar without quotes. A date and the time behind a blank are one scalar. -/
def word (cs : List Char) : List Char × List Char :=
  let (first, behind) := cs.span isWordChar
  match behind with
  | ' ' :: c :: rest =>
    if isDate first && c.isDigit then
      let (second, behind) := (c :: rest).span isWordChar
      (first ++ ' ' :: second, behind)
    else (first, behind)
  | _ => (first, behind)

def wordValue? (cs : List Char) : Option Scalar :=
  if cs = ['t', 'r', 'u', 'e'] then some (.bool true)
  else if cs = ['f', 'a', 'l', 's', 'e'] then some (.bool false)
  else ((quantity? cs).map .number).or ((moment? cs).map .moment)

/-- The scalar at the front of some characters. -/
def scalar? (budget : Nat) (cs : List Char) : Option (Scalar × List Char) :=
  match anyText? budget cs with
  | some (s, rest) => some (.text s, rest)
  | none =>
    let (first, behind) := word cs
    (wordValue? first).map (·, behind)

end PageSession.Toml
