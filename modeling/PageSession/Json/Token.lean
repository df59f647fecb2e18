import PageSession.Json.Number
import PageSession.Text.Glyph

/-!
Tokens of a JSON text. Reading a text into tokens does not depend on where the tokens stand;
a text between quotes that is no sequence of characters (an unpaired surrogate, a byte that belongs
to no character) is still a token, so that values nobody looks at may hold it.
-/
namespace PageSession.Json
open Text

inductive Token where
  | openObject | closeObject | openArray | closeArray | colon | comma
  | null | bool (b : Bool)
  | number (n : Numeral)
  | text (s : Option String)
  deriving DecidableEq, Repr

def isBlank (c : Char) : Bool := c = ' ' || c = '\n' || c = '\t' || c = '\r'

def isNumeralChar (c : Char) : Bool :=
  c.isDigit || c = '-' || c = '+' || c = '.' || c = 'e' || c = 'E'

/-- The longest run of glyphs that are characters with a property, and the glyphs behind it. -/
def splitRun (has : Char → Bool) : List Glyph → List Char × List Glyph
  | some c :: rest =>
    if has c then
      let (run, behind) := splitRun has rest
      (c :: run, behind)
    else ([], some c :: rest)
  | glyphs => ([], glyphs)

theorem length_splitRun (has : Char → Bool) (glyphs : List Glyph) :
    (splitRun has glyphs).2.length ≤ glyphs.length := by
  fun_induction splitRun has glyphs with
  | case1 c rest holds run behind split ih => simp [split] at ih; simp; omega
  | case2 => simp
  | case3 => simp

/-! ## Numerals -/

def ofDigits (digits : List Char) : Nat :=
  digits.foldl (fun n digit => 10 * n + (digit.toNat - '0'.toNat)) 0

def natural? (digits : List Char) : Option Nat :=
  if digits.isEmpty || !digits.all Char.isDigit then none else some (ofDigits digits)

/-- An exponent behind its letter: an optional sign and at least one digit. -/
def exponent? : List Char → Option Int
  | '-' :: digits => (natural? digits).map fun n => -(n : Int)
  | '+' :: digits => (natural? digits).map fun n => (n : Int)
  | digits => (natural? digits).map fun n => (n : Int)

/-- What may follow the digits of a numeral: nothing, or a letter and an exponent. -/
def tail? : List Char → Option (Option Int)
  | [] => some none
  | c :: rest => if c = 'e' || c = 'E' then (exponent? rest).map some else none

def unsignedNumeral? (negative : Bool) (cs : List Char) : Option Numeral :=
  let whole := cs.takeWhile Char.isDigit
  let behind := cs.dropWhile Char.isDigit
  if whole.isEmpty || (1 < whole.length && whole.head? = some '0') then none
  else match behind with
    | '.' :: rest =>
      let fraction := rest.takeWhile Char.isDigit
      if fraction.isEmpty then none
      else (tail? (rest.dropWhile Char.isDigit)).map fun e => ⟨negative, whole, fraction, e⟩
    | rest => (tail? rest).map fun e => ⟨negative, whole, [], e⟩

/-- The numeral written by a run of characters: no leading zeros, and digits on both sides of a
point. -/
def numeral? : List Char → Option Numeral
  | '-' :: rest => unsignedNumeral? true rest
  | cs => unsignedNumeral? false cs

/-! ## Texts between quotes -/

def hexDigit? (c : Char) : Option Nat :=
  if '0' ≤ c ∧ c ≤ '9' then some (c.toNat - '0'.toNat)
  else if 'a' ≤ c ∧ c ≤ 'f' then some (c.toNat - 'a'.toNat + 10)
  else if 'A' ≤ c ∧ c ≤ 'F' then some (c.toNat - 'A'.toNat + 10)
  else none

/-- A code unit of 16 bits from four hexadecimal digits. -/
def codeUnit? : Glyph → Glyph → Glyph → Glyph → Option Nat
  | some a, some b, some c, some d => do
    let a ← hexDigit? a
    let b ← hexDigit? b
    let c ← hexDigit? c
    let d ← hexDigit? d
    pure (((a * 16 + b) * 16 + c) * 16 + d)
  | _, _, _, _ => none

/-- The character that a letter behind a backslash stands for. -/
def shortEscape? : Char → Option Char
  | '"' => some '"'
  | '\\' => some '\\'
  | '/' => some '/'
  | 'b' => some '\x08'
  | 'f' => some '\x0c'
  | 'n' => some '\n'
  | 'r' => some '\r'
  | 't' => some '\t'
  | _ => none

def isLeading (unit : Nat) : Bool := 0xD800 ≤ unit && unit ≤ 0xDBFF

def isTrailing (unit : Nat) : Bool := 0xDC00 ≤ unit && unit ≤ 0xDFFF

/-- What has been read of a text: its characters, latest first, while they are characters; the
leading half of a pair that waits for its other half is kept apart. -/
structure Partial where
  done : Option (List Char) := some []
  half : Option Nat := none

/-- A half that found no other half makes the text unreadable. -/
def Partial.settle (p : Partial) : Option (List Char) :=
  if p.half.isSome then none else p.done

def Partial.push (p : Partial) (c : Char) : Partial := { done := p.settle.map (c :: ·) }

def Partial.spoil (_ : Partial) : Partial := { done := none }

def Partial.pushUnit (p : Partial) (unit : Nat) : Partial :=
  if isLeading unit then { done := p.settle, half := some unit }
  else if isTrailing unit then
    match p.half with
    | some first =>
      { done := p.done.map (Char.ofNat ((first - 0xD800) * 1024 + (unit - 0xDC00) + 0x10000) :: ·) }
    | none => p.spoil
  else p.push (Char.ofNat unit)

def Partial.text (p : Partial) : Option String :=
  p.settle.map fun done => String.ofList done.reverse

/-- The rest of a text behind its opening quote, and the glyphs behind the closing one. -/
def quotedText? (p : Partial) : List Glyph → Option (Option String × List Glyph)
  | [] => none
  | none :: rest => quotedText? p.spoil rest
  | some '"' :: rest => some (p.text, rest)
  | some '\\' :: some 'u' :: a :: b :: c :: d :: rest =>
    match codeUnit? a b c d with
    | some unit => quotedText? (p.pushUnit unit) rest
    | none => none
  | some '\\' :: some c :: rest =>
    match shortEscape? c with
    | some e => quotedText? (p.push e) rest
    | none => none
  | some c :: rest => if c = '\\' || c.toNat < 0x20 then none else quotedText? (p.push c) rest

theorem length_quotedText? {p : Partial} {glyphs behind : List Glyph} {text : Option String}
    (found : quotedText? p glyphs = some (text, behind)) : behind.length < glyphs.length := by
  fun_induction quotedText? p glyphs with
  | case1 => simp at found
  | case2 p rest ih => have := ih found; simp; omega
  | case3 p rest => simp at found; simp [found]
  | case4 p a b c d rest unit _ ih => have := ih found; simp; omega
  | case5 => simp at found
  | case6 p c rest _ e _ ih => have := ih found; simp; omega
  | case7 => simp at found
  | case8 => simp at found
  | case9 p c rest _ _ _ _ ih => have := ih found; simp; omega

/-! ## The whole text -/

def word? (letters : List Char) : Option Token :=
  if letters = ['n', 'u', 'l', 'l'] then some .null
  else if letters = ['t', 'r', 'u', 'e'] then some (.bool true)
  else if letters = ['f', 'a', 'l', 's', 'e'] then some (.bool false)
  else none

def punctuation? : Char → Option Token
  | '\x7b' => some .openObject
  | '\x7d' => some .closeObject
  | '[' => some .openArray
  | ']' => some .closeArray
  | ':' => some .colon
  | ',' => some .comma
  | _ => none

/-- The first token of a text that starts with a given character, and the glyphs behind it. -/
def first? (c : Char) (rest : List Glyph) : Option (Token × List Glyph) :=
  match punctuation? c with
  | some token => some (token, rest)
  | none =>
    if c = '"' then (quotedText? {} rest).map fun found => (.text found.1, found.2)
    else if c.isDigit || c = '-' then
      let run := splitRun isNumeralChar rest
      (numeral? (c :: run.1)).map fun n => (.number n, run.2)
    else
      let run := splitRun Char.isAlpha rest
      (word? (c :: run.1)).map fun token => (token, run.2)

theorem length_first? {c : Char} {rest behind : List Glyph} {token : Token}
    (found : first? c rest = some (token, behind)) : behind.length ≤ rest.length := by
  unfold first? at found
  split at found
  · simp at found; simp [found]
  · split at found
    · simp only [Option.map_eq_some_iff, Prod.mk.injEq] at found
      obtain ⟨⟨s, glyphs⟩, quoted, -, same⟩ := found
      have := length_quotedText? quoted
      simp_all; omega
    · split at found
      · simp only [Option.map_eq_some_iff, Prod.mk.injEq] at found
        obtain ⟨_, _, _, same⟩ := found
        exact same ▸ length_splitRun _ _
      · simp only [Option.map_eq_some_iff, Prod.mk.injEq] at found
        obtain ⟨_, _, _, same⟩ := found
        exact same ▸ length_splitRun _ _

/-- The tokens of a text, behind the ones already read. -/
def tokensFrom? (glyphs : List Glyph) (done : List Token) : Option (List Token) :=
  match glyphs with
  | [] => some done.reverse
  | none :: _ => none
  | some c :: rest =>
    if isBlank c then tokensFrom? rest done
    else match _found : first? c rest with
      | some (token, behind) => tokensFrom? behind (token :: done)
      | none => none
termination_by glyphs.length
decreasing_by
  · simp
  · have := length_first? _found; simp; omega

def tokens? (glyphs : List Glyph) : Option (List Token) := tokensFrom? glyphs []

/-! ## Writing -/

def escapeChar (c : Char) : String :=
  if c = '"' then "\\\""
  else if c = '\\' then "\\\\"
  else if c = '\x08' then "\\b"
  else if c = '\t' then "\\t"
  else if c = '\n' then "\\n"
  else if c = '\x0c' then "\\f"
  else if c = '\r' then "\\r"
  else if c.toNat < 0x10 then "\\u000" ++ String.ofList (Nat.toDigits 16 c.toNat)
  else if c.toNat < 0x20 then "\\u00" ++ String.ofList (Nat.toDigits 16 c.toNat)
  else c.toString

def writeText (written : String) (s : String) : String :=
  (s.foldl (fun done c => done ++ escapeChar c) (written ++ "\"")) ++ "\""

/-- Writes a token behind what is written already. A text that is no sequence of characters is
written as an unpaired surrogate. -/
def Token.write (written : String) : Token → String
  | .openObject => written ++ "\x7b"
  | .closeObject => written ++ "\x7d"
  | .openArray => written ++ "["
  | .closeArray => written ++ "]"
  | .colon => written ++ ":"
  | .comma => written ++ ","
  | .null => written ++ "null"
  | .bool true => written ++ "true"
  | .bool false => written ++ "false"
  | .number n => written ++ n.text
  | .text (some s) => writeText written s
  | .text none => written ++ "\"\\ud800\""

def writeTokens (tokens : List Token) : String := tokens.foldl Token.write ""

end PageSession.Json
