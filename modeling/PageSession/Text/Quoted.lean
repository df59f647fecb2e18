import PageSession.Text.Invisible

/-!
Quoted text for messages about values: the characters between double quotes, with quotes,
backslashes and line controls escaped by a letter and every other invisible character by its
code point in lower-case hexadecimal.
-/
namespace PageSession.Text

/-- A code point in lower-case hexadecimal, without leading zeros. -/
def hexadecimal (n : Nat) : String := String.ofList (Nat.toDigits 16 n)

/-- The text of one character between quotes. -/
def quotedChar (c : Char) : String :=
  if c = '\x00' then "\\0"
  else if c = '\t' then "\\t"
  else if c = '\r' then "\\r"
  else if c = '\n' then "\\n"
  else if c = '"' then "\\\""
  else if c = '\\' then "\\\\"
  else if isInvisible c then "\\u\x7b" ++ hexadecimal c.toNat ++ "\x7d"
  else c.toString

/-- A text between double quotes. -/
def quoted (text : String) : String :=
  text.foldl (fun done c => done ++ quotedChar c) "\"" ++ "\""

end PageSession.Text
