import Mathlib.Data.List.Chain
import PageSession.Proofs.Json.Numbers

/-!
Tokens written behind one another and read back. A token ends where it ends only if what follows
does not go on with it: behind a number or a word some punctuation must stand.
-/
namespace PageSession.Json
open Text

/-! ## Characters between quotes -/

theorem hexDigit?_digitChar : ∀ n < 16, hexDigit? n.digitChar = some n := by decide

/-- Four digits that stand for a control character. -/
theorem quotedText?_unit (p : Partial) {c : Char} (low : c.toNat < 0x20) {a b : Char}
    (first : hexDigit? a = some (c.toNat / 16)) (second : hexDigit? b = some (c.toNat % 16))
    (behind : List Glyph) :
    quotedText? p (some '\\' :: some 'u' :: some '0' :: some '0' :: some a :: some b :: behind) =
      quotedText? (p.push c) behind := by
  have zero : hexDigit? '0' = some 0 := by decide
  have unit : codeUnit? (some '0') (some '0') (some a) (some b) = some c.toNat := by
    simp only [codeUnit?, zero, first, second, Option.bind_eq_bind, Option.bind_some,
      Option.pure_def, Option.some.injEq]
    omega
  have plain : isLeading c.toNat = false ∧ isTrailing c.toNat = false := by
    simp only [isLeading, isTrailing, Bool.and_eq_false_imp, decide_eq_true_eq,
      decide_eq_false_iff_not]
    omega
  rw [quotedText?, unit]
  simp [Partial.pushUnit, plain]

/-- A character as it is written between quotes is read as that character. -/
theorem quotedText?_escapeChar (p : Partial) (c : Char) (behind : List Glyph) :
    quotedText? p ((escapeChar c).toList.map some ++ behind) = quotedText? (p.push c) behind := by
  unfold escapeChar
  iterate 7
    split
    · subst c
      simp [quotedText?, shortEscape?]
  split
  · rename_i low
    have digits : Nat.toDigits 16 c.toNat = [c.toNat.digitChar] :=
      Nat.toDigits_of_lt_base low
    have unit := quotedText?_unit p (by omega) (hexDigit?_digitChar (c.toNat / 16) (by omega))
      (hexDigit?_digitChar (c.toNat % 16) (by omega)) behind
    rw [Nat.div_eq_of_lt low, Nat.mod_eq_of_lt low] at unit
    have zero : Nat.digitChar 0 = '0' := by decide
    simpa [digits, zero] using unit
  split
  · rename_i high low
    have digits : Nat.toDigits 16 c.toNat =
        [(c.toNat / 16).digitChar, (c.toNat % 16).digitChar] := by
      rw [Nat.toDigits_of_base_le (by omega) (by omega), Nat.toDigits_of_lt_base (by omega)]
      rfl
    have unit := quotedText?_unit p low (hexDigit?_digitChar (c.toNat / 16) (by omega))
      (hexDigit?_digitChar (c.toNat % 16) (by omega)) behind
    simpa [digits] using unit
  · rename_i quote backslash _ _ _ _ _ _ printable
    simp only [Char.toString_eq_singleton, String.toList_singleton, List.map_cons, List.map_nil,
      List.cons_append, List.nil_append]
    rw [quotedText?.eq_def]
    split <;> simp_all

/-- The characters of a text are read up to the closing quote. -/
theorem quotedText?_chars (cs done : List Char) (behind : List Glyph) :
    quotedText? { done := some done }
        ((cs.flatMap fun c => (escapeChar c).toList).map some ++ some '"' :: behind) =
      some (some (String.ofList (done.reverse ++ cs)), behind) := by
  induction cs generalizing done with
  | nil => simp [quotedText?, Partial.text, Partial.settle]
  | cons c cs ih =>
    rw [List.flatMap_cons, List.map_append, List.append_assoc, quotedText?_escapeChar]
    have pushed : Partial.push { done := some done } c = { done := some (c :: done) } := rfl
    rw [pushed, ih (c :: done)]
    simp

/-! ## One token -/

def Token.chars (token : Token) : List Char := (token.write "").toList

theorem toList_foldl_escape (cs : List Char) (written : String) :
    (cs.foldl (fun done c => done ++ escapeChar c) written).toList =
      written.toList ++ cs.flatMap fun c => (escapeChar c).toList := by
  induction cs generalizing written with
  | nil => simp
  | cons c cs ih => simp [ih]

theorem toList_writeText (written s : String) :
    (writeText written s).toList =
      written.toList ++ '"' :: (s.toList.flatMap fun c => (escapeChar c).toList) ++ ['"'] := by
  simp [writeText, String.foldl_eq_foldl_toList, toList_foldl_escape]

theorem chars_text (s : String) : (Token.text (some s)).chars =
    '"' :: (s.toList.flatMap fun c => (escapeChar c).toList) ++ ['"'] := by
  simp [Token.chars, Token.write, toList_writeText]

/-- What is written already stays in front of a token. -/
theorem toList_write (written : String) (token : Token) :
    (token.write written).toList = written.toList ++ token.chars := by
  cases token with
  | bool b => cases b <;> simp [Token.write, Token.chars]
  | text s =>
    cases s with
    | none => simp [Token.write, Token.chars]
    | some s => simp [chars_text, Token.write, toList_writeText]
  | _ => simp [Token.write, Token.chars]

theorem toList_writeTokens (tokens : List Token) :
    (writeTokens tokens).toList = tokens.flatMap Token.chars := by
  have fold (written : String) : (tokens.foldl Token.write written).toList =
      written.toList ++ tokens.flatMap Token.chars := by
    induction tokens generalizing written with
    | nil => simp
    | cons token tokens ih => simp [ih, toList_write]
  simpa [writeTokens] using fold ""

/-- A token that is written so that it can be read back: its number is a whole one, and its text is
one of characters. -/
def Token.IsLegible : Token → Prop
  | .number n => ∃ i, n = (Number.integer i).numeral
  | .text s => s.isSome = true
  | _ => True

/-- A number or a word, which ends only where something else begins. -/
def Token.isOpenEnded : Token → Bool
  | .null | .bool _ | .number _ => true
  | _ => false

def Token.isPunctuation : Token → Bool
  | .openObject | .closeObject | .openArray | .closeArray | .colon | .comma => true
  | _ => false

def IsApart (behind : List Glyph) : Prop :=
  ∀ c rest, behind = some c :: rest → isNumeralChar c = false ∧ c.isAlpha = false

theorem splitRun_append {has : Char → Bool} {run : List Char} {behind : List Glyph}
    (holds : ∀ c ∈ run, has c = true) (stops : ∀ c rest, behind = some c :: rest → has c = false) :
    splitRun has (run.map some ++ behind) = (run, behind) := by
  induction run with
  | nil =>
    cases behind with
    | nil => rfl
    | cons glyph rest =>
      cases glyph with
      | none => rfl
      | some c => simp [splitRun, stops c rest rfl]
  | cons c run ih =>
    have first := holds c (by simp)
    simp [splitRun, first, ih fun other inside => holds other (by simp [inside])]

theorem chars_punctuation {token : Token} (punctuation : token.isPunctuation = true) :
    ∃ c, token.chars = [c] ∧ punctuation? c = some token ∧ isBlank c = false ∧
      isNumeralChar c = false ∧ c.isAlpha = false := by
  cases token with
  | openObject => exact ⟨'\x7b', by simp [Token.chars, Token.write], by decide⟩
  | closeObject => exact ⟨'\x7d', by simp [Token.chars, Token.write], by decide⟩
  | openArray => exact ⟨'[', by simp [Token.chars, Token.write], by decide⟩
  | closeArray => exact ⟨']', by simp [Token.chars, Token.write], by decide⟩
  | colon => exact ⟨':', by simp [Token.chars, Token.write], by decide⟩
  | comma => exact ⟨',', by simp [Token.chars, Token.write], by decide⟩
  | null | bool | number | text => cases punctuation

/-- A word is read where nothing goes on with it. -/
theorem first?_word {c : Char} {letters : List Char} {token : Token} {behind : List Glyph}
    (word : word? (c :: letters) = some token) (alpha : letters.all Char.isAlpha = true)
    (starts : punctuation? c = none ∧ c ≠ '"' ∧ c.isDigit = false ∧ c ≠ '-')
    (apart : IsApart behind) :
    first? c (letters.map some ++ behind) = some (token, behind) := by
  have run : splitRun Char.isAlpha (letters.map some ++ behind) = (letters, behind) :=
    splitRun_append (List.all_eq_true.mp alpha) fun c rest same => (apart c rest same).2
  simp [first?, starts, run, word]

theorem isNumeralChar_of_mem_wholeChars {n : Int} {c : Char} (inside : c ∈ wholeChars n) :
    isNumeralChar c = true := by
  unfold wholeChars at inside
  rcases List.mem_append.mp inside with sign | digit
  · split at sign
    · rw [List.mem_singleton.mp sign]
      rfl
    · cases sign
  · simp [isNumeralChar, isDigit_of_mem_decimalDigits digit]

/-- A number starts with a digit or its sign. -/
theorem wholeChars_cons (n : Int) :
    ∃ c rest, wholeChars n = c :: rest ∧ (c.isDigit = true ∨ c = '-') := by
  unfold wholeChars
  split
  · exact ⟨'-', _, rfl, .inr rfl⟩
  · obtain ⟨c, rest, digits⟩ := List.exists_cons_of_ne_nil (decimalDigits_ne_nil n.natAbs)
    refine ⟨c, rest, digits, .inl (isDigit_of_mem_decimalDigits (n := n.natAbs) ?_)⟩
    simp [digits]

/-- What starts a number starts no other token. -/
theorem starts_of_isDigit_or_sign {c : Char} (starts : c.isDigit = true ∨ c = '-') :
    isBlank c = false ∧ punctuation? c = none ∧ c ≠ '"' := by
  rcases starts with digit | rfl
  · refine ⟨?_, ?_, ?_⟩
    · unfold isBlank
      simp only [Bool.or_eq_false_iff, decide_eq_false_iff_not]
      refine ⟨⟨⟨?_, ?_⟩, ?_⟩, ?_⟩ <;> rintro rfl <;> simp at digit
    · unfold punctuation?
      split <;> first | rfl | simp at digit
    · rintro rfl
      simp at digit
  · decide

/-- The first token of a text is read whatever follows it, unless that goes on with it. -/
theorem first?_chars {token : Token} (legible : token.IsLegible) :
    ∃ c rest, token.chars = c :: rest ∧ isBlank c = false ∧
      ∀ behind, (token.isOpenEnded = true → IsApart behind) →
        first? c (rest.map some ++ behind) = some (token, behind) := by
  by_cases punctuation : token.isPunctuation = true
  · obtain ⟨c, chars, mark, blank, _⟩ := chars_punctuation punctuation
    exact ⟨c, [], chars, blank, fun behind _ => by simp [first?, mark]⟩
  cases token with
  | openObject | closeObject | openArray | closeArray | colon | comma =>
    exact absurd rfl punctuation
  | null =>
    exact ⟨'n', ['u', 'l', 'l'], by simp [Token.chars, Token.write], by decide,
      fun behind apart => first?_word (by decide) (by decide) (by decide) (apart rfl)⟩
  | bool b =>
    cases b with
    | true =>
      exact ⟨'t', ['r', 'u', 'e'], by simp [Token.chars, Token.write], by decide,
        fun behind apart => first?_word (by decide) (by decide) (by decide) (apart rfl)⟩
    | false =>
      exact ⟨'f', ['a', 'l', 's', 'e'], by simp [Token.chars, Token.write], by decide,
        fun behind apart => first?_word (by decide) (by decide) (by decide) (apart rfl)⟩
  | number numeral =>
    obtain ⟨n, rfl⟩ := legible
    obtain ⟨c, rest, chars, starts⟩ := wholeChars_cons n
    obtain ⟨blank, noMark, noQuote⟩ := starts_of_isDigit_or_sign starts
    refine ⟨c, rest, by simp [Token.chars, Token.write, toList_text_numeral, chars], blank,
      fun behind apart => ?_⟩
    have run : splitRun isNumeralChar (rest.map some ++ behind) = (rest, behind) := by
      refine splitRun_append (fun other inside => ?_) fun c rest same => (apart rfl c rest same).1
      exact isNumeralChar_of_mem_wholeChars (n := n) (by simp [chars, inside])
    have read := numeral?_wholeChars n
    rw [chars] at read
    simp [first?, noMark, noQuote, starts, run, read]
  | text s =>
    obtain ⟨s, rfl⟩ := Option.isSome_iff_exists.mp legible
    refine ⟨'"', _, chars_text s, by decide, fun behind _ => ?_⟩
    have read := quotedText?_chars s.toList [] behind
    simp [first?, punctuation?, read]

/-! ## Many tokens -/

/-- Tokens that may be written behind one another: behind a number or a word some punctuation
stands. -/
def AreApart (tokens : List Token) : Prop :=
  tokens.IsChain fun front behind => front.isOpenEnded = true → behind.isPunctuation = true

theorem isApart_of_isPunctuation {token : Token} (punctuation : token.isPunctuation = true)
    (behind : List Glyph) : IsApart (token.chars.map some ++ behind) := by
  obtain ⟨mark, chars, _, _, numeral, alpha⟩ := chars_punctuation punctuation
  intro c rest same
  rw [chars] at same
  simp only [List.map_cons, List.map_nil, List.cons_append, List.nil_append, List.cons.injEq,
    Option.some.injEq] at same
  exact same.1 ▸ ⟨numeral, alpha⟩

theorem tokensFrom?_chars {tokens : List Token} (legible : ∀ token ∈ tokens, token.IsLegible)
    (apart : AreApart tokens) (done : List Token) :
    tokensFrom? ((tokens.flatMap Token.chars).map some) done = some (done.reverse ++ tokens) := by
  induction tokens generalizing done with
  | nil => simp [tokensFrom?]
  | cons token tokens ih =>
    obtain ⟨c, rest, chars, blank, read⟩ := first?_chars (legible token (by simp))
    have follows : token.isOpenEnded = true →
        IsApart ((tokens.flatMap Token.chars).map some) := by
      intro openEnded
      cases tokens with
      | nil => exact fun _ _ same => by cases same
      | cons next tokens =>
        have punctuation := (List.isChain_cons_cons.mp apart).1 openEnded
        simpa using isApart_of_isPunctuation punctuation _
    have first := read _ follows
    rw [List.flatMap_cons, chars, List.map_append, List.map_cons, List.cons_append, tokensFrom?,
      if_neg (by simp [blank])]
    split
    · rename_i found behind same
      rw [first] at same
      cases same
      rw [ih (fun other inside => legible other (by simp [inside])) apart.of_cons]
      simp
    · rename_i none
      rw [first] at none
      cases none

/-- Tokens that are written are read back. -/
theorem tokens?_writeTokens {tokens : List Token} (legible : ∀ token ∈ tokens, token.IsLegible)
    (apart : AreApart tokens) : tokens? (glyphsOfString (writeTokens tokens)) = some tokens := by
  rw [glyphsOfString, toList_writeTokens]
  exact tokensFrom?_chars legible apart []

end PageSession.Json
