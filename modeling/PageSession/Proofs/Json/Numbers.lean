import Mathlib.Data.List.TakeWhile
import PageSession.Json.Token

/-!
Whole numbers in a text. The digits of a number are read back as the same numeral, and a number that
fits into 64 bits, signed or unsigned, is the number that its numeral stands for.
-/
namespace PageSession.Json
open Decimal

/-! ## Digits -/

theorem isDigit_of_mem_decimalDigits {n : Nat} {c : Char} (inside : c ∈ decimalDigits n) :
    c.isDigit = true :=
  Nat.isDigit_of_mem_toDigits (by omega) (by omega) inside

theorem decimalDigits_ne_nil (n : Nat) : decimalDigits n ≠ [] := Nat.toDigits_ne_nil

/-- Only zero is written with a zero in front. -/
theorem head?_decimalDigits {n : Nat} (positive : 0 < n) : (decimalDigits n).head? ≠ some '0' := by
  induction n using Nat.base_induction 10 (by omega) with
  | single digit small =>
    rw [decimalDigits, Nat.toDigits_of_lt_base small, List.head?_cons]
    intro zero
    have value := Nat.toNat_digitChar_of_lt_ten small
    rw [Option.some.inj zero] at value
    simp at value
    omega
  | digit front last small leading ih =>
    rw [decimalDigits, ← Nat.toDigits_append_toDigits (by omega) leading small, List.head?_append]
    cases digits : (Nat.toDigits 10 front).head? with
    | none => exact absurd (List.head?_eq_none_iff.mp digits) Nat.toDigits_ne_nil
    | some c => simpa [decimalDigits, digits] using ih leading

theorem head?_decimalDigits_of_two {n : Nat} (two : 1 < (decimalDigits n).length) :
    (decimalDigits n).head? ≠ some '0' := by
  refine head?_decimalDigits (Nat.pos_of_ne_zero fun zero => ?_)
  simp [zero, decimalDigits] at two

/-- Digits only add to what is gathered already. -/
theorem le_ofDigitChars (digits : List Char) (start : Nat) :
    start ≤ Nat.ofDigitChars 10 digits start := by
  rw [Nat.ofDigitChars_eq_ofDigitChars_zero]
  have := Nat.le_mul_of_pos_left start (Nat.pow_pos (n := digits.length) (by omega : 0 < 10))
  omega

theorem gather_eq {digits : List Char} {start : Nat}
    (small : Nat.ofDigitChars 10 digits start < unsignedLimit) :
    gather start digits = (Nat.ofDigitChars 10 digits start, []) := by
  induction digits generalizing start with
  | nil => simp [gather]
  | cons digit rest ih =>
    rw [Nat.ofDigitChars_cons, Nat.mul_comm] at small ⊢
    have next := Nat.lt_of_le_of_lt (le_ofDigitChars rest _) small
    rw [gather, if_pos next, ih small]

theorem gather_decimalDigits {n : Nat} (small : n < unsignedLimit) :
    gather 0 (decimalDigits n) = (n, []) := by
  have same : Nat.ofDigitChars 10 (decimalDigits n) 0 = n := Nat.ofDigitChars_ten_toDigits
  rw [gather_eq (same.symm ▸ small), same]

/-! ## Numerals -/

theorem unsignedNumeral?_decimalDigits (negative : Bool) (n : Nat) :
    unsignedNumeral? negative (decimalDigits n) = some { negative, whole := decimalDigits n } := by
  have whole : (decimalDigits n).takeWhile Char.isDigit = decimalDigits n :=
    List.takeWhile_eq_self_iff.mpr fun _ => isDigit_of_mem_decimalDigits
  have behind : (decimalDigits n).dropWhile Char.isDigit = [] :=
    List.dropWhile_eq_nil_iff.mpr fun _ => isDigit_of_mem_decimalDigits
  have wellFormed : ¬((decimalDigits n).isEmpty ||
      (1 < (decimalDigits n).length && (decimalDigits n).head? = some '0')) = true := by
    simpa [decimalDigits_ne_nil] using head?_decimalDigits_of_two
  simp only [unsignedNumeral?, whole, behind]
  rw [if_neg wellFormed]
  simp [tail?]

def wholeChars (n : Int) : List Char := (if n < 0 then ['-'] else []) ++ decimalDigits n.natAbs

theorem toList_text_numeral (n : Int) :
    (Number.integer n).numeral.text.toList = wholeChars n := by
  by_cases negative : n < 0 <;>
    simp [Number.numeral, Numeral.text, exponentText, wholeChars, negative]

theorem numeral?_wholeChars (n : Int) :
    numeral? (wholeChars n) = some (Number.integer n).numeral := by
  unfold wholeChars
  by_cases negative : n < 0
  · simpa [negative, numeral?, Number.numeral] using unsignedNumeral?_decimalDigits true n.natAbs
  · have unsigned := unsignedNumeral?_decimalDigits false n.natAbs
    simp only [negative, if_false, List.nil_append, Number.numeral, decide_false]
    rw [← unsigned]
    unfold numeral?
    split
    · rename_i rest digits
      have digit := isDigit_of_mem_decimalDigits (digits.symm ▸ List.mem_cons_self)
      simp at digit
    · rfl

/-- A number that is read back from its numeral: a whole one that fits into 64 bits, signed or
unsigned. -/
def Number.isExact : Number → Bool
  | .integer n => -(unsignedLimit / 2 : Nat) ≤ n && n < unsignedLimit
  | .float _ => false

theorem number?_numeral {n : Int} (exact : (Number.integer n).isExact = true) :
    (Number.integer n).numeral.number? = some (.integer n) := by
  simp only [Number.isExact, Bool.and_eq_true, decide_eq_true_eq] at exact
  have half : unsignedLimit / 2 ≤ unsignedLimit := Nat.div_le_self ..
  have small : n.natAbs < unsignedLimit := by omega
  simp only [Numeral.number?, Number.numeral, gather_decimalDigits small, List.isEmpty_nil,
    Option.isNone_none, Bool.and_self, if_true]
  by_cases negative : n < 0
  · have low : 0 < n.natAbs ∧ n.natAbs ≤ unsignedLimit / 2 := by omega
    have same : -(n.natAbs : Int) = n := by omega
    rw [if_neg (by simp [negative]),
      if_pos (by simpa only [Bool.and_eq_true, decide_eq_true_eq] using low), same]
  · have same : (n.natAbs : Int) = n := by omega
    rw [if_pos (by simp [negative]), same]

end PageSession.Json
