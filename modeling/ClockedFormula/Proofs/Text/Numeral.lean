import ClockedFormula.Rounding
import ClockedFormula.Text.Numeral

namespace ClockedFormula

namespace Text

/-!
# Numerals are read as they are written

A number is written with its digits and nothing else, and none of them is a needless zero.  Reading the
digits gives the number back, also after padding with zeros and in pieces.
-/

theorem digitsValue_eq_ofDigitChars (digits : List Char) :
    digitsValue digits = Nat.ofDigitChars 10 digits 0 := rfl

theorem digitsValue_digitsOf (number : Nat) : digitsValue (digitsOf number) = number :=
  Nat.ofDigitChars_ten_toDigits

/-- Digits that are read further count less than those before them. -/
theorem foldl_appendDigit (number : Nat) (digits : List Char) :
    digits.foldl appendDigit number = 10 ^ digits.length * number + digitsValue digits :=
  Nat.ofDigitChars_eq_ofDigitChars_zero

theorem digitsValue_append (first later : List Char) :
    digitsValue (first ++ later) = 10 ^ later.length * digitsValue first + digitsValue later := by
  rw [digitsValue, List.foldl_append, foldl_appendDigit]
  rfl

theorem digitsValue_replicate_zero (count : Nat) : digitsValue (List.replicate count '0') = 0 := by
  rw [digitsValue_eq_ofDigitChars, Nat.ofDigitChars_replicate_zero, Nat.mul_zero]

/-- What has been read so far is not greater than what is read in the end. -/
theorem le_foldl_appendDigit (number : Nat) (digits : List Char) :
    number ≤ digits.foldl appendDigit number := by
  rw [foldl_appendDigit]
  have grows : number ≤ 10 ^ digits.length * number :=
    Nat.le_mul_of_pos_left number (Nat.pow_pos (by decide))
  omega

theorem isDigit_of_mem_digitsOf {number : Nat} {c : Char} (member : c ∈ digitsOf number) :
    c.isDigit = true :=
  Nat.isDigit_of_mem_toDigits (by decide) (by decide) member

theorem all_isDigit_digitsOf (number : Nat) : (digitsOf number).all Char.isDigit = true :=
  List.all_eq_true.mpr fun _ member => isDigit_of_mem_digitsOf member

theorem digitsOf_ne_nil (number : Nat) : digitsOf number ≠ [] := Nat.toDigits_ne_nil

/-- A number below a power of ten has no more digits than the power. -/
theorem length_digitsOf_le {number places : Nat} (some : 0 < places) (below : number < 10 ^ places) :
    (digitsOf number).length ≤ places :=
  (Nat.length_toDigits_le_iff (by decide) some).mpr below

/-- The first digit of a number that is not zero is not zero. -/
theorem head?_digitsOf {number : Nat} (positive : 0 < number) :
    (digitsOf number).head? ≠ some '0' := by
  induction number using Nat.strongRecOn with
  | ind number ih =>
    rw [digitsOf, Nat.toDigits_eq_if (by decide)]
    by_cases small : number < 10
    · rw [if_pos small]
      intro zero
      have same : number.digitChar = '0' := Option.some.inj zero
      rw [Nat.digitChar_eq_zero] at same
      omega
    · have rest := ih (number / 10) (by omega) (by omega)
      have front : (digitsOf (number / 10)).head?.isSome = true :=
        List.isSome_head?.mpr (digitsOf_ne_nil (number / 10))
      rw [digitsOf] at rest front
      rw [if_neg small, List.head?_append, Option.or_of_isSome front]
      exact rest

end Text

end ClockedFormula
