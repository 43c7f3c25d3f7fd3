/-!
# Numerals in base ten

Natural numbers and integers as text, with the digits 0 to 9 only.  Reading takes leading zeros and
one sign; writing uses neither a plus sign nor leading zeros.
-/

namespace ClockedFormula

namespace Text

/-- A numeral read further by one digit. -/
def appendDigit (number : Nat) (digit : Char) : Nat := 10 * number + (digit.toNat - '0'.toNat)

/-- The number that a row of digits stands for. -/
def digitsValue (digits : List Char) : Nat := digits.foldl appendDigit 0

/-- The digits of a number, without leading zeros. -/
def digitsOf (number : Nat) : List Char := Nat.toDigits 10 number

/-- A row of at least one digit, and nothing else. -/
def natural? (text : List Char) : Option Nat :=
  if text ≠ [] ∧ text.all Char.isDigit then some (digitsValue text) else none

/-- Digits after at most one sign. -/
def integer? : List Char → Option Int
  | '-' :: digits => (natural? digits).map fun number => -(number : Int)
  | '+' :: digits => (natural? digits).map fun number => (number : Int)
  | digits => (natural? digits).map fun number => (number : Int)

/-- An integer with a minus sign where it needs one. -/
def integerChars (i : Int) : List Char :=
  if i < 0 then '-' :: digitsOf i.natAbs else digitsOf i.natAbs

theorem digitsValue_append_singleton (digits : List Char) (digit : Char) :
    digitsValue (digits ++ [digit]) = appendDigit (digitsValue digits) digit := by
  simp [digitsValue]

end Text

end ClockedFormula
