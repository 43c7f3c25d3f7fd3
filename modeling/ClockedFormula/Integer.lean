import ClockedFormula.Rounding
import ClockedFormula.Text.Numeral
/-!
# Integers of 64 bits

Integer values and the counters of a clock have 64 bits.  Computations on them are carried out on
unbounded integers; the functions here say when a result has a place among the 64-bit ones.
-/

namespace ClockedFormula

namespace Integer

/-- The signed 64-bit integer equal to an integer, if there is one. -/
def signed? (i : Int) : Option Int64 :=
  if -2 ^ 63 ≤ i ∧ i < 2 ^ 63 then some (Int64.ofInt i) else none

/-- The unsigned 64-bit integer equal to an integer, if there is one. -/
def unsigned? (i : Int) : Option UInt64 :=
  if 0 ≤ i ∧ i < 2 ^ 64 then some (UInt64.ofNat i.toNat) else none

/-- A signed 64-bit integer from digits after at most one sign. -/
def ofText? (text : String) : Option Int64 := (Text.integer? text.toList).bind signed?

/-- The digits of an integer, after a minus sign where it needs one. -/
def toText (i : Int) : String := String.ofList (Text.integerChars i)

theorem toInt_of_signed? {i : Int} {word : Int64} (found : signed? i = some word) :
    word.toInt = i := by
  unfold signed? at found
  split at found
  case isTrue within =>
    cases found
    exact Int64.toInt_ofInt_of_le within.1 within.2
  case isFalse => cases found

/-- Every 64-bit integer has its place. -/
theorem signed?_toInt (word : Int64) : signed? word.toInt = some word := by
  unfold signed?
  rw [if_pos ⟨word.le_toInt, word.toInt_lt⟩, Int64.ofInt_toInt]

end Integer

end ClockedFormula
