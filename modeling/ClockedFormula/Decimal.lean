import ClockedFormula.Rounding
/-!
# Decimal numbers

A decimal is a signed whole coefficient below `2^96` over a power of ten up to `10^28`.  The scale is
part of the number as it is written: `1.50` and `1.5` are equal in value and differ as decimals.  A
zero may carry a sign, which comes from the number that was read or converted or from a product that
is too small for any scale; sums, quotients and remainders that vanish have none.

The bounds are part of the type, and every operation that could leave them ends in `ofParts?`.
-/

namespace ClockedFormula

/-- The number `± coefficient / 10 ^ scale`. -/
structure Decimal where
  negative : Bool
  coefficient : Nat
  scale : Nat
  coefficient_lt : coefficient < 2 ^ 96
  scale_le : scale ≤ 28
deriving DecidableEq, Repr

namespace Decimal

/-- Coefficients stay below this bound. -/
def coefficientBound : Nat := 2 ^ 96

/-- The greatest scale. -/
def scaleBound : Nat := 28

/-- The decimal with these parts, if they are within the bounds. -/
def ofParts? (negative : Bool) (coefficient scale : Nat) : Option Decimal :=
  if bounds : coefficient < 2 ^ 96 ∧ scale ≤ 28 then
    some ⟨negative, coefficient, scale, bounds.1, bounds.2⟩
  else none

/-- The decimal with these parts, if they are within the bounds; a zero gets no sign. -/
def make? (negative : Bool) (coefficient scale : Nat) : Option Decimal :=
  ofParts? (negative && coefficient != 0) coefficient scale

def zero : Decimal := ⟨false, 0, 0, by decide, by decide⟩

instance : Inhabited Decimal := ⟨zero⟩

/-- A whole number that fits is a decimal of scale zero. -/
def ofInt? (i : Int) : Option Decimal := make? (i < 0) i.natAbs 0

/-- The decimal of a 64-bit integer, which always fits. -/
def ofInt64 (i : Int64) : Decimal where
  negative := i.toInt < 0
  coefficient := i.toInt.natAbs
  scale := 0
  coefficient_lt := by
    have lower := i.le_toInt
    have upper := i.toInt_lt
    omega
  scale_le := by decide

/-- One for true and zero for false. -/
def ofBool (b : Bool) : Decimal :=
  ⟨false, b.toNat, 0, by cases b <;> decide, by decide⟩

def isZero (x : Decimal) : Bool := x.coefficient == 0

/-- The number without its sign. -/
def abs (x : Decimal) : Decimal := { x with negative := false }

/-- The number, without its sign if it is zero. -/
def withoutZeroSign (x : Decimal) : Decimal := if x.isZero then x.abs else x

/-- The opposite number; a zero stays as it is. -/
def opposite (x : Decimal) : Decimal :=
  if x.isZero then x else { x with negative := !x.negative }

/-- The signed number of units of `10 ^ -scale`, for a scale that is not below the number's own. -/
def unitsAt (x : Decimal) (scale : Nat) : Int :=
  let units : Int := (x.coefficient * 10 ^ (scale - x.scale) : Nat)
  if x.negative then -units else units

/-- The order of the numbers, whatever their scales. -/
def order (x y : Decimal) : Ordering :=
  let scale := Max.max x.scale y.scale
  compare (x.unitsAt scale) (y.unitsAt scale)

/-- The greater number, the left one of two equal ones. -/
def max (x y : Decimal) : Decimal := if x.order y = .lt then y else x

/-- The smaller number, the left one of two equal ones. -/
def min (x y : Decimal) : Decimal := if x.order y = .gt then y else x

/-- The nearest integer, a half going to the even one. -/
def toInt (x : Decimal) : Int :=
  let size : Int := Rounding.halfEven.divide x.coefficient (10 ^ x.scale)
  if x.negative then -size else size

/-- Drop the zeros at the end of a fraction. -/
def dropZeros (coefficient : Nat) : (scale : Nat) → Nat × Nat
  | 0 => (coefficient, 0)
  | scale + 1 =>
    if coefficient % 10 = 0 then dropZeros (coefficient / 10) scale else (coefficient, scale + 1)

theorem ofParts?_eq_some_iff {negative : Bool} {coefficient scale : Nat} {x : Decimal} :
    ofParts? negative coefficient scale = some x
      ↔ x.negative = negative ∧ x.coefficient = coefficient ∧ x.scale = scale := by
  unfold ofParts?
  constructor
  · intro found
    split at found
    · cases found
      exact ⟨rfl, rfl, rfl⟩
    · cases found
  · rintro ⟨rfl, rfl, rfl⟩
    rw [dif_pos ⟨x.coefficient_lt, x.scale_le⟩]

end Decimal

end ClockedFormula
