import ClockedFormula.Quantity
import Mathlib.Algebra.Order.Field.Rat
import Mathlib.Algebra.Order.Floor.Ring
import Mathlib.Data.Rat.Floor
import Mathlib.Tactic.Linarith

namespace ClockedFormula

/-!
# Exact quantities

The rational numbers are quantities.  Sums, products and quotients of doubles are rational numbers that have
been rounded, so what signals and smoothing come to over the rational numbers is what they are meant to come
to over doubles.
-/

/-- The rational numbers, with the remainder that has the sign of the dividend. -/
instance : Quantity ℚ where
  mod x y := x - y * Rat.ofInt ((x / y).num.tdiv (x / y).den)
  ofNat n := n
  less x y := decide (x < y)
  atMost x y := decide (x ≤ y)
  max := Max.max
  min := Min.min

namespace Quantity

variable (x y : ℚ)

@[simp]
theorem ofNat_rat (n : Nat) : (ofNat n : ℚ) = n := rfl

@[simp]
theorem less_rat : less x y = decide (x < y) := rfl

@[simp]
theorem atMost_rat : atMost x y = decide (x ≤ y) := rfl

section Remainder

variable {x y : ℚ} (nonneg : 0 ≤ x) (positive : 0 < y)

include nonneg positive

/-- Of a dividend that is not negative the remainder leaves out the divisor as often as it fits. -/
theorem mod_rat : x % y = x - ⌊x / y⌋₊ * y := by
  have fits : 0 ≤ x / y := div_nonneg nonneg positive.le
  have whole : (x / y).num.tdiv (x / y).den = (⌊x / y⌋₊ : ℤ) :=
    calc (x / y).num.tdiv (x / y).den
        = (x / y).num / (x / y).den := Int.tdiv_eq_ediv_of_nonneg (Rat.num_nonneg.mpr fits)
      _ = ⌊x / y⌋ := Rat.floor_def'.symm
      _ = (⌊x / y⌋₊ : ℤ) := (Int.natCast_floor_eq_floor fits).symm
  calc x % y
      = x - y * Rat.ofInt ((x / y).num.tdiv (x / y).den) := rfl
    _ = x - y * ((⌊x / y⌋₊ : ℤ) : ℚ) := by rw [whole]; rfl
    _ = x - ⌊x / y⌋₊ * y := by rw [Int.cast_natCast, mul_comm]

/-- The remainder is the least of what is left when the divisor is taken away any number of times, but not
more often than it fits. -/
theorem mod_isLeast : IsLeast {rest : ℚ | 0 ≤ rest ∧ ∃ times : ℕ, times * y + rest = x} (x % y) := by
  rw [mod_rat nonneg positive]
  constructor
  · have fits : ⌊x / y⌋₊ * y ≤ x :=
      (le_div_iff₀ positive).mp (Nat.floor_le (div_nonneg nonneg positive.le))
    exact ⟨sub_nonneg.mpr fits, ⌊x / y⌋₊, add_sub_cancel _ _⟩
  · rintro rest ⟨remains, times, total⟩
    have taken : times * y ≤ x := by linarith
    have most : times ≤ ⌊x / y⌋₊ := Nat.le_floor ((le_div_iff₀ positive).mpr taken)
    calc x - ⌊x / y⌋₊ * y
        ≤ x - times * y := by gcongr
      _ = rest := by linarith

end Remainder

end Quantity

end ClockedFormula
