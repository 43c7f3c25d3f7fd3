import ClockedFormula.Double.Exact

namespace ClockedFormula

/-!
# Finite doubles

The integers of 64 bits are far within the range of doubles, and a change of sign leaves a double within
it.
-/

namespace Double

theorem magnitude_ofMagnitude (negative : Bool) {magnitude : Nat} (fits : magnitude < 2 ^ 63) :
    (ofMagnitude negative magnitude).magnitude = magnitude := by
  have bound : (if negative then 2 ^ 63 + magnitude else magnitude) < 2 ^ 64 := by split <;> omega
  rw [Double.magnitude, ofMagnitude, UInt64.toNat_ofNat', Nat.mod_eq_of_lt bound]
  split <;> omega

theorem magnitude_lt (x : Double) : x.magnitude < 2 ^ 63 := Nat.mod_lt _ (by decide)

theorem isFinite_negate (x : Double) : x.negate.isFinite = x.isFinite := by
  rw [isFinite, negate, magnitude_ofMagnitude _ x.magnitude_lt, isFinite]

theorem isFinite_of_isZero {x : Double} (zero : x.isZero) : x.isFinite = true := by
  rw [isZero, beq_iff_eq] at zero
  rw [isFinite, zero]
  rfl

/-- A number is at least the power of two with its binary logarithm. -/
theorem binaryExponent_one {number : Nat} (positive : number ≠ 0) :
    binaryExponent number 1 = number.log2 := by
  have reached : 2 ^ number.log2 ≤ number := Nat.log2_self_le positive
  have unit : Nat.log2 1 = 0 := by decide
  simp [binaryExponent, reached, unit]

/-- A number that is shifted to 53 binary digits stays below the next power of two. -/
theorem shifted_lt (number : Nat) {place : Int} (last : place = (number.log2 : Int) - 52) :
    number * 2 ^ (-place).toNat / 2 ^ place.toNat < 2 ^ 53 := by
  have below : number < 2 ^ (number.log2 + 1) := Nat.lt_log2_self
  rw [Nat.div_lt_iff_lt_mul (Nat.two_pow_pos _), ← Nat.pow_add]
  have powers : number.log2 + 1 + (-place).toNat = 53 + place.toNat := by omega
  rw [← powers, Nat.pow_add]
  exact Nat.mul_lt_mul_of_pos_right below (Nat.two_pow_pos _)

/-- Numbers of 64 bits are within the range of doubles. -/
theorem nearestMagnitude_one_lt {number : Nat} (bounded : number < 2 ^ 64) :
    nearestMagnitude number 1 < infinityMagnitude := by
  unfold nearestMagnitude
  split
  case isTrue => decide
  case isFalse positive =>
    have logarithm : number.log2 < 64 := (Nat.log2_lt positive).mpr bounded
    have place : Max.max (binaryExponent number 1 - 52) (-1074) = (number.log2 : Int) - 52 := by
      rw [binaryExponent_one positive]
      omega
    have shifted := shifted_lt number rfl
    rw [place]
    dsimp only
    rw [Nat.one_mul]
    have rounded := Rounding.halfEven.divide_eq_or
      (number * 2 ^ (-((number.log2 : Int) - 52)).toNat) (2 ^ ((number.log2 : Int) - 52).toNat)
    have exponent : ((number.log2 : Int) - 52 + 1074).toNat ≤ 1085 := by omega
    have scaled := Nat.mul_le_mul_right (2 ^ 52) exponent
    refine Nat.lt_of_le_of_lt (Nat.min_le_left _ _) ?_
    rw [infinityMagnitude]
    omega

theorem isFinite_ofQuotient_one (negative : Bool) {number : Nat} (bounded : number < 2 ^ 64) :
    (ofQuotient negative number 1).isFinite = true := by
  have inside := nearestMagnitude_one_lt bounded
  have fits : nearestMagnitude number 1 < 2 ^ 63 := Nat.lt_trans inside (by decide)
  rw [isFinite, ofQuotient, magnitude_ofMagnitude negative fits]
  exact decide_eq_true inside

theorem isFinite_ofInt (i : Int64) : (ofInt i.toInt).isFinite = true := by
  have lower := i.le_toInt
  have upper := i.toInt_lt
  exact isFinite_ofQuotient_one _ (by omega)

theorem isFinite_ofNat (n : UInt64) : (ofNat n.toNat).isFinite = true :=
  isFinite_ofQuotient_one _ n.toNat_lt

end Double

end ClockedFormula
