import ClockedFormula.Double
import ClockedFormula.Rounding
/-!
# The exact value of a double, and the double nearest to an exact value

A finite double is a whole `significand` times two to the `exponent`.  `Double.ofQuotient` goes the
other way: it takes a quotient of natural numbers to the nearest double, half to the even
significand.  One formula serves normal and subnormal numbers alike, because the pattern of
`m · 2^q` is `(q + 1074) · 2^52 + m`, and a significand that rounds up to `2^53` carries into the
exponent by itself.

Integers, decimal literals, remainders and rounding to integers are all exact computations on this
view, followed by at most one rounding.
-/

namespace ClockedFormula

namespace Double

/-- The whole number that `2 ^ exponent` multiplies in a finite double. -/
def significand (x : Double) : Nat :=
  if x.magnitude < 2 ^ 52 then x.magnitude else x.magnitude % 2 ^ 52 + 2 ^ 52

/-- The power of two that belongs to `significand`. -/
def exponent (x : Double) : Int :=
  if x.magnitude < 2 ^ 52 then -1074 else (x.magnitude / 2 ^ 52 : Nat) - 1075

/-- The numerator of the magnitude of a finite double, over `denominator`. -/
def numerator (x : Double) : Nat := x.significand * 2 ^ x.exponent.toNat

/-- A power of two that makes the magnitude of a finite double a whole number. -/
def denominator (x : Double) : Nat := 2 ^ (-x.exponent).toNat

/-- The greatest power of two that is not above a positive quotient. -/
def binaryExponent (numerator denominator : Nat) : Int :=
  let guess : Int := (numerator.log2 : Int) - denominator.log2
  if denominator * 2 ^ guess.toNat ≤ numerator * 2 ^ (-guess).toNat then guess else guess - 1

/-- The magnitude of the double nearest to `numerator / denominator`, a half going to the even
significand; what is too great for a finite double is infinite. -/
def nearestMagnitude (numerator denominator : Nat) : Nat :=
  if numerator = 0 then 0 else
    let place := Max.max (binaryExponent numerator denominator - 52) (-1074)
    let significand :=
      Rounding.halfEven.divide (numerator * 2 ^ (-place).toNat) (denominator * 2 ^ place.toNat)
    Min.min ((place + 1074).toNat * 2 ^ 52 + significand) infinityMagnitude

/-- The double of the given sign nearest to `numerator / denominator`. -/
def ofQuotient (negative : Bool) (numerator denominator : Nat) : Double :=
  ofMagnitude negative (nearestMagnitude numerator denominator)

/-- The double nearest to an integer; zero is positive. -/
def ofInt (i : Int) : Double := ofQuotient (i < 0) i.natAbs 1

def ofNat (n : Nat) : Double := ofQuotient false n 1

/-- The double of the given sign nearest to `coefficient · 10 ^ exponent`.  Exponents that put the
number far outside the range of doubles are answered without computing the power. -/
def ofScientific (negative : Bool) (coefficient : Nat) (exponent : Int) : Double :=
  let size : Int := exponent + (Nat.toDigits 10 coefficient).length
  if coefficient = 0 ∨ size < -400 then ofMagnitude negative 0
  else if 400 < size then infinity negative
  else ofQuotient negative (coefficient * 10 ^ exponent.toNat) (10 ^ (-exponent).toNat)

/-! ## Rounding to integers -/

/-- A finite double rounded to an integer by a rule for magnitudes.  The sign stays, also on a
zero.  Whole numbers, infinities and not-a-numbers stay as they are. -/
def toIntegral (rule : Rounding) (x : Double) : Double :=
  if x.isFinite ∧ x.exponent < 0 then
    ofQuotient x.isNegative (rule.divide x.significand x.denominator) 1
  else x

def floor (x : Double) : Double := x.toIntegral (if x.isNegative then .up else .down)

def ceiling (x : Double) : Double := x.toIntegral (if x.isNegative then .down else .up)

def truncate (x : Double) : Double := x.toIntegral .down

/-- The nearest integer, a half going away from zero. -/
def roundAway (x : Double) : Double := x.toIntegral .halfUp

/-- The nearest integer, a half going to the even one. -/
def roundEven (x : Double) : Double := x.toIntegral .halfEven

/-- The nearest integer to a finite double, a half going to the even one. -/
def toInt? (x : Double) : Option Int :=
  if x.isFinite then
    let size : Int := Rounding.halfEven.divide x.numerator x.denominator
    some (if x.isNegative then -size else size)
  else none

/-! ## Remainder -/

/-- The exact remainder of a truncated division; it has the sign of the dividend. -/
def remainder (x y : Double) : Double :=
  if x.isNaN ∨ y.isNaN ∨ x.isInfinite ∨ y.isZero then nan
  else if y.isInfinite then x
  else
    let whole := x.numerator * y.denominator % (y.numerator * x.denominator)
    ofQuotient x.isNegative whole (x.denominator * y.denominator)

instance : Mod Double := ⟨remainder⟩

end Double

end ClockedFormula
