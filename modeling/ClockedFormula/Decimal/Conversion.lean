import ClockedFormula.Decimal
import ClockedFormula.Double.Exact
/-!
# Between decimals and doubles

A decimal becomes a double through the rounded sum of its whole part and its fraction, cleaned by one
rounding at its own scale.  A double becomes a decimal of about sixteen digits: its binary exponent
is traded for a decimal one, factor by factor within 96 bits, and then the digits that a double
cannot hold are rounded off.
-/

namespace ClockedFormula

namespace Decimal

/-! ## To a double -/

/-- The double of a magnitude. -/
def magnitudeToDouble (coefficient scale : Nat) : Double :=
  if scale = 0 then Double.ofNat coefficient
  else
    let whole := Double.ofNat (coefficient / 10 ^ scale)
    let fraction := Double.ofNat (coefficient % 10 ^ scale) / Double.ofNat (10 ^ scale)
    if fraction.isZero then whole
    else
      let unit := (Double.ofNat 10).power scale
      ((whole + fraction) * unit).roundAway / unit

/-- The double of a decimal.  A zero without a fraction is an integer, which has no sign to keep. -/
def toDouble (x : Decimal) : Double :=
  let magnitude := magnitudeToDouble x.coefficient x.scale
  if x.isZero && x.scale == 0 then magnitude
  else if x.negative then magnitude.negate
  else magnitude

/-! ## From a double -/

/-- Trade as many halves for tenths: a tenth is a fifth of a half.  A coefficient that is even, or
that has no room for the factor five, is halved instead. -/
def tradeHalves (coefficient : Nat) (tens : Int) : (halves : Nat) → Nat × Int
  | 0 => (coefficient, tens)
  | halves + 1 =>
    if coefficient % 2 = 0 ∨ coefficientBound ≤ 5 * coefficient then
      tradeHalves (coefficient / 2) (tens + 1) halves
    else tradeHalves (5 * coefficient) tens halves

/-- Divide by five so many times: as twice the number over ten while there is room for the double,
and with a loss after that, unless the power of ten is too great already. -/
def tradeFives? (coefficient : Nat) (tens : Int) : (fives : Nat) → Option (Nat × Int)
  | 0 => some (coefficient, tens)
  | fives + 1 =>
    if coefficient < 2 ^ 95 then tradeFives? (2 * coefficient) (tens - 1) fives
    else if (fives + 1 : Int) < 2 * tens then none
    else tradeFives? (coefficient / 5) tens fives

/-- Drop one digit, five and more rounding up. -/
def dropRounded (coefficient : Nat) : Nat := Rounding.halfUp.divide coefficient 10

/-- Drop digits down to the greatest scale.  A number that vanishes on the way is a plain zero. -/
def shorten (coefficient : Nat) : (scale : Nat) → Nat × Nat
  | 0 => (coefficient, 0)
  | scale + 1 =>
    if scale + 1 ≤ scaleBound then (coefficient, scale + 1)
    else if coefficient / 10 = 0 then (0, 0)
    else shorten (dropRounded coefficient) scale

/-- Drop the digits of the fraction that a double does not determine. -/
def dropUncertain (coefficient : Nat) : (scale : Nat) → Nat × Nat
  | 0 => (coefficient, 0)
  | scale + 1 =>
    if coefficient < 2 ^ 52 then (coefficient, scale + 1)
    else dropUncertain (dropRounded coefficient) scale

/-- Coefficient and scale of a coefficient times a power of ten. -/
def settle? (coefficient : Nat) (tens : Int) : Option (Nat × Nat) :=
  if 0 < tens then
    if coefficient * 10 ^ tens.toNat < coefficientBound then some (coefficient * 10 ^ tens.toNat, 0)
    else none
  else
    let (coefficient, scale) := shorten coefficient (-tens).toNat
    let (coefficient, scale) := dropUncertain coefficient scale
    some (dropZeros coefficient scale)

/-- The decimal of a finite double, if it is not too great.  A number too small for the scale
becomes a zero of its sign. -/
def ofDouble? (x : Double) : Option Decimal :=
  if !x.isFinite then none
  else if x.isZero then ofParts? x.isNegative 0 0
  else
    let traded :=
      if x.exponent ≤ 0 then some (tradeHalves x.significand x.exponent (-x.exponent).toNat)
      else tradeFives? x.significand x.exponent x.exponent.toNat
    (traded.bind fun (coefficient, tens) => settle? coefficient tens).bind
      fun (coefficient, scale) => ofParts? x.isNegative coefficient scale

end Decimal

end ClockedFormula
