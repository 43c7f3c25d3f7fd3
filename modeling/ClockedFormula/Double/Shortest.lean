import ClockedFormula.Double.Exact
import ClockedFormula.Text.Numeral
/-!
# Writing a double with the fewest digits

The digits written are the fewest from which the nearest-double rule finds the number again, and of
several such rows of digits the nearest to the number.  The search asks `ofScientific` itself, so
that whatever is found reads back by construction; should seventeen digits not do, the exact
expansion is written.

How digits are laid out is a `Layout`: where positional writing ends, what a whole number shows
after its point, how a power of ten is written.
-/

namespace ClockedFormula

namespace Double

/-- The number of digits before the point of a positive finite double; zero or negative when the
first digit stands behind the point.  The shift by 330 places makes the least double a whole
number. -/
def decimalPoint (x : Double) : Int :=
  ((Text.digitsOf (x.numerator * 10 ^ 330 / x.denominator)).length : Int) - 330

/-- The number of digits whose last one has the given place value that is nearest to a finite
double and is read back as this double, if there is one.  Only the two multiples of the place value
around the double come into question. -/
def coefficientAt? (tie : Rounding) (x : Double) (place : Int) : Option Nat :=
  let numerator := x.numerator * 10 ^ (-place).toNat
  let denominator := x.denominator * 10 ^ place.toNat
  let lower := numerator / denominator
  let nearer := tie.divide numerator denominator
  let farther := if nearer = lower then lower + 1 else lower
  [nearer, farther].find? fun coefficient =>
    ofScientific x.isNegative coefficient place == x

/-- A double with all its digits: two to a negative power is five to its magnitude over as many
tens. -/
def expansion (x : Double) : Nat × Int :=
  if x.exponent < 0 then (x.significand * 5 ^ (-x.exponent).toNat, x.exponent)
  else (x.numerator, 0)

/-- Coefficient and power of ten of the fewest digits that are read back as the finite double. -/
def shortest (tie : Rounding) (x : Double) : Nat × Int :=
  let point := x.decimalPoint
  let found := (List.range 17).findSome? fun more =>
    let place := point - (more + 1 : Nat)
    (coefficientAt? tie x place).map fun coefficient => (coefficient, place)
  found.getD x.expansion

/-- A coefficient without its trailing zeros, and the power of ten raised by their number. -/
def significantDigits (coefficient : Nat) (place : Int) : List Char × Int :=
  let digits := Text.digitsOf coefficient
  let kept := (digits.reverse.dropWhile (· == '0')).reverse
  (kept, place + (digits.length - kept.length : Nat))

/-- How the digits of a number are laid out. -/
structure Layout where
  /-- The choice between two rows of digits that are equally near. -/
  tie : Rounding
  /-- The powers of ten of a first digit, from the first number to before the second, that are
  written positionally; without a range all of them are. -/
  positional : Option (Int × Int)
  /-- What follows a whole number that is written positionally. -/
  afterWhole : List Char
  /-- What stands before a power of ten that is not negative. -/
  beforePower : List Char

namespace Layout

/-- Digits with a point at its place, padded with zeros on the side where they fall short. -/
def positionalChars (layout : Layout) (digits : List Char) (point : Int) : List Char :=
  if point ≤ 0 then ['0', '.'] ++ List.replicate (-point).toNat '0' ++ digits
  else if digits.length ≤ point.toNat then
    digits ++ List.replicate (point.toNat - digits.length) '0' ++ layout.afterWhole
  else digits.take point.toNat ++ ['.'] ++ digits.drop point.toNat

/-- One digit before the point, and the power of ten that goes with it. -/
def scientificChars (layout : Layout) (digits : List Char) (point : Int) : List Char :=
  let fraction := match digits.drop 1 with
    | [] => []
    | rest => '.' :: rest
  let power := if point - 1 < 0 then Text.integerChars (point - 1)
    else layout.beforePower ++ Text.integerChars (point - 1)
  digits.take 1 ++ fraction ++ ['e'] ++ power

/-- A finite double that is not negative. -/
def magnitudeChars (layout : Layout) (x : Double) : List Char :=
  if x.isZero then '0' :: layout.afterWhole
  else
    let (coefficient, place) := x.shortest layout.tie
    let (digits, place) := significantDigits coefficient place
    let point := place + digits.length
    match layout.positional with
    | none => layout.positionalChars digits point
    | some (lowest, limit) =>
      if lowest ≤ point - 1 ∧ point - 1 < limit then layout.positionalChars digits point
      else layout.scientificChars digits point

/-- Any double: infinities and not-a-numbers have names, and the sign is that of the pattern, for a
zero too. -/
def write (layout : Layout) (x : Double) : String :=
  if x.isNaN then "NaN"
  else
    let sign := if x.isNegative then ['-'] else []
    if x.isInfinite then String.ofList (sign ++ ['i', 'n', 'f'])
    else String.ofList (sign ++ layout.magnitudeChars (ofMagnitude false x.magnitude))

end Layout

end Double

end ClockedFormula
