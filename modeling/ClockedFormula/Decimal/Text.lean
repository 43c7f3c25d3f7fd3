import ClockedFormula.Decimal.Arithmetic
import ClockedFormula.Text.Numeral
/-!
# Decimals as text

A decimal is written with as many digits after the point as its scale says.  It is read from digits
with at most one point and with underscores anywhere after the first digit.  Digits beyond the bounds
of a decimal are dropped when they stand behind the point, the first of them deciding the rounding;
behind the last place of a short number an underscore takes the place of that digit, and nothing is
rounded.

Text that is no plain number may have a power of ten behind the letter `e`, which moves the point or
multiplies.
-/

namespace ClockedFormula

namespace Decimal

/-! ## Writing -/

/-- Sign, whole part, and as many digits of the fraction as the scale says. -/
def toChars (x : Decimal) : List Char :=
  let sign := if x.negative then ['-'] else []
  let whole := Text.digitsOf (x.coefficient / 10 ^ x.scale)
  let digits := Text.digitsOf (x.coefficient % 10 ^ x.scale)
  let fraction :=
    if x.scale = 0 then []
    else '.' :: (List.replicate (x.scale - digits.length) '0' ++ digits)
  sign ++ whole ++ fraction

def toText (x : Decimal) : String := String.ofList x.toChars

/-! ## Reading -/

/-- A numeral read so far: its digits as a number, how many of them stand behind the point, whether
the point was seen, and whether a digit was seen. -/
structure Reading where
  coefficient : Nat
  scale : Nat
  pointSeen : Bool
  digitSeen : Bool

namespace Reading

def start : Reading := ⟨0, 0, false, false⟩

/-- The first digit that is dropped rounds the number up from five on.  Should it thereby leave the
bounds, it loses one more digit, if there still is one behind the point. -/
def roundAt? (reading : Reading) (dropped : Char) : Option (Nat × Nat) :=
  let coefficient := reading.coefficient + (if '5' ≤ dropped then 1 else 0)
  if coefficient < coefficientBound then some (coefficient, reading.scale)
  else if reading.scale = 0 then none
  else some ((coefficient + 4) / 10, reading.scale - 1)

/-- Whether the last place behind the point is filled. -/
def isFull (reading : Reading) : Bool := reading.pointSeen && reading.scale == scaleBound

/-- Whether the digits before the last one leave room for a further digit in 64 bits, with some to
spare. -/
def isShort (reading : Reading) : Bool :=
  reading.coefficient / 10 < (2 ^ 64 - 1) / 10 - 255

/-- Whether there is nothing but digits and underscores. -/
def isTail (text : List Char) : Bool := text.all fun c => c.isDigit || c == '_'

/-- Read to the end of the text; the result is a coefficient and its scale. -/
def finish? (reading : Reading) : List Char → Option (Nat × Nat)
  | [] => if reading.digitSeen then some (reading.coefficient, reading.scale) else none
  | c :: rest =>
    if c.isDigit then
      let coefficient := Text.appendDigit reading.coefficient c
      let scale := if reading.pointSeen then reading.scale + 1 else reading.scale
      if coefficient < coefficientBound ∧ scale ≤ scaleBound then
        finish? { reading with coefficient := coefficient, scale := scale, digitSeen := true } rest
      else if reading.pointSeen ∧ isTail rest then reading.roundAt? c
      else none
    else if c = '.' ∧ !reading.pointSeen then
      finish? { reading with pointSeen := true } rest
    else if c = '_' ∧ reading.digitSeen then
      if reading.isFull && reading.isShort then
        if isTail rest then some (reading.coefficient, reading.scale) else none
      else finish? reading rest
    else none

end Reading

/-- Digits with at most one point, after at most one sign; the sign of a zero is dropped. -/
def ofPlainChars? (text : List Char) : Option Decimal :=
  let (negative, digits) := match text with
    | '-' :: rest => (true, rest)
    | '+' :: rest => (false, rest)
    | rest => (false, rest)
  (Reading.start.finish? digits).bind fun (coefficient, scale) => make? negative coefficient scale

/-- The whole power of ten, which always fits. -/
def tens? (exponent : Nat) : Option Decimal := ofParts? false (10 ^ exponent) 0

/-- The number times a power of ten.  As long as the power only uses up the fraction, the point
moves; beyond that the number is multiplied, in two steps for great powers. -/
def raise? (x : Decimal) (power : Nat) : Option Decimal :=
  if power ≤ x.scale then ofParts? x.negative x.coefficient (x.scale - power)
  else if scaleBound < power then none
  else
    let product :=
      if 19 ≤ power then
        ((tens? 19).bind x.mul?).bind fun y => (tens? (power - 19)).bind y.mul?
      else (tens? power).bind x.mul?
    product.bind fun y =>
      let (coefficient, scale) := dropZeros y.coefficient y.scale
      ofParts? y.negative coefficient scale

/-- The number over a power of ten.  Where the scale ends, the fraction is rounded, a half going away
from zero. -/
def lower? (x : Decimal) (power : Nat) : Option Decimal :=
  if scaleBound < power then none
  else if x.scale + power ≤ scaleBound then ofParts? x.negative x.coefficient (x.scale + power)
  else
    let dropped := x.scale + power - scaleBound
    ofParts? x.negative (Rounding.halfUp.divide x.coefficient (10 ^ dropped)) scaleBound

/-- The digits of a power of ten, with at most one plus sign. -/
def power? : List Char → Option Nat
  | '+' :: digits => Text.natural? digits
  | digits => Text.natural? digits

/-- A plain number with a power of ten behind the first `e`. -/
def ofScientificChars? (text : List Char) : Option Decimal :=
  let isMark := fun c : Char => c == 'e' || c == 'E'
  (ofPlainChars? (text.takeWhile fun c => !isMark c)).bind fun base =>
    match text.dropWhile fun c => !isMark c with
    | _ :: '-' :: power => (power? power).bind base.lower?
    | _ :: power => (power? power).bind base.raise?
    | [] => none

/-- The decimal that a text stands for. -/
def ofChars? (text : List Char) : Option Decimal :=
  (ofPlainChars? text).or (ofScientificChars? text)

def ofText? (text : String) : Option Decimal := ofChars? text.toList

end Decimal

end ClockedFormula
