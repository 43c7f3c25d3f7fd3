import ClockedFormula.Decimal
/-!
# Decimal arithmetic

Each operation computes exactly and then rounds at most once, dropping as few digits of the fraction
as will make the result fit, a half going to the even digit.  A result that does not fit even as a
whole number is `none`.

Division develops the quotient in blocks of at most nine digits.  It stops as soon as nothing
remains, so an exact quotient keeps the digits of its last block, `1/2` being `0.50`; a quotient that
had a remainder on the way then loses trailing zeros again, in the order in which the blocks of eight,
four, two and one are tried.

A remainder is exact as long as long division has room for it.
-/

namespace ClockedFormula

namespace Decimal

/-- The number `± coefficient / 10 ^ scale` for parts of any size, rounded once at the greatest scale
at which it fits. -/
def fit? (negative : Bool) (coefficient scale : Nat) : Option Decimal :=
  (List.range (scale + 1)).findSome? fun dropped =>
    ofParts? negative (Rounding.halfEven.divide coefficient (10 ^ dropped)) (scale - dropped)

/-- A zero adds nothing, not even its scale. -/
def add? (x y : Decimal) : Option Decimal :=
  if x.isZero then some y
  else if y.isZero then some x
  else
    let scale := Max.max x.scale y.scale
    let sum := x.unitsAt scale + y.unitsAt scale
    fit? (sum < 0) sum.natAbs scale

def sub? (x y : Decimal) : Option Decimal := x.add? y.opposite

/-- Whether the coefficient fits into 32 bits. -/
def isShort (x : Decimal) : Bool := x.coefficient < 2 ^ 32

/-- A product with a zero is the plain zero.  One of two short coefficients has no sign where it rounds
to zero, and is the plain zero where it lies beyond any scale; one of longer coefficients keeps its
sign whatever it rounds to. -/
def mul? (x y : Decimal) : Option Decimal :=
  if x.isZero || y.isZero then some zero
  else
    let product :=
      fit? (x.negative != y.negative) (x.coefficient * y.coefficient) (x.scale + y.scale)
    if x.isShort && y.isShort then
      if 47 < x.scale + y.scale then some zero else product.map withoutZeroSign
    else product

/-! ## Division -/

/-- A quotient in development: the digits so far and their scale, which may still be negative, what
remains of the dividend in units of the last digit, and whether a remainder was met. -/
structure Quotient where
  digits : Nat
  scale : Int
  remainder : Nat
  inexact : Bool

namespace Quotient

/-- Drop the last digit, a half going to the even digit unless something lies beyond it. -/
def dropDigit? (q : Quotient) (beyond : Bool) : Option Quotient :=
  if q.scale ≤ 0 then none
  else
    let rule : Rounding := if beyond then .halfUp else .halfEven
    some { q with digits := rule.divide q.digits 10, scale := q.scale - 1 }

/-- Round the last digit by what remains, a half going to the even digit. -/
def roundLast? (q : Quotient) (divisor : Nat) : Option Quotient :=
  let digits := Rounding.halfEven.divide (q.digits * divisor + q.remainder) divisor
  if digits < coefficientBound then some { q with digits := digits }
  else { q with digits := digits }.dropDigit? true

/-- The greatest number of further digits, nine at most, for which scale and coefficient have room. -/
def room (q : Quotient) : Nat :=
  let most := Min.min 9 (28 - q.scale).toNat
  ((List.range (most + 1)).reverse.find? fun more =>
    decide (q.digits * 10 ^ more < coefficientBound)).getD 0

/-- The number of digits in the next block: a scale that is still negative is brought towards zero
even when nothing remains. -/
def nextBlock (q : Quotient) : Nat :=
  if q.remainder = 0 then Min.min 9 (-q.scale).toNat else q.room

/-- Develop the quotient block by block until nothing remains or there is no more room. -/
def develop? (divisor : Nat) (q : Quotient) : Option Quotient :=
  if q.remainder = 0 ∧ 0 ≤ q.scale then some q
  else
    let inexact := q.inexact || q.remainder != 0
    let block := q.nextBlock
    if q.remainder ≠ 0 ∧ q.scale ≠ 28 ∧ block < 9 ∧ q.scale + block < 0 then none
    else if progress : 0 < block ∧ q.scale + block ≤ 28 then
      let whole := q.remainder * 10 ^ block
      let next : Quotient :=
        { digits := q.digits * 10 ^ block + whole / divisor
          scale := q.scale + block
          remainder := whole % divisor
          inexact := inexact }
      if coefficientBound ≤ q.digits * 10 ^ block then none
      else if coefficientBound ≤ next.digits then next.dropDigit? (next.remainder != 0)
      else develop? divisor next
    else { q with inexact := inexact }.roundLast? divisor
termination_by (28 - q.scale).toNat
decreasing_by omega

/-- Trailing zeros of the fraction go in blocks of eight, as long as the last 32 bits are clear. -/
def stripEights (digits scale : Nat) : Nat × Nat :=
  if 8 ≤ scale ∧ digits % 2 ^ 32 = 0 ∧ digits % 10 ^ 8 = 0 then
    stripEights (digits / 10 ^ 8) (scale - 8)
  else (digits, scale)
termination_by scale

/-- A block of trailing zeros of the fraction goes once, if it is there. -/
def stripOnce (width : Nat) (number : Nat × Nat) : Nat × Nat :=
  if width ≤ number.2 ∧ number.1 % 10 ^ width = 0 then
    (number.1 / 10 ^ width, number.2 - width)
  else number

/-- Digits and scale of the finished quotient. -/
def finish (q : Quotient) : Nat × Nat :=
  if q.inexact then stripOnce 1 (stripOnce 2 (stripOnce 4 (stripEights q.digits q.scale.toNat)))
  else (q.digits, q.scale.toNat)

end Quotient

/-- The quotient by a divisor that is not zero. -/
def div? (x y : Decimal) : Option Decimal :=
  if x.isZero then some zero
  else
    let start : Quotient :=
      { digits := x.coefficient / y.coefficient
        scale := (x.scale : Int) - y.scale
        remainder := x.coefficient % y.coefficient
        inexact := false }
    (start.develop? y.coefficient).bind fun quotient =>
      let (digits, scale) := quotient.finish
      make? (x.negative != y.negative) digits scale

/-! ## Remainder -/

/-- One step of long division in words of 32 bits: the next word joins the remainder so far, and the
multiples of the divisor go.  A remainder that agrees with the divisor in the bits from the 64th on
leaves no room for the word, and loses those bits as the word joins it. -/
def takeWord (divisor remainder word : Nat) : Nat :=
  let joined := remainder * 2 ^ 32 + word
  let kept := if remainder / 2 ^ 64 = divisor / 2 ^ 64 then joined % 2 ^ 96 else joined
  kept % divisor

/-- The remainder by a divisor between `2^64` and `2^96`, of which both numbers are shifted until the
divisor has all of 96 bits.  Seven words hold every dividend.  It is the true remainder unless a step
of the long division was short of room. -/
def longRemainder (dividend divisor : Nat) : Nat :=
  let shift := 95 - divisor.log2
  let aligned := dividend * 2 ^ shift
  let words := (List.range 7).reverse.map fun place => aligned / 2 ^ (32 * place) % 2 ^ 32
  words.foldl (takeWord (divisor * 2 ^ shift)) 0 / 2 ^ shift

/-- The remainder of two magnitudes; only a divisor beyond 64 bits needs long division. -/
def remainder (dividend divisor : Nat) : Nat :=
  if divisor < 2 ^ 64 then dividend % divisor else longRemainder dividend divisor

/-- The remainder of a truncated division by a divisor that is not zero; it has the sign of the
dividend. -/
def mod? (x y : Decimal) : Option Decimal :=
  let scale := Max.max x.scale y.scale
  let dividend := (x.unitsAt scale).natAbs
  let divisor := (y.unitsAt scale).natAbs
  if dividend = 0 ∨ dividend = divisor then some zero
  else if dividend < divisor then some x
  else make? x.negative (remainder dividend divisor) scale

end Decimal

end ClockedFormula
