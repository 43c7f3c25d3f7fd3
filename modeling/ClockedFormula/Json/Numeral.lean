import ClockedFormula.Double.Exact
import ClockedFormula.Integer
/-!
# Numbers in JSON

A literal without fraction and power of ten is an integer as long as it has a place among the signed
or unsigned integers of 64 bits; a zero with a minus sign has none.  Every other literal is a double.

The double is found quickly rather than exactly: the digits that fit are gathered in a whole number
below `2^64`, and one multiplication or division by a power of ten follows.  The result can miss the
nearest double by a unit in the last place when the digits or the power are long.
-/

namespace ClockedFormula

namespace Json

/-- The parts of a number literal. -/
structure Numeral where
  negative : Bool
  whole : List Char
  /-- The digits behind the point, if there is a point. -/
  fraction : Option (List Char)
  /-- The power of ten, if there is one. -/
  power : Option Int

namespace Numeral

/-- Whether a row of digits is the whole part of a number: no zero stands in front. -/
def isWhole : List Char → Bool
  | [] => false
  | ['0'] => true
  | '0' :: _ => false
  | _ => true

/-- A point with at least one digit behind it, and the rest of the literal. -/
def splitFraction? : List Char → Option (Option (List Char) × List Char)
  | '.' :: rest =>
    let digits := rest.takeWhile Char.isDigit
    if digits = [] then none else some (some digits, rest.dropWhile Char.isDigit)
  | rest => some (none, rest)

/-- A mark with an integer behind it, or nothing at all. -/
def power? : List Char → Option (Option Int)
  | [] => some none
  | mark :: rest => if mark = 'e' ∨ mark = 'E' then (Text.integer? rest).map some else none

/-- The parts of a literal, if it is written as JSON wants it. -/
def ofLiteral? (literal : List Char) : Option Numeral := do
  let (negative, unsigned) := match literal with
    | '-' :: rest => (true, rest)
    | rest => (false, rest)
  let whole := unsigned.takeWhile Char.isDigit
  if isWhole whole then
    let (fraction, rest) ← splitFraction? (unsigned.dropWhile Char.isDigit)
    let power ← power? rest
    return { negative := negative, whole := whole, fraction := fraction, power := power }
  else none

/-- The integer that a literal stands for, if it is one. -/
def toInt? (n : Numeral) : Option Int :=
  if n.fraction.isSome ∨ n.power.isSome then none
  else
    let size : Int := Text.digitsValue n.whole
    if n.negative then if size = 0 then none else some (-size) else some size

def toInt64? (n : Numeral) : Option Int64 := n.toInt?.bind Integer.signed?

def toUInt64? (n : Numeral) : Option UInt64 := n.toInt?.bind Integer.unsigned?

/-! ## Doubles -/

/-- Gather digits of the whole part while they fit into 64 bits; the others raise the power. -/
def gatherWhole (significand : Nat) : List Char → Nat × Int
  | [] => (significand, 0)
  | digit :: rest =>
    let next := Text.appendDigit significand digit
    if next < 2 ^ 64 then gatherWhole next rest else (significand, rest.length + 1)

/-- Gather digits of the fraction while they fit into 64 bits, each lowering the power by one; the
others are dropped. -/
def gatherFraction (significand : Nat) (power : Int) : List Char → Nat × Int
  | [] => (significand, power)
  | digit :: rest =>
    let next := Text.appendDigit significand digit
    if next < 2 ^ 64 then gatherFraction next (power - 1) rest else (significand, power)

/-- The greatest power of ten that a double can be multiplied or divided by. -/
def powerBound : Nat := 308

/-- A double times a power of ten, in steps within the range of doubles. -/
def scale? (x : Double) (power : Int) : Option Double :=
  if power.natAbs ≤ powerBound then
    let unit := Double.ofScientific false 1 power.natAbs
    let scaled := if 0 ≤ power then x * unit else x / unit
    if scaled.isFinite then some scaled else none
  else if x.isZero then some x
  else if 0 ≤ power then none
  else scale? (x / Double.ofScientific false 1 powerBound) (power + powerBound)
termination_by power.natAbs
decreasing_by
  simp only [powerBound] at *
  omega

/-- The double that a literal stands for; a number that is too great has none. -/
def toDouble? (n : Numeral) : Option Double :=
  let sign := fun x : Double => if n.negative then x.negate else x
  match n.toInt64?.map Int64.toInt, n.toUInt64?.map UInt64.toNat with
  | some i, _ => some (Double.ofInt i)
  | _, some u => some (Double.ofNat u)
  | _, _ =>
    let (significand, more) := gatherWhole 0 n.whole
    let (significand, power) := gatherFraction significand more (n.fraction.getD [])
    (scale? (Double.ofNat significand) (power + n.power.getD 0)).map sign

end Numeral

end Json

end ClockedFormula
