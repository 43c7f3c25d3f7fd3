import ClockedFormula.Double.Exact
import ClockedFormula.Text.Numeral
/-!
# Reading a double

A number is written with digits, at most one point among or around them, and a power of ten after
the letter `e`.  The names of infinity and of not-a-number are read in any case.  Everything may have
a sign.  The result is the nearest double; numbers that are too great are infinite.
-/

namespace ClockedFormula

namespace Double

/-- What follows the point of a number, split from the rest; no point, no fraction. -/
def splitFraction : List Char → List Char × List Char
  | '.' :: rest => (rest.takeWhile Char.isDigit, rest.dropWhile Char.isDigit)
  | rest => ([], rest)

/-- The power of ten after a number; none is written for the power zero. -/
def exponent? : List Char → Option Int
  | [] => some 0
  | 'e' :: power => Text.integer? power
  | 'E' :: power => Text.integer? power
  | _ => none

/-- Digits, point and power of ten, without a sign. -/
def numeral? (text : List Char) : Option Double :=
  let whole := text.takeWhile Char.isDigit
  let (fraction, rest) := splitFraction (text.dropWhile Char.isDigit)
  if whole = [] ∧ fraction = [] then none
  else (exponent? rest).map fun power =>
    ofScientific false (Text.digitsValue (whole ++ fraction)) (power - fraction.length)

/-- A number or one of the names, without a sign. -/
def ofUnsignedText? (text : List Char) : Option Double :=
  let name := String.ofList (text.map Char.toLower)
  if name = "inf" ∨ name = "infinity" then some (infinity false)
  else if name = "nan" then some nan
  else numeral? text

/-- The double that a text stands for. -/
def ofText? (text : String) : Option Double :=
  match text.toList with
  | '-' :: rest => (ofUnsignedText? rest).map negate
  | '+' :: rest => ofUnsignedText? rest
  | rest => ofUnsignedText? rest

end Double

end ClockedFormula
