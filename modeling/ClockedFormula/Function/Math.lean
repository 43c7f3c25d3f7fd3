import ClockedFormula.Function.Arity
import ClockedFormula.Operator
/-!
# Functions of their arguments

The functions whose results depend on their arguments alone.  Each is a recipe for every number of
arguments that it takes.
-/

namespace ClockedFormula

open Recipe

/-- The functions without clock and memory. -/
inductive MathFunction where
  | abs
  | arccos
  | arcsin
  | arctan
  | ceiling
  | cos
  | exp
  | floor
  | ieeeRemainder
  | ln
  | log
  | log10
  | pow
  | round
  | safediv
  | sign
  | sin
  | sqrt
  | tan
  | truncate
  | max
  | min
  | choose
  | member
deriving DecidableEq

namespace MathFunction

variable {σ : Type}

/-! ## Functions of doubles -/

/-- The distance to the nearest multiple of the divisor, by rounding the quotient. -/
def nearestRemainder (x y : Double) : Double :=
  if y.isZero then .nan else x - y * (x / y).roundEven

/-- The sign of a number as minus one, zero or one. -/
def signOf (x : Double) : Attempt Value :=
  if x.isNaN then .error (.invalidArgument "Sign" "NaN has no sign")
  else if Double.zero.less x then .ok (.integer 1)
  else if x.less .zero then .ok (.integer (-1))
  else .ok (.integer 0)

/-- The most digits after the point to which a double can be rounded. -/
def mostDigits : Nat := 15

/-- From here on every double is an integer. -/
def integerLimit : Double := .ofNat (2 ^ 53)

/-- A double rounded to a number of digits after the point.  A number without room for these digits is
left as it is. -/
def roundTo (awayFromZero : Bool) (x : Double) (digits : Nat) : Double :=
  let unit := (Double.ofNat 10).power digits
  let scaled := x * unit
  if scaled.isFinite ∧ scaled.magnitude < integerLimit.magnitude then
    (if awayFromZero then scaled.roundAway else scaled.roundEven) / unit
  else x

/-- Rounding for a number of digits that may be out of range. -/
def round? (awayFromZero : Bool) (x : Double) (digits : Int64) : Attempt Value :=
  if 0 ≤ digits.toInt ∧ digits.toInt ≤ mostDigits then
    .ok (.float (roundTo awayFromZero x digits.toInt.toNat))
  else
    let given := Integer.toText digits.toInt
    .error (.invalidArgument "Round" s!"digits must be between 0 and {mostDigits}, got {given}")

/-! ## Recipes -/

/-- A function of one double. -/
def ofDouble (f : Double → Double) : Recipe σ 1 Value := do
  return .float (f (← operandDouble 0))

/-- A function of two doubles. -/
def ofDoubles (f : Double → Double → Double) : Recipe σ 2 Value := do
  let x ← operandDouble 0
  let y ← operandDouble 1
  return .float (f x y)

/-- Whether one of the operands at the given positions equals a value; those behind it are not asked
for. -/
def isAmong {count : Nat} (needle : Value) : List (Fin count) → Recipe σ count Value
  | [] => return .boolean false
  | position :: rest => do
    if ← needle.equals (← operand position) then return .boolean true
    else isAmong needle rest

/-- What the function does with so many arguments, if it takes so many.  The flag sends halves away
from zero when numbers are rounded to digits. -/
def recipe? (awayFromZero : Bool) : MathFunction → (count : Nat) → Option (Recipe σ count Value)
  | abs, 1 => some do return .decimal (← (← operand 0).toDecimal).abs
  | arccos, 1 => some (ofDouble Double.arccos)
  | arcsin, 1 => some (ofDouble Double.arcsin)
  | arctan, 1 => some (ofDouble Double.arctan)
  | ceiling, 1 => some (ofDouble Double.ceiling)
  | cos, 1 => some (ofDouble Double.cos)
  | exp, 1 => some (ofDouble Double.exp)
  | floor, 1 => some (ofDouble Double.floor)
  | ieeeRemainder, 2 => some (ofDoubles nearestRemainder)
  | ln, 1 => some (ofDouble Double.ln)
  | log, 2 => some (ofDoubles fun x base => x.ln / base.ln)
  | log10, 1 => some (ofDouble Double.log10)
  | pow, 2 => some (ofDoubles Double.pow)
  | round, 2 => some do
    let x ← operandDouble 0
    let digits ← (← operand 1).toInt64
    round? awayFromZero x digits
  | safediv, 2 => some do
    let numerator ← operandDouble 0
    let denominator ← operandDouble 1
    if denominator.isZero then return .float .zero
    else return .float (numerator / denominator)
  | safediv, 3 => some do
    let numerator ← operandDouble 0
    let denominator ← operandDouble 1
    if denominator.isZero then return .float (numerator / (← operandDouble 2))
    else return .float (numerator / denominator)
  | sign, 1 => some do signOf (← operandDouble 0)
  | sin, 1 => some (ofDouble Double.sin)
  | sqrt, 1 => some (ofDouble Double.sqrt)
  | tan, 1 => some (ofDouble Double.tan)
  | truncate, 1 => some (ofDouble Double.truncate)
  | max, 2 => some (BinaryOperator.combine Value.maximum)
  | min, 2 => some (BinaryOperator.combine Value.minimum)
  | choose, 3 => some ClockedFormula.choose
  | member, count + 2 => some do
    let needle ← operand 0
    isAmong needle (List.finRange (count + 2)).tail
  | _, _ => none

def name : MathFunction → String
  | abs => "Abs"
  | arccos => "Arccos"
  | arcsin => "Arcsin"
  | arctan => "Arctan"
  | ceiling => "Ceiling"
  | cos => "Cos"
  | exp => "Exp"
  | floor => "Floor"
  | ieeeRemainder => "IEEERemainder"
  | ln => "Ln"
  | log => "Log"
  | log10 => "Log10"
  | pow => "Pow"
  | round => "Round"
  | safediv => "Safediv"
  | sign => "Sign"
  | sin => "Sin"
  | sqrt => "Sqrt"
  | tan => "Tan"
  | truncate => "Truncate"
  | max => "Max"
  | min => "Min"
  | choose => "if"
  | member => "in"

def arity : MathFunction → Arity
  | ieeeRemainder | log | pow | round | max | min => .exactly 2
  | safediv => .oneOf [2, 3]
  | choose => .exactly 3
  | member => .atLeast 2
  | _ => .exactly 1

def all : List MathFunction :=
  [abs, arccos, arcsin, arctan, ceiling, cos, exp, floor, ieeeRemainder, ln, log, log10, pow, round,
    safediv, sign, sin, sqrt, tan, truncate, max, min, choose, member]

theorem mem_all (f : MathFunction) : f ∈ all := by
  cases f <;> decide

end MathFunction

end ClockedFormula
