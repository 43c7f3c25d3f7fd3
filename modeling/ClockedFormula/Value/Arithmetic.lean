import ClockedFormula.Decimal.Arithmetic
import ClockedFormula.Value.Conversion
/-!
# Arithmetic on values

The operands of an operation are numbers, or text that stands for one.  They are brought to a common
kind: decimal if one of them is a decimal, otherwise float if one is a float, otherwise integer.
Integer arithmetic is exact; a result of more than 64 bits is computed with floats instead, and so is
a decimal result that does not fit.
-/

namespace ClockedFormula

/-- A value that arithmetic accepts. -/
inductive Number where
  | integer (i : Int64)
  | float (x : Double)
  | decimal (x : Decimal)
deriving DecidableEq

namespace Number

def toValue : Number → Value
  | integer i => .integer i
  | float x => .float x
  | decimal x => .decimal x

/-- The number that a value is or stands for; null and truth values are none. -/
def ofValue (v : Value) : Attempt Number :=
  match v with
  | .integer i => .ok (integer i)
  | .float x => .ok (float x)
  | .decimal x => .ok (decimal x)
  | .text s =>
    let trimmed := Text.trim s
    match Integer.ofText? trimmed with
    | some i => .ok (integer i)
    | none => v.orCoercion .float ((Double.ofText? trimmed).map float)
  | .null => .error (.coercion v .float)
  | .boolean _ => .error (.coercion v .float)

end Number

/-- Two numbers of one kind. -/
inductive Operands where
  | integers (left right : Int64)
  | floats (left right : Double)
  | decimals (left right : Decimal)

namespace Operands

/-- Two numbers brought to their common kind. -/
def ofNumbers (left right : Number) : Attempt Operands :=
  match left, right with
  | .integer a, .integer b => .ok (integers a b)
  | .decimal _, _ | _, .decimal _ => do
    let a ← left.toValue.toDecimal
    let b ← right.toValue.toDecimal
    return decimals a b
  | _, _ => do
    let a ← left.toValue.toDouble
    let b ← right.toValue.toDouble
    return floats a b

/-- Two values as numbers of one kind.  The left value is looked at first. -/
def ofValues (left right : Value) : Attempt Operands := do
  let a ← Number.ofValue left
  let b ← Number.ofValue right
  ofNumbers a b

end Operands

namespace Value

/-- An exact integer if it has 64 bits, and a float otherwise. -/
def exactOr (exact : Int) (otherwise : Double) : Value :=
  match Integer.signed? exact with
  | some i => .integer i
  | none => .float otherwise

/-- A decimal result if it fits, and the same operation on floats otherwise. -/
def decimalOr (result : Option Decimal) (operation : Double → Double → Double)
    (left right : Decimal) : Value :=
  match result with
  | some x => .decimal x
  | none => .float (operation left.toDouble right.toDouble)

def add (left right : Value) : Attempt Value := do
  match ← Operands.ofValues left right with
  | .integers a b => return exactOr (a.toInt + b.toInt) (.ofInt a.toInt + .ofInt b.toInt)
  | .floats a b => return .float (a + b)
  | .decimals a b => return decimalOr (a.add? b) (· + ·) a b

def subtract (left right : Value) : Attempt Value := do
  match ← Operands.ofValues left right with
  | .integers a b => return exactOr (a.toInt - b.toInt) (.ofInt a.toInt - .ofInt b.toInt)
  | .floats a b => return .float (a - b)
  | .decimals a b => return decimalOr (a.sub? b) (· - ·) a b

def multiply (left right : Value) : Attempt Value := do
  match ← Operands.ofValues left right with
  | .integers a b => return exactOr (a.toInt * b.toInt) (.ofInt a.toInt * .ofInt b.toInt)
  | .floats a b => return .float (a * b)
  | .decimals a b => return decimalOr (a.mul? b) (· * ·) a b

/-- Integer division truncates.  Only floats can be divided by zero. -/
def divide (left right : Value) : Attempt Value := do
  match ← Operands.ofValues left right with
  | .integers a b =>
    if b = 0 then throw .divisionByZero
    else return exactOr (a.toInt.tdiv b.toInt) (.ofInt a.toInt / .ofInt b.toInt)
  | .floats a b => return .float (a / b)
  | .decimals a b =>
    if b.isZero then throw .divisionByZero
    else return decimalOr (a.div? b) (· / ·) a b

/-- The remainder of the truncated division; it has the sign of the dividend. -/
def modulo (left right : Value) : Attempt Value := do
  match ← Operands.ofValues left right with
  | .integers a b =>
    if b = 0 then throw .divisionByZero
    else return .integer (Int64.ofInt (a.toInt.tmod b.toInt))
  | .floats a b => return .float (a % b)
  | .decimals a b =>
    if b.isZero then throw .divisionByZero
    else return decimalOr (a.mod? b) (· % ·) a b

def maximum (left right : Value) : Attempt Value := do
  match ← Operands.ofValues left right with
  | .integers a b => return .integer (if a < b then b else a)
  | .floats a b => return .float (a.max b)
  | .decimals a b => return .decimal (a.max b)

def minimum (left right : Value) : Attempt Value := do
  match ← Operands.ofValues left right with
  | .integers a b => return .integer (if b < a then b else a)
  | .floats a b => return .float (a.min b)
  | .decimals a b => return .decimal (a.min b)

end Value

end ClockedFormula
