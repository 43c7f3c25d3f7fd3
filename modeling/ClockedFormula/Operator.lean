import ClockedFormula.Expr
import ClockedFormula.Recipe
import ClockedFormula.Value.Arithmetic
import ClockedFormula.Value.Comparison
/-!
# Operators

What each operator does with its operands.  The logical operators and the conditional ask only for
the operands that decide the result.  All others ask for the left operand and then for the right one;
the operators on bits convert the left one before they ask for the right one.
-/

namespace ClockedFormula

open Recipe

variable {σ : Type}

namespace UnaryOperator

/-- The result of an operator from the value of its operand. -/
def apply (op : UnaryOperator) (v : Value) : Attempt Value :=
  match op with
  | not => do return .boolean !(← v.toBool)
  | negate => Value.subtract (.integer 0) v
  | bitwiseNot => do
    let bits ← v.toUInt16
    return .integer (Int64.ofInt (~~~bits).toNat)

def recipe (op : UnaryOperator) : Recipe σ 1 Value := do
  op.apply (← operand 0)

end UnaryOperator

namespace BinaryOperator

/-- Text on the left is continued by the plain text of anything; otherwise numbers are added. -/
def join (left right : Value) : Attempt Value :=
  if left.isText then .ok (.text (left.plainText ++ right.plainText)) else left.add right

/-- Division is carried out on floats unless a decimal takes part. -/
def quotient (left right : Value) : Attempt Value :=
  if left.isReal || right.isReal then left.divide right
  else do (Value.float (← left.toDouble)).divide right

/-- The truth of a comparison from the order of its operands. -/
def holdsFor (accepts : Ordering → Bool) (left right : Value) : Attempt Value := do
  return .boolean (accepts (← Value.compare left right))

/-- Evaluate both operands and combine their values. -/
def combine (operation : Value → Value → Attempt Value) : Recipe σ 2 Value := do
  let left ← operand 0
  let right ← operand 1
  operation left right

/-- The lowest five bits say how far a shift goes. -/
def shiftAmount (right : UInt16) : Nat := right.toNat % 32

/-- Combine the low 16 bits of both operands. -/
def combineBits (operation : UInt16 → UInt16 → Int) : Recipe σ 2 Value := do
  let left ← (← operand 0).toUInt16
  let right ← (← operand 1).toUInt16
  return .integer (Int64.ofInt (operation left right))

/-- Evaluate the left operand, and the right one only where the left one does not decide. -/
def shortCircuit (deciding : Bool) : Recipe σ 2 Value := do
  let left ← (← operand 0).toBool
  if left = deciding then return .boolean deciding
  else return .boolean (← (← operand 1).toBool)

def recipe : BinaryOperator → Recipe σ 2 Value
  | and => shortCircuit false
  | or => shortCircuit true
  | equal => combine (holdsFor (· == .eq))
  | notEqual => combine (holdsFor (· != .eq))
  | less => combine (holdsFor (· == .lt))
  | lessOrEqual => combine (holdsFor (· != .gt))
  | greater => combine (holdsFor (· == .gt))
  | greaterOrEqual => combine (holdsFor (· != .lt))
  | plus => combine join
  | minus => combine Value.subtract
  | times => combine Value.multiply
  | divide => combine quotient
  | modulo => combine Value.modulo
  | bitwiseAnd => combineBits fun left right => (left &&& right).toNat
  | bitwiseOr => combineBits fun left right => (left ||| right).toNat
  | bitwiseXor => combineBits fun left right => (left ^^^ right).toNat
  -- A left shift keeps the low 32 bits, read as a signed number.
  | leftShift => combineBits fun left right =>
      Int.bmod (left.toNat * 2 ^ shiftAmount right : Nat) (2 ^ 32)
  | rightShift => combineBits fun left right => (left.toNat / 2 ^ shiftAmount right : Nat)

end BinaryOperator

/-- Evaluate the condition and then the branch that it selects. -/
def choose : Recipe σ 3 Value := do
  if ← (← operand 0).toBool then operand 1 else operand 2

end ClockedFormula
