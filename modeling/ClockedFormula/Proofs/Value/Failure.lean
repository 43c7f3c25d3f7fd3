import ClockedFormula.Proofs.Recipe.Failure
import ClockedFormula.Value.Arithmetic
import ClockedFormula.Value.Comparison

namespace ClockedFormula

/-!
# How computations with values can fail

A formula without handlers fails only in ways that are documented.  Computations with values fail in two of
them: a value cannot be converted, or something is divided by zero.
-/

/-- Whether a failure is one of those that a formula can meet without handlers. -/
def EvalError.Documented : EvalError → Prop
  | coercion _ _ => True
  | arityMismatch _ _ _ => True
  | functionNotFound _ _ => True
  | parameterNotDefined _ => True
  | divisionByZero => True
  | invalidArgument _ _ => True
  | clockUnavailable _ => True
  | cancelled => False
  | handler _ => False
  | config _ => False
  | internal _ => False

/-! ## Values -/

namespace Attempt

variable {α β : Type}

/-- Whether an attempt fails only in documented ways. -/
abbrev Documented (attempt : Attempt α) : Prop := FailsOnly EvalError.Documented attempt

end Attempt

open Attempt (Documented FailsOnly)

namespace Value

variable {α : Type}

theorem orCoercion_documented (v : Value) (target : Kind) (found : Option α) :
    Documented (v.orCoercion target found) := by
  cases found with
  | some a => exact .ok a
  | none => exact .error trivial

theorem toBool_documented (v : Value) : Documented v.toBool := by
  unfold toBool
  cases v with
  | text s => exact orCoercion_documented (.text s) .boolean (boolOfText? s)
  | null => exact .ok _
  | boolean b => exact .ok _
  | integer i => exact .ok _
  | float x => exact .ok _
  | decimal x => exact .ok _

theorem toInt64_documented (v : Value) : Documented v.toInt64 := orCoercion_documented v _ _

theorem toDouble_documented (v : Value) : Documented v.toDouble := orCoercion_documented v _ _

theorem toDecimal_documented (v : Value) : Documented v.toDecimal := orCoercion_documented v _ _

theorem toUInt16_documented (v : Value) : Documented v.toUInt16 := (toInt64_documented v).map _

theorem compareAs_documented (target : Kind) (left right : Value) :
    Documented (compareAs target left right) := by
  have both : ∀ {β : Type} {convert : Value → Attempt β} (order : β → β → Ordering),
      (∀ v, Documented (convert v)) →
      Documented (do return order (← convert left) (← convert right)) :=
    fun order known => (known left).bind fun a => (known right).bind fun b => .ok (order a b)
  cases target with
  | integer => exact both (fun a b => Ord.compare a.toInt b.toInt) toInt64_documented
  | float => exact both Double.order toDouble_documented
  | boolean => exact both Ord.compare toBool_documented
  | text => exact .ok _
  | decimal => exact both Decimal.order toDecimal_documented

theorem compare_documented (left right : Value) : Documented (Value.compare left right) := by
  unfold Value.compare
  by_cases leftNull : left.isNull
  · rw [if_pos leftNull]
    exact .ok _
  · rw [if_neg leftNull]
    by_cases rightNull : right.isNull
    · rw [if_pos rightNull]
      exact .ok _
    · rw [if_neg rightNull]
      cases Kind.common left.kind? right.kind? with
      | some target => exact compareAs_documented target left right
      | none => exact .ok _

theorem equals_documented (left right : Value) : Documented (left.equals right) :=
  (compare_documented left right).bind fun _ => .ok _

end Value

open Value

theorem Number.ofValue_documented (v : Value) : Documented (Number.ofValue v) := by
  unfold Number.ofValue
  cases v with
  | text s =>
    dsimp only
    cases Integer.ofText? (Text.trim s) with
    | some i => exact .ok _
    | none => exact orCoercion_documented _ _ _
  | null => exact .error trivial
  | boolean b => exact .error trivial
  | integer i => exact .ok _
  | float x => exact .ok _
  | decimal x => exact .ok _

theorem Operands.ofValues_documented (left right : Value) :
    Documented (Operands.ofValues left right) := by
  refine (Number.ofValue_documented left).bind fun a => ?_
  refine (Number.ofValue_documented right).bind fun b => ?_
  have floats : Documented (do
      return Operands.floats (← a.toValue.toDouble) (← b.toValue.toDouble)) :=
    (toDouble_documented _).bind fun _ => (toDouble_documented _).bind fun _ => .ok _
  have decimals : Documented (do
      return Operands.decimals (← a.toValue.toDecimal) (← b.toValue.toDecimal)) :=
    (toDecimal_documented _).bind fun _ => (toDecimal_documented _).bind fun _ => .ok _
  cases a with
  | integer i =>
    cases b with
    | integer j => exact .ok _
    | float y => exact floats
    | decimal y => exact decimals
  | float x =>
    cases b with
    | integer j => exact floats
    | float y => exact floats
    | decimal y => exact decimals
  | decimal x => cases b <;> exact decimals

namespace Value

/-- An operation of arithmetic fails as its operands do, or as it does on numbers of one kind. -/
theorem arithmetic_documented {operation : Operands → Attempt Value}
    (known : ∀ operands, Documented (operation operands)) (left right : Value) :
    Documented (Operands.ofValues left right >>= operation) :=
  (Operands.ofValues_documented left right).bind known

theorem add_documented (left right : Value) : Documented (left.add right) :=
  arithmetic_documented (fun operands => by cases operands <;> exact .ok _) left right

theorem subtract_documented (left right : Value) : Documented (left.subtract right) :=
  arithmetic_documented (fun operands => by cases operands <;> exact .ok _) left right

theorem multiply_documented (left right : Value) : Documented (left.multiply right) :=
  arithmetic_documented (fun operands => by cases operands <;> exact .ok _) left right

theorem maximum_documented (left right : Value) : Documented (left.maximum right) :=
  arithmetic_documented (fun operands => by cases operands <;> exact .ok _) left right

theorem minimum_documented (left right : Value) : Documented (left.minimum right) :=
  arithmetic_documented (fun operands => by cases operands <;> exact .ok _) left right

theorem unlessZero_documented {zero : Prop} [Decidable zero] (v : Value) :
    Documented (if zero then throw .divisionByZero else return v) := by
  by_cases isZero : zero
  · rw [if_pos isZero]
    exact .error trivial
  · rw [if_neg isZero]
    exact .ok v

theorem divide_documented (left right : Value) : Documented (left.divide right) :=
  arithmetic_documented (fun operands => by
    cases operands with
    | integers a b => exact unlessZero_documented _
    | floats a b => exact .ok _
    | decimals a b => exact unlessZero_documented _) left right

theorem modulo_documented (left right : Value) : Documented (left.modulo right) :=
  arithmetic_documented (fun operands => by
    cases operands with
    | integers a b => exact unlessZero_documented _
    | floats a b => exact .ok _
    | decimals a b => exact unlessZero_documented _) left right

end Value

end ClockedFormula
