import ClockedFormula.Proofs.Operator.Order
import ClockedFormula.Proofs.Value.Order
import ClockedFormula.Proofs.Walk.Node

namespace ClockedFormula

/-!
# Operators that combine the values of both operands

Most operators between two expressions wait until both of them have come to values, and then they look at the
values only.  What such an operator comes to does not depend on the world any more; it is a function of two
values, and the world is what the operands have left.

The comparisons are of this sort.  All six of them ask for the same order of the two values, so they succeed or
fail together.
-/

namespace BinaryOperator

/-- What an operator comes to on two values. -/
def outcome (op : BinaryOperator) (v w : Value) : Attempt Value :=
  ((op.recipe : Recipe Unit 2 Value).run (operandsOfTwo (.ok v) (.ok w)) ()).1

/-- Whether an operator waits for the values of both operands and carries out an operation on them. -/
def Combines (op : BinaryOperator) (operation : Value → Value → Attempt Value) : Prop :=
  (op.recipe : Recipe Unit 2 Value) = combine operation

theorem combine_eq (operation : Value → Value → Attempt Value) :
    (combine operation : Recipe Unit 2 Value) =
      .ask 0 fun v => .ask 1 fun w => .ofAttempt (operation v w) := rfl

theorem Combines.outcome_eq {op : BinaryOperator} {operation : Value → Value → Attempt Value}
    (combines : op.Combines operation) (v w : Value) : op.outcome v w = operation v w := by
  rw [outcome, combines, combine_eq]
  exact congrArg Prod.fst (Recipe.run_ofAttempt _ _ ())

end BinaryOperator

open BinaryOperator

variable {enter : Context → Formula → Walk Value} {context : Context}

theorem followPlain_ofAttempt {count : Nat} (operands : Fin count → Walk Value) (attempt : Attempt Value)
    (world : World) :
    (Recipe.ofAttempt attempt).followPlain operands world = Walk.conclude attempt world := by
  cases attempt <;> rfl

/-- Such an operator comes to what it makes of the values of its operands, in the world that they leave. -/
theorem evaluate_combining {op : BinaryOperator} {operation : Value → Value → Attempt Value}
    (combines : op.Combines operation) {left right : Expr} {world middle after : World} {v w : Value}
    (first : evaluate enter context left world = .ok v middle)
    (second : evaluate enter context right middle = .ok w after) :
    evaluate enter context (.binary op left right) world = Walk.conclude (op.outcome v w) after := by
  rw [evaluate_binary, combines, combines.outcome_eq, combine_eq]
  exact (Walk.bind_ok first _).trans
    ((Walk.bind_ok second _).trans (followPlain_ofAttempt _ (operation v w) after))

/-! ## Comparisons -/

namespace BinaryOperator

/-- The operators that compare. -/
inductive Compares : BinaryOperator → Prop
  | less : Compares less
  | equal : Compares equal
  | greater : Compares greater
  | lessOrEqual : Compares lessOrEqual
  | notEqual : Compares notEqual
  | greaterOrEqual : Compares greaterOrEqual

/-- The orders of its operands in which a comparison is true. -/
def accepts : BinaryOperator → Ordering → Bool
  | less => (· == .lt)
  | equal => (· == .eq)
  | greater => (· == .gt)
  | lessOrEqual => (· != .gt)
  | notEqual => (· != .eq)
  | greaterOrEqual => (· != .lt)
  | _ => fun _ => false

/-- The comparison that says the same of its operands in the other order. -/
def converse : BinaryOperator → BinaryOperator
  | less => greater
  | greater => less
  | lessOrEqual => greaterOrEqual
  | greaterOrEqual => lessOrEqual
  | op => op

/-- What the verdicts of the comparisons on two operands have to do with one another: all of them fail alike,
or exactly one of three is true and each of the other three denies one of them. -/
inductive Consistent (verdict : BinaryOperator → Attempt Value) : Prop
  | fails (e : EvalError) (alike : ∀ op, Compares op → verdict op = .error e)
  | holds (truth : BinaryOperator → Bool)
      (known : ∀ op, Compares op → verdict op = .ok (.boolean (truth op)))
      (exactlyOne : [less, equal, greater].countP truth = 1)
      (notGreater : truth lessOrEqual = !truth greater)
      (notLess : truth greaterOrEqual = !truth less)
      (notEqual : truth notEqual = !truth equal)

variable {op : BinaryOperator}

namespace Compares

theorem combines (compares : Compares op) : op.Combines (holdsFor op.accepts) := by
  cases compares <;> rfl

theorem outcome_eq (compares : Compares op) (v w : Value) :
    op.outcome v w = (Value.compare v w).map fun order => .boolean (op.accepts order) :=
  compares.combines.outcome_eq v w

theorem converse (compares : Compares op) : Compares op.converse := by
  cases compares <;> constructor

theorem accepts_converse (compares : Compares op) (order : Ordering) :
    op.converse.accepts order.swap = op.accepts order := by
  cases compares <;> cases order <;> rfl

/-- A comparison says of its operands what its converse says of them in the other order. -/
theorem outcome_converse (compares : Compares op) (v w : Value) :
    op.converse.outcome w v = op.outcome v w := by
  rw [compares.outcome_eq, compares.converse.outcome_eq, Value.compare_swap v w]
  cases Value.compare v w with
  | error e => rfl
  | ok order => exact congrArg (fun b => Except.ok (Value.boolean b)) (compares.accepts_converse order)

end Compares

/-- Comparisons of the same two values fit together. -/
theorem outcome_consistent (v w : Value) : Consistent fun op => op.outcome v w := by
  cases known : Value.compare v w with
  | error e =>
    refine .fails e fun op compares => ?_
    rw [compares.outcome_eq, known]
    rfl
  | ok order =>
    refine .holds (fun op => op.accepts order) (fun op compares => ?_) ?_ rfl rfl rfl
    · rw [compares.outcome_eq, known]
      rfl
    · cases order <;> decide

end BinaryOperator

open BinaryOperator (Compares Consistent)

/-- What the comparison of values has of an order.

Any two values compare to the same effect from either side, so the comparisons of two operands fit together,
and a comparison may be exchanged for its converse with the operands in the other order.  Null and the values
of one kind are in a total preorder. -/
theorem comparison_is_order_where_it_must_be :
    (∀ v w, Value.compare w v = (Value.compare v w).map Ordering.swap) ∧
      (∀ v w, Consistent fun op => op.outcome v w) ∧
      (∀ {op v w}, Compares op → ∀ {enter context left right world middle after},
        (evaluate enter context left world = .ok v middle →
          evaluate enter context right middle = .ok w after →
          evaluate enter context (.binary op left right) world = Walk.conclude (op.outcome v w) after) ∧
        (evaluate enter context right world = .ok w middle →
          evaluate enter context left middle = .ok v after →
          evaluate enter context (.binary op.converse right left) world =
            Walk.conclude (op.outcome v w) after)) ∧
      ∀ kind : Kind, kind.Preorders := by
  refine ⟨Value.compare_swap, BinaryOperator.outcome_consistent, ?_, Kind.preorders⟩
  intro op v w compares enter context left right world middle after
  refine ⟨evaluate_combining compares.combines, fun first second => ?_⟩
  rw [← compares.outcome_converse v w]
  exact evaluate_combining compares.converse.combines first second

/-- A number in front of the text of a greater one. -/
def ascending : Formula :=
  .ofExpr (.binary .less (.literal (.integer 2)) (.literal (.text " 3 "))) .default ⟨0⟩

/-- The text of a number is compared as that number. -/
theorem ascending_comes_to_true :
    evaluate (fun _ _ => throw .exhausted) (Context.ofFormula ascending .blank) ascending.expression
      World.empty = .ok (.boolean true) World.empty := by
  have compared : BinaryOperator.outcome .less (.integer 2) (.text " 3 ") = .ok (.boolean true) := rfl
  have literal : ∀ v world, evaluate (fun _ _ => throw .exhausted) (Context.ofFormula ascending .blank)
      (.literal v) world = .ok v world := fun _ _ => rfl
  have walked := (comparison_is_order_where_it_must_be.2.2.1 .less).1
    (literal (.integer 2) World.empty) (literal (.text " 3 ") World.empty)
  rw [compared] at walked
  exact walked

end ClockedFormula
