import ClockedFormula.Proofs.Evaluation.Plain
import ClockedFormula.Proofs.Expr.Application
import ClockedFormula.Proofs.Operator.Order

namespace ClockedFormula

/-!
# Composed expressions

An operator and the conditional are evaluated in the same way: a recipe is followed, and its operands
are the parts of the expression.  Statements about expressions are proved by an induction that has one
case for all of them.
-/

/-- An operator or a conditional, as a recipe over its parts. -/
inductive Composed : Expr → (count : Nat) → Recipe Unit count Value → (Fin count → Expr) → Prop
  | unary (op : UnaryOperator) (operand : Expr) :
    Composed (.unary op operand) 1 op.recipe fun _ => operand
  | binary (op : BinaryOperator) (left right : Expr) :
    Composed (.binary op left right) 2 op.recipe (operandsOfTwo left right)
  | conditional (condition thenBranch elseBranch : Expr) :
    Composed (.conditional condition thenBranch elseBranch) 3 choose
      (operandsOfThree condition thenBranch elseBranch)

theorem map_operandsOfTwo {α β : Type} (f : α → β) (left right : α) :
    (fun position => f (operandsOfTwo left right position)) =
      operandsOfTwo (f left) (f right) := by
  funext position
  match position with
  | 0 => rfl
  | 1 => rfl

theorem map_operandsOfThree {α β : Type} (f : α → β) (first second third : α) :
    (fun position => f (operandsOfThree first second third position)) =
      operandsOfThree (f first) (f second) (f third) := by
  funext position
  match position with
  | 0 => rfl
  | 1 => rfl
  | 2 => rfl

theorem get_eq_operandsOfThree {α : Type} (first second third : α) :
    [first, second, third].get = operandsOfThree first second third := by
  funext (position : Fin 3)
  match position with
  | 0 => rfl
  | 1 => rfl
  | 2 => rfl

/-- Induction over expressions with one case for everything that is composed. -/
@[elab_as_elim]
theorem Expr.induct_composed {motive : Expr → Prop} (literal : ∀ v, motive (.literal v))
    (identifier : ∀ name, motive (.identifier name))
    (composed : ∀ e count recipe (parts : Fin count → Expr), Composed e count recipe parts →
      (∀ position, motive (parts position)) → motive e)
    (call : ∀ id name arguments, (∀ e ∈ arguments, motive e) → motive (.call id name arguments))
    (e : Expr) : motive e := by
  induction e with
  | literal v => exact literal v
  | identifier name => exact identifier name
  | unary op operand ih =>
    exact composed _ 1 op.recipe _ (.unary op operand) fun _ => ih
  | binary op left right ihLeft ihRight =>
    apply composed _ 2 op.recipe _ (.binary op left right)
    intro position
    match position with
    | 0 => exact ihLeft
    | 1 => exact ihRight
  | conditional condition thenBranch elseBranch ihCondition ihThen ihElse =>
    apply composed _ 3 choose _ (.conditional condition thenBranch elseBranch)
    intro position
    match position with
    | 0 => exact ihCondition
    | 1 => exact ihThen
    | 2 => exact ihElse
  | call id name arguments ih => exact call id name arguments ih

namespace Composed

variable {e : Expr} {count : Nat} {recipe : Recipe Unit count Value} {parts : Fin count → Expr}

theorem applications_subset (composed : Composed e count recipe parts) (position : Fin count) :
    (parts position).applications ⊆ e.applications := by
  intro application member
  cases composed with
  | unary op operand => exact member
  | binary op left right =>
    match position with
    | 0 => exact List.mem_append_left _ member
    | 1 => exact List.mem_append_right _ member
  | conditional condition thenBranch elseBranch =>
    match position with
    | 0 => exact List.mem_append_left _ (List.mem_append_left _ member)
    | 1 => exact List.mem_append_left _ (List.mem_append_right _ member)
    | 2 => exact List.mem_append_right _ member

theorem evaluate_eq (composed : Composed e count recipe parts)
    (enter : Context → Formula → Walk Value) (context : Context) :
    evaluate enter context e =
      recipe.followPlain fun position => evaluate enter context (parts position) := by
  cases composed with
  | unary op operand => rfl
  | binary op left right => rw [evaluate_binary, map_operandsOfTwo (evaluate enter context)]
  | conditional condition thenBranch elseBranch =>
    rw [evaluate, map_operandsOfThree (evaluate enter context)]

end Composed

end ClockedFormula
