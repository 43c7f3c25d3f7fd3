import ClockedFormula.Proofs.Evaluation.Occasion
import ClockedFormula.Proofs.Walk.Agreement

namespace ClockedFormula

open Walk

/-!
# Operands that are not evaluated

Which operands a walk evaluates depends on values, on the memory of calls and on what the host has fed
in.  To tell whether a place of an expression is evaluated, put a name there that means nothing: an
evaluation that comes to the place fails for this name, since without handlers nobody catches a failure.

The main statement says that this is all there is to laziness.  If the evaluation does not fail for the
name, then the place has no part in it, and whatever stands there, the result and everything that is
left behind are the same.
-/

/-- An expression with a gap at one place. -/
inductive Gapped where
  | gap
  | inOperand (op : UnaryOperator) (operand : Gapped)
  | inLeft (op : BinaryOperator) (left : Gapped) (right : Expr)
  | inRight (op : BinaryOperator) (left : Expr) (right : Gapped)
  | inCondition (condition : Gapped) (thenBranch elseBranch : Expr)
  | inThenBranch (condition : Expr) (thenBranch : Gapped) (elseBranch : Expr)
  | inElseBranch (condition thenBranch : Expr) (elseBranch : Gapped)
  | inArgument (id : NodeId) (name : String) (before : List Expr) (argument : Gapped)
    (after : List Expr)

namespace Gapped

/-- The expression with another one in its gap. -/
def fill : Gapped → Expr → Expr
  | gap, e => e
  | inOperand op operand, e => .unary op (operand.fill e)
  | inLeft op left right, e => .binary op (left.fill e) right
  | inRight op left right, e => .binary op left (right.fill e)
  | inCondition condition thenBranch elseBranch, e =>
    .conditional (condition.fill e) thenBranch elseBranch
  | inThenBranch condition thenBranch elseBranch, e =>
    .conditional condition (thenBranch.fill e) elseBranch
  | inElseBranch condition thenBranch elseBranch, e =>
    .conditional condition thenBranch (elseBranch.fill e)
  | inArgument id name before argument after, e =>
    .call id name (before ++ argument.fill e :: after)

end Gapped

variable {enter : Context → Formula → Walk Value} {context : Context} {reason : Interruption}

/-! ## Parts that differ -/

section Parts

variable {left right third left' right' third' : Walk Value}

theorem operandsOfTwo_agree (first : AgreesUnless reason left left')
    (second : AgreesUnless reason right right') (position : Fin 2) :
    AgreesUnless reason (operandsOfTwo left right position) (operandsOfTwo left' right' position) := by
  match position with
  | 0 => exact first
  | 1 => exact second

theorem operandsOfThree_agree (first : AgreesUnless reason left left')
    (second : AgreesUnless reason right right') (last : AgreesUnless reason third third')
    (position : Fin 3) :
    AgreesUnless reason (operandsOfThree left right third position)
      (operandsOfThree left' right' third' position) := by
  match position with
  | 0 => exact first
  | 1 => exact second
  | 2 => exact last

end Parts

/-- Rows of arguments that differ in one place. -/
theorem delay_agrees {e other : Expr} (before after : List Expr)
    (agree : AgreesUnless reason (evaluate enter context e) (evaluate enter context other)) :
    Relation.OfArguments (AgreesUnless reason) (delay enter context (before ++ e :: after))
      (delay enter context (before ++ other :: after)) := by
  have same : ∀ es, Relation.OfArguments (AgreesUnless reason) (delay enter context es)
      (delay enter context es) :=
    fun es => List.forall₂_same.mpr fun argument _ => .refl reason argument.value
  rw [delay_eq_map, delay_eq_map, List.map_append, List.map_append, List.map_cons, List.map_cons,
    ← delay_eq_map, ← delay_eq_map]
  exact List.rel_append (same before) (.cons agree (same after))

/-- Without handlers for calls, an interruption in the gap is an interruption of the whole.  The
induction is on the way from the whole expression down to its gap. -/
theorem evaluate_fill_agrees (unhandled : context.functionHandlers = []) {failing : Expr}
    (stops : ∀ world, (evaluate enter context failing).StopsBy reason world) (gapped : Gapped)
    (e : Expr) :
    AgreesUnless reason (evaluate enter context (gapped.fill failing))
      (evaluate enter context (gapped.fill e)) := by
  have congruence := AgreesUnless.congruence reason context.root
  induction gapped with
  | gap =>
    intro world
    exact .inl (stops world)
  | inOperand op operand ih =>
    unfold Gapped.fill evaluate
    exact congruence.followPlain (fun _ => ih) op.recipe
  | inLeft op left right ih =>
    rw [Gapped.fill, Gapped.fill, evaluate_binary, evaluate_binary]
    exact congruence.followPlain (operandsOfTwo_agree ih (.refl reason _)) op.recipe
  | inRight op left right ih =>
    rw [Gapped.fill, Gapped.fill, evaluate_binary, evaluate_binary]
    exact congruence.followPlain (operandsOfTwo_agree (.refl reason _) ih) op.recipe
  | inCondition condition thenBranch elseBranch ih =>
    unfold Gapped.fill evaluate
    exact congruence.followPlain (operandsOfThree_agree ih (.refl reason _) (.refl reason _)) choose
  | inThenBranch condition thenBranch elseBranch ih =>
    unfold Gapped.fill evaluate
    exact congruence.followPlain (operandsOfThree_agree (.refl reason _) ih (.refl reason _)) choose
  | inElseBranch condition thenBranch elseBranch ih =>
    unfold Gapped.fill evaluate
    exact congruence.followPlain (operandsOfThree_agree (.refl reason _) (.refl reason _) ih) choose
  | inArgument id name before argument after ih =>
    unfold Gapped.fill evaluate
    have consulted : AgreesUnless reason
        (consult context context.functionHandlers (context.foldName name)
          (delay enter context (before ++ argument.fill failing :: after)))
        (consult context context.functionHandlers (context.foldName name)
          (delay enter context (before ++ argument.fill e :: after))) := by
      rw [unhandled]
      exact .refl reason _
    exact congruence.toCalling.evaluateCall consulted (delay_agrees before after ih)

/-- A name without a meaning fails for itself, wherever it is evaluated. -/
theorem evaluateIdentifier_undefined {name : String}
    (unhandled : context.identifierHandlers = []) (unbound : context.find? name = none)
    (unreserved : context.clockReading? name = none) (world : World) :
    evaluate enter context (.identifier name) world =
      .error (.failed (.parameterNotDefined name)) world := by
  rw [evaluate, evaluateIdentifier, unbound]
  simp only [unreserved, unhandled]
  rfl

namespace Formula

/-- A formula with an expression in the gap of another one. -/
def filling (f : Formula) (gapped : Gapped) (e : Expr) : Formula :=
  { f with expression := gapped.fill e }

/-- An evaluation that does not fail for a name without a meaning does not depend on what stands in the
place of this name. -/
theorem gap_ignored_of_not_failing {f : Formula} (unhandled : f.hasHandlers = false) {name : String}
    {clock : Clock} (unbound : (Context.ofFormula f clock).find? name = none)
    (unreserved : (Context.ofFormula f clock).clockReading? name = none) {gapped : Gapped}
    {depth : Nat} {world : World}
    (succeeds : ((f.filling gapped (.identifier name)).evaluateTo depth clock world).1 ≠
      .finished (.error (.parameterNotDefined name))) (e : Expr) :
    (f.filling gapped e).evaluateTo depth clock world =
      (f.filling gapped (.identifier name)).evaluateTo depth clock world := by
  rw [hasHandlers, Bool.or_eq_false_iff, Bool.not_eq_false', Bool.not_eq_false',
    List.isEmpty_iff, List.isEmpty_iff] at unhandled
  cases depth with
  | zero => rfl
  | succ depth =>
    have stops : ∀ world, (evaluate (fun outer f => walk depth (outer.enter f) f.expression)
        (Context.ofFormula f clock) (.identifier name)).StopsBy
          (.failed (.parameterNotDefined name)) world :=
      fun world => ⟨world, evaluateIdentifier_undefined unhandled.1 unbound unreserved world⟩
    rw [evaluateTo_eq] at succeeds ⊢
    rw [evaluateTo_eq]
    rcases evaluate_fill_agrees unhandled.2 stops gapped e world with ⟨after, failed⟩ | same
    · have outcome : walk (depth + 1) (Context.ofFormula (f.filling gapped (.identifier name)) clock)
          (f.filling gapped (.identifier name)).expression world = _ := failed
      rw [outcome] at succeeds
      exact absurd rfl succeeds
    · exact congrArg conclusion same

/-- A call of `init` with a gap for its argument. -/
def frozenCall : Gapped := .inArgument ⟨0⟩ "init" [] .gap []

/-- A formula to be filled. -/
def unfilled : Formula := .ofExpr (.literal .null) .default ⟨0⟩

/-- A world in which the call is frozen. -/
def frozenWorld : World :=
  World.empty.setNode ⟨0⟩ ⟨0⟩ { NodeState.blank with temporal := .frozen (.integer 7) }

/-- A frozen call does not notice that its argument adds a truth value to a number. -/
theorem frozenCall_ignores_argument :
    (unfilled.filling frozenCall
        (.binary .plus (.literal (.boolean true)) (.literal (.integer 1)))).evaluateTo 1 .blank
          frozenWorld =
      (unfilled.filling frozenCall (.identifier "missing")).evaluateTo 1 .blank frozenWorld ∧
    ((unfilled.filling frozenCall (.identifier "missing")).evaluateTo 1 .blank
      frozenWorld).1.value? = some (.integer 7) := by
  have value : ((unfilled.filling frozenCall (.identifier "missing")).evaluateTo 1 .blank
      frozenWorld).1.value? = some (.integer 7) := by decide +kernel
  have unbound : (Context.ofFormula unfilled .blank).find? "missing" = none := rfl
  have unreserved : (Context.ofFormula unfilled .blank).clockReading? "missing" = none := by
    decide +kernel
  have succeeds : ((unfilled.filling frozenCall (.identifier "missing")).evaluateTo 1 .blank
      frozenWorld).1 ≠ .finished (.error (.parameterNotDefined "missing")) := by
    intro failed
    rw [failed] at value
    cases value
  exact ⟨gap_ignored_of_not_failing rfl unbound unreserved succeeds _, value⟩

end Formula

end ClockedFormula
