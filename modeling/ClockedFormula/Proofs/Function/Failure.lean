import ClockedFormula.Proofs.Function.Arity
import ClockedFormula.Proofs.Function.Kind
import ClockedFormula.Proofs.Value.Failure

namespace ClockedFormula

open Recipe Value

/-!
# How operators and functions can fail

Operators and functions fail by what they compute, by an argument outside a domain or by a clock that does
not show the time.  A call fails besides by its name or by the number of its arguments.
-/

/-! ## Operators -/

/-- Whether a recipe fails only in documented ways. -/
abbrev Recipe.Documented {σ α : Type} {count : Nat} (recipe : Recipe σ count α) : Prop :=
  recipe.FailsOnly EvalError.Documented

section Operators

variable {σ : Type}

theorem UnaryOperator.recipe_documented (op : UnaryOperator) :
    (op.recipe : Recipe σ 1 Value).Documented := by
  intro v
  apply FailsOnly.ofAttempt
  cases op with
  | not => exact (toBool_documented v).bind fun _ => .ok _
  | negate => exact subtract_documented _ v
  | bitwiseNot => exact (toUInt16_documented v).bind fun _ => .ok _

namespace BinaryOperator

theorem combine_documented {operation : Value → Value → Attempt Value}
    (known : ∀ left right, Attempt.Documented (operation left right)) :
    (combine operation : Recipe σ 2 Value).Documented :=
  fun left right => .ofAttempt (known left right)

theorem holdsFor_documented (accepts : Ordering → Bool) (left right : Value) :
    Attempt.Documented (holdsFor accepts left right) :=
  (compare_documented left right).bind fun _ => .ok _

theorem join_documented (left right : Value) : Attempt.Documented (join left right) := by
  unfold join
  split
  · exact .ok _
  · exact add_documented left right

theorem quotient_documented (left right : Value) : Attempt.Documented (quotient left right) := by
  unfold quotient
  split
  · exact divide_documented left right
  · exact (toDouble_documented left).bind fun x => divide_documented (.float x) right

theorem combineBits_documented (operation : UInt16 → UInt16 → Int) :
    (combineBits operation : Recipe σ 2 Value).Documented := by
  refine FailsOnly.operand_bind toUInt16_documented (fun left => ?_) 0
  intro v
  exact (FailsOnly.ofAttempt (toUInt16_documented v)).bind fun right => trivial

theorem shortCircuit_documented (deciding : Bool) :
    (shortCircuit deciding : Recipe σ 2 Value).Documented := by
  refine FailsOnly.operand_bind toBool_documented (fun left => ?_) 0
  by_cases decided : left = deciding
  · rw [if_pos decided]
    exact trivial
  · rw [if_neg decided]
    intro v
    exact (FailsOnly.ofAttempt (toBool_documented v)).bind fun right => trivial

theorem recipe_documented (op : BinaryOperator) : (op.recipe : Recipe σ 2 Value).Documented := by
  cases op with
  | and => exact shortCircuit_documented false
  | or => exact shortCircuit_documented true
  | equal => exact combine_documented (holdsFor_documented _)
  | notEqual => exact combine_documented (holdsFor_documented _)
  | less => exact combine_documented (holdsFor_documented _)
  | lessOrEqual => exact combine_documented (holdsFor_documented _)
  | greater => exact combine_documented (holdsFor_documented _)
  | greaterOrEqual => exact combine_documented (holdsFor_documented _)
  | plus => exact combine_documented join_documented
  | minus => exact combine_documented subtract_documented
  | times => exact combine_documented multiply_documented
  | divide => exact combine_documented quotient_documented
  | modulo => exact combine_documented modulo_documented
  | bitwiseAnd => exact combineBits_documented _
  | bitwiseOr => exact combineBits_documented _
  | bitwiseXor => exact combineBits_documented _
  | leftShift => exact combineBits_documented _
  | rightShift => exact combineBits_documented _

end BinaryOperator

theorem choose_documented : (choose : Recipe σ 3 Value).Documented := by
  refine FailsOnly.operand_bind toBool_documented (fun holds => ?_) 0
  cases holds with
  | true => exact fun _ => trivial
  | false => exact fun _ => trivial

end Operators

/-! ## Functions -/

theorem Recipe.operandDouble_documented {σ : Type} {count : Nat} (position : Fin count) :
    (operandDouble position : Recipe σ count Double).Documented :=
  fun v => .ofAttempt (toDouble_documented v)

namespace MathFunction

variable {σ : Type} {count : Nat}

theorem signOf_documented (x : Double) : Attempt.Documented (signOf x) := by
  unfold signOf
  repeat' split
  · exact .error trivial
  all_goals exact .ok _

theorem round?_documented (awayFromZero : Bool) (x : Double) (digits : Int64) :
    Attempt.Documented (round? awayFromZero x digits) := by
  unfold round?
  split
  · exact .ok _
  · exact .error trivial

theorem ofDouble_documented (f : Double → Double) : (ofDouble f : Recipe σ 1 Value).Documented :=
  (operandDouble_documented 0).bind fun _ => trivial

theorem ofDoubles_documented (f : Double → Double → Double) :
    (ofDoubles f : Recipe σ 2 Value).Documented :=
  (operandDouble_documented 0).bind fun _ => (operandDouble_documented 1).bind fun _ => trivial

theorem isAmong_documented (needle : Value) (positions : List (Fin count)) :
    (isAmong needle positions : Recipe σ count Value).Documented := by
  induction positions with
  | nil => exact trivial
  | cons position rest ih =>
    refine FailsOnly.operand_bind (equals_documented needle) (fun found => ?_) position
    cases found with
    | true => exact trivial
    | false => exact ih

theorem round_documented (awayFromZero : Bool) :
    (do
      let x ← operandDouble 0
      let digits ← (← operand 1).toInt64
      round? awayFromZero x digits : Recipe σ 2 Value).Documented := by
  refine (operandDouble_documented 0).bind fun x v => ?_
  refine (FailsOnly.ofAttempt (toInt64_documented v)).bind fun digits => ?_
  exact .ofAttempt (round?_documented awayFromZero x digits)

/-- A quotient with something else in its place where the denominator is zero. -/
theorem safely_documented {count : Nat} (numerator denominator : Fin count)
    {otherwise : Double → Recipe σ count Value} (known : ∀ x, (otherwise x).Documented) :
    (do
      let x ← operandDouble numerator
      let y ← operandDouble denominator
      if y.isZero then otherwise x else return .float (x / y) : Recipe σ count Value).Documented := by
  refine (operandDouble_documented numerator).bind fun x => ?_
  refine (operandDouble_documented denominator).bind fun y => ?_
  by_cases zero : y.isZero
  · rw [if_pos zero]
    exact known x
  · rw [if_neg zero]
    exact trivial

theorem recipe?_documented {awayFromZero : Bool} {f : MathFunction} {recipe : Recipe σ count Value}
    (accepted : f.recipe? awayFromZero count = some recipe) : recipe.Documented := by
  unfold recipe? at accepted
  split at accepted <;> cases accepted
  -- Most are functions of one double or of two.
  any_goals exact ofDouble_documented _
  any_goals exact ofDoubles_documented _
  -- The absolute value, which is a decimal.
  case h_1 => exact fun v => (FailsOnly.ofAttempt (toDecimal_documented v)).bind fun _ => trivial
  case h_14 => exact round_documented awayFromZero
  case h_15 => exact safely_documented 0 1 fun _ => trivial
  case h_16 => exact safely_documented 0 1 fun _ => (operandDouble_documented 2).bind fun _ => trivial
  case h_17 => exact (operandDouble_documented 0).bind fun x => .ofAttempt (signOf_documented x)
  case h_22 => exact BinaryOperator.combine_documented maximum_documented
  case h_23 => exact BinaryOperator.combine_documented minimum_documented
  case h_24 => exact choose_documented
  -- The first operand looked for among the others.
  case h_25 => exact fun needle => isAmong_documented needle _

end MathFunction

theorem Setting.time_documented (setting : Setting) : Attempt.Documented setting.time := by
  unfold Setting.time
  split
  · exact .ok _
  · exact .error trivial

namespace TemporalFunction

variable {count : Nat}

theorem order?_documented (order : Int64) : Attempt.Documented (order? order) := by
  unfold order?
  split
  · exact .ok _
  · exact .error trivial

theorem Smooths.order_documented {f : TemporalFunction} {order : Recipe Workspace count Nat}
    {input delay : Fin count} {initial : Option (Fin count)}
    (smooths : Smooths f count order input delay initial) : order.Documented := by
  have asked : ∀ {count : Nat} (position : Fin count), (askOrder position).Documented := by
    intro count position v
    apply FailsOnly.ofAttempt
    exact (toInt64_documented v).bind order?_documented
  cases smooths with
  | one => exact trivial
  | oneFrom => exact trivial
  | three => exact trivial
  | threeFrom => exact trivial
  | any => exact asked 2
  | anyFrom => exact asked 2

theorem smooth_documented (setting : Setting) (order : Nat) (input delay : Fin count)
    (initial : Option (Fin count)) : (smooth setting order input delay initial).Documented := by
  have restarts : ∀ x, (smooth.restart order x initial).Documented := by
    intro x
    cases initial with
    | none => exact trivial
    | some position => exact (operandDouble_documented position).bind fun _ => trivial
  have next : ∀ x d temporal,
      (nextStages setting order x d initial temporal).Documented := by
    intro x d temporal
    cases temporal with
    | empty => exact restarts x
    | frozen v => exact restarts x
    | stages levels =>
      dsimp only [nextStages]
      split
      · exact trivial
      · exact restarts x
  rw [smooth_eq_gather]
  refine FailsOnly.bind ?_ fun gathered _ => trivial
  refine (operandDouble_documented input).bind fun x => ?_
  refine (operandDouble_documented delay).bind fun d workspace => ?_
  exact (next x d workspace.node.temporal).bind fun _ => trivial

theorem publish_documented (v : Value) : (publish v : Recipe Workspace count Value).Documented :=
  fun _ => trivial

theorem freezeOperand_documented (position : Fin count) : (freezeOperand position).Documented := by
  intro workspace
  have asked : ((operand position).bind freeze : Recipe Workspace count Value).Documented :=
    fun _ _ => trivial
  dsimp only
  cases workspace.node.temporal with
  | frozen v => exact trivial
  | empty => exact asked
  | stages levels => exact asked

theorem publishInjected_documented (position : Fin count) :
    (readState fun workspace =>
      match workspace.node.injected with
      | some v => publish v
      | none => (operand position).bind publish : Recipe Workspace count Value).Documented := by
  intro workspace
  dsimp only
  cases workspace.node.injected with
  | some v => exact publish_documented v
  | none => exact publish_documented

theorem drawNormal_documented (mean deviation : Double) :
    (drawNormal mean deviation : Recipe Workspace count Double).Documented :=
  fun _ _ => trivial

theorem recipe?_documented {f : TemporalFunction} {recipe : Setting → Recipe Workspace count Value}
    (accepted : f.recipe? count = some recipe) (setting : Setting) : (recipe setting).Documented := by
  have time : ∀ {count : Nat},
      (Recipe.ofAttempt setting.time : Recipe Workspace count Double).Documented :=
    .ofAttempt setting.time_documented
  by_cases smoothing : f = smooth1 ∨ f = smooth3 ∨ f = smoothN
  · rcases Smooths.exists_of_recipe? smoothing (Option.isSome_of_eq_some accepted) with
      ⟨order, input, delay, initial, smooths⟩
    rw [Option.some.inj (accepted.symm.trans smooths.recipe?_eq)]
    exact smooths.order_documented.bind fun order => smooth_documented setting order input delay initial
  unfold recipe? at accepted
  split at accepted <;> cases accepted
  case h_1 => exact publish_documented
  case h_2 => exact freezeOperand_documented 0
  case h_3 => exact publishInjected_documented 0
  -- The functions that read the time, and then ask for two operands or for three.
  case h_4 | h_6 | h_7 =>
    exact time.bind fun _ => (operandDouble_documented 0).bind fun _ =>
      (operandDouble_documented 1).bind fun _ => trivial
  case h_5 | h_8 =>
    exact time.bind fun _ => (operandDouble_documented 0).bind fun _ =>
      (operandDouble_documented 1).bind fun _ => (operandDouble_documented 2).bind fun _ => trivial
  case h_9 =>
    exact (operandDouble_documented 0).bind fun mean => (operandDouble_documented 1).bind
      fun deviation => (drawNormal_documented mean deviation).bind fun _ => trivial
  case h_10 =>
    exact (operandDouble_documented 0).bind fun mean => (operandDouble_documented 1).bind
      fun deviation => (drawNormal_documented mean deviation).bind fun _ =>
        (operandDouble_documented 2).bind fun _ => (operandDouble_documented 3).bind fun _ => trivial
  all_goals exact absurd (by simp) smoothing

end TemporalFunction

namespace Function

theorem resolve_documented (name : String) (ignoreCase : Bool) :
    Attempt.Documented (resolve name ignoreCase) := by
  unfold resolve
  split
  · exact .error trivial
  · split
    · exact .ok _
    · exact .error trivial

end Function

end ClockedFormula
