import ClockedFormula.Proofs.Evaluation.Combination
import ClockedFormula.Proofs.Value.Denotation

namespace ClockedFormula

/-!
# What arithmetic rejects

Null and the truth values are no numbers, and arithmetic fails on them.  A failure names the operand that was
the first to be no number, which may also be text.

Division makes an exception.  Where neither a float nor a decimal takes part it first makes a float of the left
operand, by the conversion that counts truth values as zero and one.  So a truth value may be divided by an
integer, or by the text of a number, although it can neither divide anything nor be divided by a float.
-/

namespace Value

/-- Whether a value is no number whatever it contains. -/
def Numberless (v : Value) : Prop := v.isNull ∨ v.kind? = some .boolean

/-- Whether an attempt fails because one of two operands is no number. -/
def Rejects (v w : Value) (attempt : Attempt Value) : Prop :=
  ∃ operand, (operand = v ∨ operand = w) ∧ attempt = .error (.coercion operand .float)

end Value

open Value (Numberless Rejects Computes)

/-! ## Numbers -/

theorem Value.orCoercion_eq_error {α : Type} {v : Value} {target : Kind} {found : Option α} {e : EvalError}
    (failed : v.orCoercion target found = .error e) : e = .coercion v target := by
  cases found with
  | some a => cases failed
  | none =>
    cases failed
    rfl

namespace Number

theorem ofValue_of_numberless {v : Value} (numberless : v.Numberless) :
    ofValue v = .error (.coercion v .float) := by
  cases v with
  | null => rfl
  | boolean b => rfl
  | integer i => rcases numberless with known | known <;> cases known
  | float x => rcases numberless with known | known <;> cases known
  | decimal x => rcases numberless with known | known <;> cases known
  | text s => rcases numberless with known | known <;> cases known

/-- Whatever is not a number fails in the same way. -/
theorem eq_coercion_of_ofValue {v : Value} {e : EvalError} (failed : ofValue v = .error e) :
    e = .coercion v .float := by
  cases v with
  | null => exact (Except.error.inj failed).symm
  | boolean b => exact (Except.error.inj failed).symm
  | integer i => cases failed
  | float x => cases failed
  | decimal x => cases failed
  | text s =>
    rw [ofValue] at failed
    split at failed
    case h_1 => cases failed
    case h_2 => exact Value.orCoercion_eq_error failed

/-- Only a decimal stands for a decimal. -/
theorem ofValue_ne_decimal {v : Value} (plain : v.isReal = false) (x : Decimal) :
    ofValue v ≠ .ok (decimal x) := by
  intro found
  cases v with
  | null => cases found
  | boolean b => cases found
  | integer i => cases found
  | float y => cases plain
  | decimal y => cases plain
  | text s =>
    rw [ofValue] at found
    split at found
    case h_1 => cases found
    case h_2 => cases read : Double.ofText? (Text.trim s) <;> rw [read] at found <;> cases found

end Number

theorem Operands.ofValues_of_left {left right : Value} {e : EvalError}
    (failed : Number.ofValue left = .error e) : ofValues left right = .error e := by
  rw [ofValues, failed]
  rfl

theorem Operands.ofValues_of_right {left right : Value} {a : Number} {e : EvalError}
    (isNumber : Number.ofValue left = .ok a) (failed : Number.ofValue right = .error e) :
    ofValues left right = .error e := by
  rw [ofValues, isNumber, failed]
  rfl

namespace Value

/-- Arithmetic fails where its operands cannot be brought to a common kind. -/
theorem Computes.fails {operation : Value → Value → Attempt Value} {exact : Int → Int → Option Int}
    (computes : Computes operation exact) {left right : Value} {e : EvalError}
    (failed : Operands.ofValues left right = .error e) : operation left right = .error e := by
  obtain ⟨onOperands, known⟩ := computes.exists_onOperands
  rw [known, failed]
  rfl

theorem Computes.rejects {operation : Value → Value → Attempt Value} {exact : Int → Int → Option Int}
    (computes : Computes operation exact) {v w : Value} (unfit : v.Numberless ∨ w.Numberless) :
    Rejects v w (operation v w) := by
  cases first : Number.ofValue v with
  | error e =>
    cases Number.eq_coercion_of_ofValue first
    exact ⟨v, .inl rfl, computes.fails (Operands.ofValues_of_left first)⟩
  | ok a =>
    have second : Number.ofValue w = .error (.coercion w .float) := by
      rcases unfit with numberless | numberless
      · rw [Number.ofValue_of_numberless numberless] at first
        cases first
      · exact Number.ofValue_of_numberless numberless
    exact ⟨w, .inr rfl, computes.fails (Operands.ofValues_of_right first second)⟩

/-- A float divided by an integer, or by the text of a number, is a float. -/
theorem divide_float {x : Double} {w : Value} (plain : w.isReal = false) {n : Number}
    (isNumber : Number.ofValue w = .ok n) : ∃ y, divide (float x) w = .ok (.float y) := by
  cases n with
  | integer i => exact ⟨x / .ofInt i.toInt, by rw [divide, Operands.ofValues, isNumber]; rfl⟩
  | float y => exact ⟨x / y, by rw [divide, Operands.ofValues, isNumber]; rfl⟩
  | decimal y => exact absurd isNumber (Number.ofValue_ne_decimal plain y)

end Value

/-! ## Operators -/

namespace BinaryOperator

/-- The operators of arithmetic, with what each of them does with two values. -/
inductive Reckons : BinaryOperator → (Value → Value → Attempt Value) → Prop
  | plus : Reckons plus join
  | minus : Reckons minus Value.subtract
  | times : Reckons times Value.multiply
  | divide : Reckons divide quotient
  | modulo : Reckons modulo Value.modulo

theorem Reckons.combines {op : BinaryOperator} {operation : Value → Value → Attempt Value}
    (reckons : Reckons op operation) : op.Combines operation := by
  cases reckons <;> rfl

/-- Whether an operator divides a truth value: the exception that is made for it counts it as zero or one. -/
def DividesTruth (op : BinaryOperator) (v w : Value) : Prop :=
  op = divide ∧ v.kind? = some .boolean ∧ w.isReal = false ∧ ∃ n, Number.ofValue w = .ok n

variable {v w : Value}

/-- Division rejects null and truth values just where it has no number to divide a truth value by. -/
theorem quotient_rejects_or_counts (unfit : v.Numberless ∨ w.Numberless) :
    (Rejects v w (quotient v w) ∧ ¬ DividesTruth divide v w) ∨
      (DividesTruth divide v w ∧ ∃ x, quotient v w = .ok (.float x)) := by
  by_cases real : v.isReal || w.isReal
  · refine .inl ⟨?_, ?_⟩
    · rw [quotient, if_pos real]
      exact Value.Computes.quotient.rejects unfit
    · rintro ⟨-, truth, plain, -⟩
      rw [Value.isReal, truth, plain] at real
      cases real
  have plain : w.isReal = false := (Bool.or_eq_false_iff.mp (eq_false_of_ne_true real)).2
  rw [quotient, if_neg real]
  cases first : v.toDouble with
  | error e =>
    cases Value.orCoercion_eq_error first
    refine .inl ⟨⟨v, .inl rfl, rfl⟩, ?_⟩
    rintro ⟨-, truth, -, -⟩
    cases v <;> cases truth
    cases first
  | ok x =>
    change (Rejects v w ((Value.float x).divide w) ∧ _) ∨
      (_ ∧ ∃ y, (Value.float x).divide w = .ok (.float y))
    cases second : Number.ofValue w with
    | error e =>
      cases Number.eq_coercion_of_ofValue second
      refine .inl ⟨⟨w, .inr rfl, ?_⟩, ?_⟩
      · exact Value.Computes.quotient.fails (Operands.ofValues_of_right rfl second)
      · rintro ⟨-, -, -, n, isNumber⟩
        cases second.symm.trans isNumber
    | ok n =>
      refine .inr ⟨⟨rfl, ?_, plain, n, second⟩, Value.divide_float plain second⟩
      rcases unfit with (isNull | truth) | numberless
      · cases v <;> cases isNull
        cases first
      · exact truth
      · rw [Number.ofValue_of_numberless numberless] at second
        cases second

/-- Arithmetic rejects null and truth values, unless it divides a truth value. -/
theorem Reckons.rejects_or_counts {op : BinaryOperator} {operation : Value → Value → Attempt Value}
    (reckons : Reckons op operation) (adds : op = .plus → v.isText = false)
    (unfit : v.Numberless ∨ w.Numberless) :
    (Rejects v w (operation v w) ∧ ¬ DividesTruth op v w) ∨
      (DividesTruth op v w ∧ ∃ x, operation v w = .ok (.float x)) := by
  cases reckons with
  | plus =>
    rw [join, adds rfl]
    exact .inl ⟨Computes.sum.rejects unfit, fun exception => nomatch exception.1⟩
  | minus => exact .inl ⟨Computes.difference.rejects unfit, fun exception => nomatch exception.1⟩
  | times => exact .inl ⟨Computes.product.rejects unfit, fun exception => nomatch exception.1⟩
  | modulo => exact .inl ⟨Computes.remainder.rejects unfit, fun exception => nomatch exception.1⟩
  | divide => exact quotient_rejects_or_counts unfit

end BinaryOperator

theorem UnaryOperator.negate_rejects {v : Value} (numberless : v.Numberless) :
    negate.apply v = .error (.coercion v .float) :=
  Computes.difference.fails (Operands.ofValues_of_right rfl (Number.ofValue_of_numberless numberless))

/-! ## Nodes -/

section Evaluation

variable {enter : Context → Formula → Walk Value} {context : Context} {world after : World}

theorem evaluate_unary {op : UnaryOperator} {operand : Expr} {v : Value}
    (known : evaluate enter context operand world = .ok v after) :
    evaluate enter context (.unary op operand) world = Walk.conclude (op.apply v) after := by
  rw [evaluate]
  exact (Walk.bind_ok known _).trans (followPlain_ofAttempt _ (op.apply v) after)

/-- A node of arithmetic whose operands come to values, one after the other.  A sum whose left operand is text
is no arithmetic. -/
inductive ArithmeticNode (enter : Context → Formula → Walk Value) (context : Context) :
    Expr → World → List Value → World → Prop
  | negation {operand : Expr} {world after : World} {v : Value}
      (known : evaluate enter context operand world = .ok v after) :
      ArithmeticNode enter context (.unary .negate operand) world [v] after
  | operation {op : BinaryOperator} {operation : Value → Value → Attempt Value} {left right : Expr}
      {world middle after : World} {v w : Value} (reckons : op.Reckons operation)
      (adds : op = .plus → v.isText = false) (first : evaluate enter context left world = .ok v middle)
      (second : evaluate enter context right middle = .ok w after) :
      ArithmeticNode enter context (.binary op left right) world [v, w] after

/-- Whether a node divides a truth value. -/
def DividesTruth : Expr → List Value → Prop
  | .binary op _ _, [v, w] => op.DividesTruth v w
  | _, _ => False

/-- A node of arithmetic with null or a truth value among its operands fails with the coercion of one of them,
unless it divides a truth value by an integer or by the text of a number.  Then it comes to a float. -/
theorem arithmetic_rejects_iff_not_divides_truth {e : Expr} {values : List Value}
    (node : ArithmeticNode enter context e world values after) (unfit : ∃ v ∈ values, v.Numberless) :
    ((∃ v ∈ values, evaluate enter context e world = .error (.failed (.coercion v .float)) after) ↔
        ¬ DividesTruth e values) ∧
      (DividesTruth e values → ∃ x, evaluate enter context e world = .ok (.float x) after) := by
  cases node with
  | @negation operand world after v known =>
    have numberless : v.Numberless := by simpa using unfit
    have failed : evaluate enter context (.unary .negate operand) world =
        .error (.failed (.coercion v .float)) after := by
      rw [evaluate_unary known, UnaryOperator.negate_rejects numberless]
      rfl
    exact ⟨iff_of_true ⟨v, List.mem_cons_self, failed⟩ id, False.elim⟩
  | @operation op operation left right world middle after v w reckons adds first second =>
    have numberless : v.Numberless ∨ w.Numberless := by simpa using unfit
    rw [evaluate_combining reckons.combines first second, reckons.combines.outcome_eq]
    rcases reckons.rejects_or_counts adds numberless with
      ⟨⟨operand, among, failed⟩, ordinary⟩ | ⟨exception, x, counted⟩
    · rw [failed]
      refine ⟨iff_of_true ⟨operand, ?_, rfl⟩ ordinary, fun exception => absurd exception ordinary⟩
      simpa using among
    · rw [counted]
      refine ⟨iff_of_false ?_ (not_not_intro exception), fun _ => ⟨x, rfl⟩⟩
      rintro ⟨operand, -, failed⟩
      cases failed

end Evaluation

/-- A truth value divided by two. -/
def halved : Formula :=
  .ofExpr (.binary .divide (.literal (.boolean true)) (.literal (.integer 2))) .default ⟨0⟩

/-- The quotient is computed although one operand is a truth value. -/
theorem halved_comes_to_float :
    let entering : Context → Formula → Walk Value := fun _ _ => throw .exhausted
    let context := Context.ofFormula halved .blank
    let values : List Value := [.boolean true, .integer 2]
    ArithmeticNode entering context halved.expression World.empty values World.empty ∧
      (∃ v ∈ values, v.Numberless) ∧ DividesTruth halved.expression values ∧
      ∃ x, evaluate entering context halved.expression World.empty = .ok (.float x) World.empty := by
  intro entering context values
  have node : ArithmeticNode entering context halved.expression World.empty values World.empty :=
    .operation .divide nofun rfl rfl
  have unfit : ∃ v ∈ values, v.Numberless := ⟨.boolean true, List.mem_cons_self, .inr rfl⟩
  have exception : DividesTruth halved.expression values := ⟨rfl, rfl, rfl, .integer 2, rfl⟩
  exact ⟨node, unfit, exception, (arithmetic_rejects_iff_not_divides_truth node unfit).2 exception⟩

end ClockedFormula
