import ClockedFormula.Function

namespace ClockedFormula

/-!
# Numbers of arguments and recipes

The number of arguments of a call is checked against a table of arities.  This table stands apart from the
recipes, and so does the list of the functions that have a memory, by which a call is handed on.  They go
together: there is a recipe exactly for the numbers that pass the check, and a call that has passed it is
handed on to where its function is known.
-/

/-- There is a recipe exactly for the numbers of arguments that pass the check. -/
theorem MathFunction.recipe?_isSome {σ : Type} (awayFromZero : Bool) (f : MathFunction) (count : Nat) :
    (f.recipe? awayFromZero count : Option (Recipe σ count Value)).isSome = f.arity.accepts count := by
  match count with
  | 0 => cases f <;> rfl
  | 1 => cases f <;> rfl
  | 2 => cases f <;> rfl
  | 3 => cases f <;> rfl
  | count + 4 => cases f <;> rfl

/-- There is a recipe exactly for the numbers of arguments that pass the check. -/
theorem TemporalFunction.recipe?_isSome (f : TemporalFunction) (count : Nat) :
    (f.recipe? count).isSome = f.arity.accepts count := by
  match count with
  | 0 => cases f <;> rfl
  | 1 => cases f <;> rfl
  | 2 => cases f <;> rfl
  | 3 => cases f <;> rfl
  | 4 => cases f <;> rfl
  | count + 5 => cases f <;> rfl

theorem MathFunction.recipe?_eq_none {σ : Type} (f : MathFunction) {count : Nat}
    (refused : f.arity.accepts count = false) (awayFromZero : Bool) :
    (f.recipe? awayFromZero count : Option (Recipe σ count Value)) = none := by
  rw [← Option.isSome_eq_false_iff.trans Option.isNone_iff_eq_none, f.recipe?_isSome]
  exact refused

theorem TemporalFunction.recipe?_eq_none (f : TemporalFunction) {count : Nat}
    (refused : f.arity.accepts count = false) : f.recipe? count = none := by
  rw [← Option.isSome_eq_false_iff.trans Option.isNone_iff_eq_none, f.recipe?_isSome]
  exact refused

namespace Function

variable {f : Function} {count : Nat}

/-- Whether a function has a recipe for so many arguments. -/
def Takes (f : Function) (count : Nat) : Prop :=
  match f with
  | math f => ∀ awayFromZero,
    (f.recipe? awayFromZero count : Option (Recipe Unit count Value)).isSome = true
  | temporal f => (f.recipe? count).isSome = true

theorem checkArity_eq_ok_iff_accepts (f : Function) (count : Nat) :
    f.checkArity count = .ok () ↔ f.arity.accepts count = true := by
  unfold checkArity
  cases f.arity.accepts count <;> simp

/-- The check of the number of arguments lets pass what there is a recipe for, and nothing else. -/
theorem checkArity_eq_ok_iff (f : Function) (count : Nat) :
    f.checkArity count = .ok () ↔ f.Takes count := by
  rw [checkArity_eq_ok_iff_accepts]
  cases f with
  | math f =>
    constructor
    · intro accepted awayFromZero
      exact (f.recipe?_isSome awayFromZero count).trans accepted
    · intro takes
      exact (f.recipe?_isSome true count).symm.trans (takes true)
  | temporal f =>
    rw [Takes, f.recipe?_isSome count]
    rfl

/-- A function that is not said to have a memory has none, and a recipe for the arguments that are let pass. -/
theorem exists_math_recipe (checked : f.checkArity count = .ok ()) (timeless : f.isTemporal = false)
    (awayFromZero : Bool) :
    ∃ g recipe, f = .math g ∧
      (g.recipe? awayFromZero count : Option (Recipe Unit count Value)) = some recipe := by
  cases f with
  | math g =>
    have takes := (checkArity_eq_ok_iff _ count).mp checked awayFromZero
    exact ⟨g, _, rfl, Option.eq_some_of_isSome takes⟩
  | temporal g => cases timeless

/-- A function that is said to have a memory has one, and a recipe for the arguments that are let pass. -/
theorem exists_temporal_recipe (checked : f.checkArity count = .ok ()) (temporal : f.isTemporal = true) :
    ∃ g recipe, f = .temporal g ∧ g.recipe? count = some recipe := by
  cases f with
  | math g => cases temporal
  | temporal g =>
    have takes := (checkArity_eq_ok_iff _ count).mp checked
    exact ⟨g, _, rfl, Option.eq_some_of_isSome takes⟩

/-- What is not let pass fails for the number of its arguments, and there is no recipe for it. -/
theorem eq_arityError_of_checkArity {e : EvalError} (refused : f.checkArity count = .error e) :
    e = f.arityError count ∧ f.arity.accepts count = false := by
  unfold checkArity at refused
  cases accepted : f.arity.accepts count with
  | true =>
    rw [accepted, if_pos rfl] at refused
    cases refused
  | false =>
    rw [accepted, if_neg Bool.false_ne_true] at refused
    exact ⟨(Except.error.inj refused).symm, rfl⟩

end Function

end ClockedFormula
