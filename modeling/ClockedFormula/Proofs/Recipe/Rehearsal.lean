import ClockedFormula.Recipe

namespace ClockedFormula

namespace Recipe

variable {σ α β : Type} {count : Nat}

/-!
# Rehearsing a recipe

Following a recipe asks for operands, and an operand may change the world in which the rest is
followed.  When the outcome of every operand is known beforehand, nothing of this is left: the recipe
can be rehearsed on its own state alone.  A rehearsal tells the result, the state at its end, also
after a failure, and the positions that were asked for.

The main statements say that a rehearsal depends on nothing but the operands that it asks for, and that
a recipe in sequence is rehearsed in sequence.
-/

/-- The result of a recipe and its state at the end, given the outcome of every operand. -/
def run (values : Fin count → Attempt Value) : Recipe σ count α → σ → Attempt α × σ
  | answer a, state => (.ok a, state)
  | fail e, state => (.error e, state)
  | ask position next, state =>
    match values position with
    | .ok v => (next v).run values state
    | .error e => (.error e, state)
  | readState next, state => (next state).run values state
  | writeState state next, _ => next.run values state

/-- The positions that a recipe asks for, the one whose operand fails included. -/
def asked (values : Fin count → Attempt Value) : Recipe σ count α → σ → List (Fin count)
  | answer _, _ => []
  | fail _, _ => []
  | ask position next, state =>
    position ::
      match values position with
      | .ok v => (next v).asked values state
      | .error _ => []
  | readState next, state => (next state).asked values state
  | writeState state next, _ => next.asked values state

variable (values : Fin count → Attempt Value)

/-! ## Sequences -/

@[simp]
theorem bind_def (recipe : Recipe σ count α) (next : α → Recipe σ count β) :
    recipe >>= next = recipe.bind next := rfl

@[simp]
theorem pure_def (a : α) : (pure a : Recipe σ count α) = answer a := rfl

theorem run_bind (recipe : Recipe σ count α) (next : α → Recipe σ count β) (state : σ) :
    (recipe.bind next).run values state =
      match recipe.run values state with
      | (.ok a, after) => (next a).run values after
      | (.error e, after) => (.error e, after) := by
  induction recipe generalizing state with
  | answer a => rfl
  | fail e => rfl
  | ask position rest ih =>
    cases outcome : values position with
    | ok v => simp only [bind, run, outcome, ih]
    | error e => simp only [bind, run, outcome]
  | readState rest ih => simp only [bind, run, ih]
  | writeState written rest ih => simp only [bind, run, ih]

theorem asked_bind (recipe : Recipe σ count α) (next : α → Recipe σ count β) (state : σ) :
    (recipe.bind next).asked values state =
      recipe.asked values state ++
        match recipe.run values state with
        | (.ok a, after) => (next a).asked values after
        | (.error _, _) => [] := by
  induction recipe generalizing state with
  | answer a => rfl
  | fail e => rfl
  | ask position rest ih =>
    cases outcome : values position with
    | ok v => simp only [bind, asked, run, outcome, ih, List.cons_append]
    | error e => simp only [bind, asked, run, outcome, List.append_nil]
  | readState rest ih => simp only [bind, asked, run, ih]
  | writeState written rest ih => simp only [bind, asked, run, ih]

/-- What a recipe does that begins with an operand. -/
theorem run_operand_bind (position : Fin count) (next : Value → Recipe σ count α) (state : σ) :
    ((operand position).bind next).run values state =
      match values position with
      | .ok v => (next v).run values state
      | .error e => (.error e, state) := by
  cases outcome : values position <;> simp only [operand, bind, run, outcome]

theorem asked_operand_bind (position : Fin count) (next : Value → Recipe σ count α) (state : σ) :
    ((operand position).bind next).asked values state =
      position ::
        match values position with
        | .ok v => (next v).asked values state
        | .error _ => [] := by
  cases outcome : values position <;> simp only [operand, bind, asked, outcome]

@[simp]
theorem run_ofAttempt (attempt : Attempt α) (state : σ) :
    (ofAttempt attempt : Recipe σ count α).run values state = (attempt, state) := by
  cases attempt <;> rfl

@[simp]
theorem asked_ofAttempt (attempt : Attempt α) (state : σ) :
    (ofAttempt attempt : Recipe σ count α).asked values state = [] := by
  cases attempt <;> rfl

theorem run_operandDouble (position : Fin count) (state : σ) :
    (operandDouble position : Recipe σ count Double).run values state =
      ((values position).bind Value.toDouble, state) := by
  change ((operand position).bind fun v => ofAttempt v.toDouble).run values state = _
  rw [run_operand_bind]
  cases values position with
  | ok v => exact run_ofAttempt values v.toDouble state
  | error e => rfl

theorem asked_operandDouble (position : Fin count) (state : σ) :
    (operandDouble position : Recipe σ count Double).asked values state = [position] := by
  change ((operand position).bind fun v => ofAttempt v.toDouble).asked values state = _
  rw [asked_operand_bind]
  cases values position with
  | ok v => exact congrArg (position :: ·) (asked_ofAttempt values v.toDouble state)
  | error e => rfl

/-! ## What a rehearsal depends on -/

/-- Operands that are not asked for have no part in a rehearsal. -/
theorem run_congr {values other : Fin count → Attempt Value} (recipe : Recipe σ count α)
    (state : σ) (agree : ∀ position ∈ recipe.asked values state, other position = values position) :
    recipe.run other state = recipe.run values state ∧
      recipe.asked other state = recipe.asked values state := by
  induction recipe generalizing state with
  | answer a => exact ⟨rfl, rfl⟩
  | fail e => exact ⟨rfl, rfl⟩
  | ask position rest ih =>
    have same : other position = values position := agree position (by simp [asked])
    cases outcome : values position with
    | ok v =>
      simp only [asked, run, same, outcome] at agree ⊢
      rcases ih v state fun later member => agree later (List.mem_cons_of_mem _ member) with
        ⟨results, positions⟩
      exact ⟨results, congrArg (position :: ·) positions⟩
    | error e => simp only [asked, run, same, outcome, and_self]
  | readState rest ih => exact ih state state agree
  | writeState written rest ih => exact ih written agree

/-! ## Recipes without a state -/

/-- Whether a recipe neither looks at its state nor replaces it. -/
def Stateless : Recipe σ count α → Prop
  | answer _ => True
  | fail _ => True
  | ask _ next => ∀ v, (next v).Stateless
  | readState _ => False
  | writeState _ _ => False

namespace Stateless

theorem ofAttempt (attempt : Attempt α) :
    (Recipe.ofAttempt attempt : Recipe σ count α).Stateless := by
  cases attempt <;> exact trivial

theorem bind {recipe : Recipe σ count α} {next : α → Recipe σ count β}
    (first : recipe.Stateless) (later : ∀ a, (next a).Stateless) :
    (recipe.bind next).Stateless := by
  induction recipe with
  | answer a => exact later a
  | fail e => exact trivial
  | ask position rest ih =>
    intro v
    exact ih v (first v)
  | readState rest ih => exact first.elim
  | writeState state rest ih => exact first.elim

theorem operandDouble (position : Fin count) :
    (Recipe.operandDouble position : Recipe σ count Double).Stateless :=
  fun v => ofAttempt v.toDouble

/-- The state has no part in such a rehearsal. -/
theorem run_eq {recipe : Recipe σ count α} (stateless : recipe.Stateless)
    (values : Fin count → Attempt Value) (state other : σ) :
    recipe.run values state = ((recipe.run values other).1, state) ∧
      recipe.asked values state = recipe.asked values other := by
  induction recipe with
  | answer a => exact ⟨rfl, rfl⟩
  | fail e => exact ⟨rfl, rfl⟩
  | ask position rest ih =>
    cases outcome : values position with
    | ok v =>
      rcases ih v (stateless v) with ⟨results, positions⟩
      simp only [run, asked, outcome]
      exact ⟨results, congrArg (position :: ·) positions⟩
    | error e => simp only [run, asked, outcome, and_self]
  | readState rest ih => exact stateless.elim
  | writeState written rest ih => exact stateless.elim

end Stateless

end Recipe

end ClockedFormula
