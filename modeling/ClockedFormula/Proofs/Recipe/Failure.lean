import ClockedFormula.Proofs.Recipe.Rehearsal
import ClockedFormula.Proofs.Walk.Node

namespace ClockedFormula

open Walk

/-!
# How computations can fail

Nothing fails of its own accord.  A computation in sequence fails in the ways of its parts, a recipe in
those of the conversions and checks that it makes, and whoever follows a recipe in these and in the ways of
the operands.  So it is enough to know how the smallest parts fail.
-/

namespace Attempt

variable {allowed : EvalError → Prop} {α β : Type}

/-- Whether an attempt fails only in some ways. -/
def FailsOnly (allowed : EvalError → Prop) (attempt : Attempt α) : Prop :=
  ∀ e, attempt = .error e → allowed e

namespace FailsOnly

theorem ok (a : α) : FailsOnly allowed (.ok a : Attempt α) := by
  intro e failed
  cases failed

theorem error {e : EvalError} (known : allowed e) : FailsOnly allowed (.error e : Attempt α) := by
  intro other failed
  cases failed
  exact known

theorem bind {attempt : Attempt α} {next : α → Attempt β} (first : FailsOnly allowed attempt)
    (later : ∀ a, FailsOnly allowed (next a)) : FailsOnly allowed (attempt >>= next) := by
  cases attempt with
  | ok a => exact later a
  | error e => exact error (first e rfl)

theorem map {attempt : Attempt α} (first : FailsOnly allowed attempt) (change : α → β) :
    FailsOnly allowed (attempt.map change) := by
  cases attempt with
  | ok a => exact ok (change a)
  | error e => exact error (first e rfl)

end FailsOnly

end Attempt

variable {allowed : EvalError → Prop} {stopping : Interruption → Prop} {σ α β : Type} {count : Nat}

/-- Whether a walk is interrupted only in some ways. -/
def Walk.StopsOnly (stopping : Interruption → Prop) (walk : Walk α) : Prop :=
  ∀ world reason after, walk world = .error reason after → stopping reason

namespace Walk.StopsOnly

theorem of_ok {walk : Walk α} (done : ∀ world, ∃ a after, walk world = .ok a after) :
    walk.StopsOnly stopping := by
  intro world reason after stopped
  rcases done world with ⟨a, other, outcome⟩
  rw [outcome] at stopped
  cases stopped

theorem yields (a : α) : (pure a : Walk α).StopsOnly stopping := of_ok fun world => ⟨a, world, rfl⟩

theorem stops {reason : Interruption} (known : stopping reason) :
    (throw reason : Walk α).StopsOnly stopping := by
  intro world other after stopped
  cases stopped
  exact known

theorem bind {walk : Walk α} {next : α → Walk β} (first : walk.StopsOnly stopping)
    (later : ∀ a, (next a).StopsOnly stopping) : (walk >>= next).StopsOnly stopping := by
  intro world reason after stopped
  rcases bind_eq_error stopped with failed | ⟨a, middle, _, failed⟩
  · exact first world reason after failed
  · exact later a middle reason after failed

end Walk.StopsOnly

namespace Recipe

/-- Whether a recipe fails only in some ways, whatever values and states it sees. -/
def FailsOnly (allowed : EvalError → Prop) : Recipe σ count α → Prop
  | answer _ => True
  | fail e => allowed e
  | ask _ next => ∀ v, (next v).FailsOnly allowed
  | readState next => ∀ state, (next state).FailsOnly allowed
  | writeState _ next => next.FailsOnly allowed

namespace FailsOnly

theorem ofAttempt {attempt : Attempt α} (fails : Attempt.FailsOnly allowed attempt) :
    (Recipe.ofAttempt attempt : Recipe σ count α).FailsOnly allowed := by
  cases attempt with
  | ok a => exact trivial
  | error e => exact fails e rfl

theorem bind {recipe : Recipe σ count α} {next : α → Recipe σ count β}
    (first : recipe.FailsOnly allowed) (later : ∀ a, (next a).FailsOnly allowed) :
    (recipe.bind next).FailsOnly allowed := by
  induction recipe with
  | answer a => exact later a
  | fail e => exact first
  | ask position rest ih => exact fun v => ih v (first v)
  | readState rest ih => exact fun state => ih state (first state)
  | writeState state rest ih => exact ih first

/-- A recipe that begins by converting an operand. -/
theorem operand_bind {attempt : Value → Attempt α} {next : α → Recipe σ count β}
    (fails : ∀ v, Attempt.FailsOnly allowed (attempt v)) (later : ∀ a, (next a).FailsOnly allowed)
    (position : Fin count) :
    ((operand position).bind fun v => (Recipe.ofAttempt (attempt v)).bind next).FailsOnly allowed :=
  fun v => (ofAttempt (fails v)).bind later

/-- Whoever follows a recipe stops in its ways and in those of the operands. -/
theorem follow {operands : Fin count → Walk Value} {read : Walk σ} {write : σ → Walk Unit}
    {recipe : Recipe σ count α} (fails : recipe.FailsOnly fun e => stopping (.failed e))
    (asks : ∀ position, (operands position).StopsOnly stopping)
    (reads : read.StopsOnly stopping) (writes : ∀ state, (write state).StopsOnly stopping) :
    (recipe.follow operands read write).StopsOnly stopping := by
  induction recipe with
  | answer a => exact .yields a
  | fail e => exact .stops fails
  | ask position next ih => exact (asks position).bind fun v => ih v (fails v)
  | readState next ih => exact reads.bind fun state => ih state (fails state)
  | writeState state next ih => exact (writes state).bind fun _ => ih fails

theorem followPlain {operands : Fin count → Walk Value} {recipe : Recipe Unit count α}
    (fails : recipe.FailsOnly fun e => stopping (.failed e))
    (asks : ∀ position, (operands position).StopsOnly stopping) :
    (recipe.followPlain operands).StopsOnly stopping :=
  fails.follow asks (.yields ()) fun _ => .yields ()

end FailsOnly

end Recipe

end ClockedFormula
