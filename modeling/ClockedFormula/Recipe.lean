import ClockedFormula.Value.Conversion
/-!
# Recipes

An operator or a function does not receive the values of its operands.  It is a recipe that asks for
them by position, one at a time, and decides by the values it has seen which one it asks for next or
whether it needs any more.  A recipe may also read and replace a state that belongs to it.

Recipes are data: how an operand comes by its value, and where the state lives, is up to whoever
follows the recipe.  The number of operands is part of the type, so no recipe asks for one that is not
there.
-/

namespace ClockedFormula

/-- A recipe over `count` operands with a state of type `σ` for a result of type `α`. -/
inductive Recipe (σ : Type) (count : Nat) (α : Type) : Type where
  /-- The result. -/
  | answer (a : α)
  | fail (e : EvalError)
  /-- Go on with the value of an operand. -/
  | ask (position : Fin count) (next : Value → Recipe σ count α)
  /-- Go on with the state as it is now. -/
  | readState (next : σ → Recipe σ count α)
  /-- Replace the state and go on. -/
  | writeState (state : σ) (next : Recipe σ count α)

namespace Recipe

-- No recipe has more than four operands that it asks for by a numeral.
instance oneOperand : @NeZero Nat Zero.ofOfNat0 1 := ⟨Nat.one_ne_zero⟩
instance twoOperands : @NeZero Nat Zero.ofOfNat0 2 := ⟨Nat.succ_ne_zero 1⟩
instance threeOperands : @NeZero Nat Zero.ofOfNat0 3 := ⟨Nat.succ_ne_zero 2⟩
instance fourOperands : @NeZero Nat Zero.ofOfNat0 4 := ⟨Nat.succ_ne_zero 3⟩

variable {σ α β : Type} {count : Nat}

def bind : Recipe σ count α → (α → Recipe σ count β) → Recipe σ count β
  | answer a, next => next a
  | fail e, _ => fail e
  | ask position rest, next => ask position fun v => (rest v).bind next
  | readState rest, next => readState fun state => (rest state).bind next
  | writeState state rest, next => writeState state (rest.bind next)

instance : Monad (Recipe σ count) where
  pure := answer
  bind := bind

/-- A computation without operands. -/
def ofAttempt : Except EvalError α → Recipe σ count α
  | .ok a => answer a
  | .error e => fail e

instance : MonadLift (Except EvalError) (Recipe σ count) := ⟨ofAttempt⟩

/-- The value of an operand. -/
def operand (position : Fin count) : Recipe σ count Value := ask position answer

/-- The value of an operand as a double; the conversion comes before anything else is asked for. -/
def operandDouble (position : Fin count) : Recipe σ count Double := do
  (← operand position).toDouble

@[simp]
theorem answer_bind (a : α) (next : α → Recipe σ count β) : (answer a).bind next = next a := rfl

theorem bind_answer (recipe : Recipe σ count α) : recipe.bind answer = recipe := by
  induction recipe with
  | answer => rfl
  | fail => rfl
  | ask position rest ih => simp [bind, ih]
  | readState rest ih => simp [bind, ih]
  | writeState state rest ih => simp [bind, ih]

theorem bind_assoc {γ : Type} (recipe : Recipe σ count α) (f : α → Recipe σ count β)
    (g : β → Recipe σ count γ) :
    (recipe.bind f).bind g = recipe.bind fun a => (f a).bind g := by
  induction recipe with
  | answer => rfl
  | fail => rfl
  | ask position rest ih => simp [bind, ih]
  | readState rest ih => simp [bind, ih]
  | writeState state rest ih => simp [bind, ih]

end Recipe

end ClockedFormula
