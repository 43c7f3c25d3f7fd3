/-!
# Rounding a quotient to an integer

Every exact number in this library is a quotient of natural numbers, and every rounding step is one
division with a rule for what lies between two integers.  The rule acts on magnitudes: a caller that
keeps a sign apart rounds toward the floor by choosing `down` for a positive number and `up` for a
negative one.
-/

namespace ClockedFormula

/-- Powers of whole numbers, also where more general powers are in sight. -/
@[default_instance 20000]
instance (priority := 20000) wholePower {α : Type} [NatPow α] : Pow α Nat := instPowNat

/-- The rule that decides between the two integers around a non-negative quotient. -/
inductive Rounding where
  /-- The lower integer. -/
  | down
  /-- The upper integer, unless the quotient is one itself. -/
  | up
  /-- The nearest integer, and the upper one of two equally near. -/
  | halfUp
  /-- The nearest integer, and the even one of two equally near. -/
  | halfEven
deriving DecidableEq, Repr

namespace Rounding

/-- Whether the rule goes to the upper neighbour of `numerator / denominator`. -/
def goesUp (rule : Rounding) (numerator denominator : Nat) : Bool :=
  let doubled := 2 * (numerator % denominator)
  match rule with
  | down => false
  | up => doubled != 0
  | halfUp => denominator ≤ doubled
  | halfEven => denominator < doubled
      || (doubled == denominator && numerator / denominator % 2 == 1)

/-- The integer that the rule chooses for `numerator / denominator`. -/
def divide (rule : Rounding) (numerator denominator : Nat) : Nat :=
  if rule.goesUp numerator denominator then numerator / denominator + 1
  else numerator / denominator

/-- No rule leaves the two integers around the quotient. -/
theorem divide_eq_or (rule : Rounding) (numerator denominator : Nat) :
    rule.divide numerator denominator = numerator / denominator
      ∨ rule.divide numerator denominator = numerator / denominator + 1 := by
  unfold divide
  split
  · exact Or.inr rfl
  · exact Or.inl rfl

/-- An integer is rounded to itself by every rule. -/
theorem divide_mul_self (rule : Rounding) (quotient : Nat) {denominator : Nat}
    (positive : 0 < denominator) :
    rule.divide (quotient * denominator) denominator = quotient := by
  have remainder : quotient * denominator % denominator = 0 := Nat.mul_mod_left ..
  have whole : quotient * denominator / denominator = quotient := Nat.mul_div_cancel _ positive
  have stays : rule.goesUp (quotient * denominator) denominator = false := by
    cases rule <;> simp [goesUp, remainder] <;> omega
  simp [divide, stays, whole]

end Rounding

end ClockedFormula
