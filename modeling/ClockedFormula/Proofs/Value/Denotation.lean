import ClockedFormula.Proofs.Value.Exact

namespace ClockedFormula

/-!
# Arithmetic on what denotes integers

An integer may be given as such or as text, with blanks around it and a sign in front of it.  Arithmetic does
not see the difference: the operands are the same pair of integers either way.

From there on there are two boundaries, and they are not the same.  A sum, a difference or a product may be
any integer, so each of them may leave the 64 bits.  Of the quotients a single one does, that of the least
integer by minus one, and of the remainders none.
-/

/-- Whether a value denotes an integer of 64 bits: as an integer, or as text that reads as one without the
blanks around it. -/
def Value.Denotes (v : Value) (a : Int64) : Prop :=
  match v with
  | integer i => i = a
  | text s => Integer.ofText? (Text.trim s) = some a
  | null => False
  | boolean _ => False
  | float _ => False
  | decimal _ => False

theorem Number.ofValue_of_denotes {v : Value} {a : Int64} (denotes : v.Denotes a) :
    Number.ofValue v = .ok (.integer a) := by
  cases v with
  | integer i => exact congrArg (fun i => Except.ok (Number.integer i)) denotes
  | text s =>
    have reads : Integer.ofText? (Text.trim s) = some a := denotes
    simp only [Number.ofValue, reads]
  | null => exact denotes.elim
  | boolean => exact denotes.elim
  | float => exact denotes.elim
  | decimal => exact denotes.elim

theorem Operands.ofValues_of_denotes {left right : Value} {a b : Int64} (first : left.Denotes a)
    (second : right.Denotes b) : Operands.ofValues left right = .ok (.integers a b) := by
  rw [Operands.ofValues, Number.ofValue_of_denotes first, Number.ofValue_of_denotes second]
  rfl

open Integer (Fits)

/-! ## Quotients and remainders -/

namespace Integer

/-- Of all quotients only that of the least integer by minus one has no place among the integers of 64
bits. -/
theorem fits_tdiv_iff (a : Int64) {b : Int} (divides : b ≠ 0) :
    Fits (a.toInt.tdiv b) ↔ ¬ (a.toInt = -2 ^ 63 ∧ b = -1) := by
  have least := a.le_toInt
  have most := a.toInt_lt
  constructor
  · rintro fits ⟨isLeast, rfl⟩
    have beyond : a.toInt.tdiv (-1) = 2 ^ 63 := by rw [isLeast]; rfl
    exact absurd fits.2 (by omega)
  intro ordinary
  by_cases unit : b.natAbs = 1
  · obtain one | minusOne : b = 1 ∨ b = -1 := by omega
    · rw [one, Int.tdiv_one]
      exact ⟨least, most⟩
    · rw [minusOne, Int.tdiv_neg, Int.tdiv_one]
      constructor <;> omega
  · have size : (a.toInt.tdiv b).natAbs = a.toInt.natAbs / b.natAbs := Int.natAbs_tdiv _ _
    have halved : a.toInt.natAbs / b.natAbs ≤ a.toInt.natAbs / 2 :=
      Nat.div_le_div_left (by omega) (by decide)
    constructor <;> omega

/-- A remainder has the sign of what is divided, unless it is zero. -/
theorem sign_tmod_eq (a b : Int) : a.tmod b = 0 ∨ (a.tmod b).sign = a.sign := by
  by_cases multiple : b ∣ a
  · exact .inl (Int.tmod_eq_zero_of_dvd multiple)
  · exact .inr (by rw [Int.sign_tmod, if_neg multiple])

end Integer

namespace Value

/-- What an operation comes to that is exact where it can be: the exact integer if it has 64 bits, and the
float that stands in for it otherwise. -/
structure IsExactOr (exact : Int) (otherwise : Double) (attempt : Attempt Value) : Prop where
  within : Fits exact → ∃ i : Int64, attempt = .ok (.integer i) ∧ i.toInt = exact
  beyond : ¬ Fits exact → attempt = .ok (.float otherwise)

theorem isExactOr_exactOr (exact : Int) (otherwise : Double) :
    IsExactOr exact otherwise (.ok (exactOr exact otherwise)) where
  within fits := by
    rw [exactOr, Integer.signed?_of_fits fits]
    exact ⟨_, rfl, fits.toInt_ofInt⟩
  beyond out := by rw [exactOr, Integer.signed?_of_not_fits out]

theorem IsExactOr.toInt_eq {exact : Int} {otherwise : Double} {attempt : Attempt Value}
    (exactly : IsExactOr exact otherwise attempt) {i : Int64} (isInteger : attempt = .ok (.integer i)) :
    i.toInt = exact := by
  by_cases fits : Fits exact
  · obtain ⟨j, found, known⟩ := exactly.within fits
    cases found.symm.trans isInteger
    exact known
  · cases (exactly.beyond fits).symm.trans isInteger

/-- What the two parts of a division come to. -/
structure IsDivision (a b : Int) (quotient remainder : Attempt Value) : Prop where
  quotient_fails : quotient = .error .divisionByZero ↔ b = 0
  remainder_fails : remainder = .error .divisionByZero ↔ b = 0
  /-- The quotient is truncated, and a float in its place for a single pair of integers. -/
  quotient_exact : b ≠ 0 → ¬ (a = -2 ^ 63 ∧ b = -1) →
    ∃ q : Int64, quotient = .ok (.integer q) ∧ q.toInt = a.tdiv b
  quotient_beyond : a = -2 ^ 63 → b = -1 →
    quotient = .ok (.float (.ofInt a / .ofInt b)) ∧ remainder = .ok (.integer 0)
  remainder_exact : b ≠ 0 → ∃ r : Int64, remainder = .ok (.integer r) ∧ r.toInt = a.tmod b ∧
    r.toInt.natAbs < b.natAbs ∧ (r.toInt = 0 ∨ r.toInt.sign = a.sign)
  /-- Both parts together give back what was divided. -/
  together : ∀ q : Int64, quotient = .ok (.integer q) →
    ∃ r : Int64, remainder = .ok (.integer r) ∧ a = b * q.toInt + r.toInt

theorem isDivision_of_integers {left right : Value} {a b : Int64}
    (integers : Operands.ofValues left right = .ok (.integers a b)) :
    IsDivision a.toInt b.toInt (divide left right) (modulo left right) := by
  have quotient : divide left right = if b = 0 then .error .divisionByZero
      else .ok (exactOr (a.toInt.tdiv b.toInt) (.ofInt a.toInt / .ofInt b.toInt)) := by
    rw [divide, integers]
    rfl
  have remainder : modulo left right = if b = 0 then .error .divisionByZero
      else .ok (.integer (Int64.ofInt (a.toInt.tmod b.toInt))) := by
    rw [modulo, integers]
    rfl
  by_cases zero : b = 0
  · have isZero : b.toInt = 0 := congrArg Int64.toInt zero
    rw [quotient, remainder, if_pos zero, if_pos zero]
    exact {
      quotient_fails := iff_of_true rfl isZero
      remainder_fails := iff_of_true rfl isZero
      quotient_exact := fun divides => absurd isZero divides
      quotient_beyond := fun _ minusOne => absurd (isZero.symm.trans minusOne) (by decide)
      remainder_exact := fun divides => absurd isZero divides
      together := fun q isQuotient => by cases isQuotient }
  have divides : b.toInt ≠ 0 := fun isZero => zero (Int64.toInt_inj.mp isZero)
  have exactly := isExactOr_exactOr (a.toInt.tdiv b.toInt) (.ofInt a.toInt / .ofInt b.toInt)
  have rest : (Int64.ofInt (a.toInt.tmod b.toInt)).toInt = a.toInt.tmod b.toInt :=
    (Integer.fits_tmod a b divides).toInt_ofInt
  rw [quotient, remainder, if_neg zero, if_neg zero]
  refine {
    quotient_fails := iff_of_false (fun failed => by cases failed) divides
    remainder_fails := iff_of_false (fun failed => by cases failed) divides
    quotient_exact := fun _ ordinary => exactly.within ((Integer.fits_tdiv_iff a divides).mpr ordinary)
    quotient_beyond := fun isLeast minusOne => ⟨exactly.beyond fun fits =>
      (Integer.fits_tdiv_iff a divides).mp fits ⟨isLeast, minusOne⟩, ?_⟩
    remainder_exact := fun _ => ⟨_, rfl, rest, ?_, ?_⟩
    together := fun q isQuotient => ⟨_, rfl, ?_⟩ }
  · rw [isLeast, minusOne]
    rfl
  · rw [rest, Int.natAbs_tmod]
    exact Nat.mod_lt _ (Int.natAbs_pos.mpr divides)
  · rw [rest]
    exact Integer.sign_tmod_eq _ _
  · rw [rest, exactly.toInt_eq isQuotient]
    exact (Int.mul_tdiv_add_tmod _ _).symm

/-- What arithmetic comes to on two integers, whether they are given as such or as text. -/
structure ExactArithmetic (left right : Value) (a b : Int64) : Prop where
  /-- The operands are seen as the integers that they denote. -/
  spelling : ∀ operation exact, Computes operation exact →
    operation left right = operation (.integer a) (.integer b)
  sum : IsExactOr (a.toInt + b.toInt) (.ofInt a.toInt + .ofInt b.toInt) (add left right)
  difference : IsExactOr (a.toInt - b.toInt) (.ofInt a.toInt - .ofInt b.toInt) (subtract left right)
  product : IsExactOr (a.toInt * b.toInt) (.ofInt a.toInt * .ofInt b.toInt) (multiply left right)
  division : IsDivision a.toInt b.toInt (divide left right) (modulo left right)

/-- Arithmetic sees nothing of its operands but the numbers to which they are brought. -/
theorem Computes.exists_onOperands {operation : Value → Value → Attempt Value}
    {exact : Int → Int → Option Int} (computes : Computes operation exact) :
    ∃ onOperands : Operands → Attempt Value, ∀ left right,
      operation left right = (Operands.ofValues left right).bind onOperands := by
  cases computes <;> exact ⟨_, fun _ _ => rfl⟩

/-- Arithmetic on what denotes integers is exact or falls back to floats, and never wraps around. -/
theorem exactArithmetic_of_denotes {left right : Value} {a b : Int64} (first : left.Denotes a)
    (second : right.Denotes b) : ExactArithmetic left right a b := by
  have integers : Operands.ofValues left right = .ok (.integers a b) :=
    Operands.ofValues_of_denotes first second
  exact {
    spelling := fun operation exact computes => by
      obtain ⟨onOperands, known⟩ := computes.exists_onOperands
      rw [known, known, integers]
      rfl
    sum := by
      rw [add, integers]
      exact isExactOr_exactOr _ _
    difference := by
      rw [subtract, integers]
      exact isExactOr_exactOr _ _
    product := by
      rw [multiply, integers]
      exact isExactOr_exactOr _ _
    division := isDivision_of_integers integers }

/-- The least integer, as text with blanks around it, with minus one. -/
theorem exactArithmetic_of_least_and_minus_one :
    (text " -9223372036854775808\t").Denotes Int64.minValue ∧ (integer (-1)).Denotes (-1) ∧
      ExactArithmetic (text " -9223372036854775808\t") (integer (-1)) Int64.minValue (-1) :=
  have first : (text " -9223372036854775808\t").Denotes Int64.minValue := by
    change Integer.ofText? (Text.trim " -9223372036854775808\t") = some Int64.minValue
    decide +kernel
  have second : (integer (-1)).Denotes (-1) := rfl
  ⟨first, second, exactArithmetic_of_denotes first second⟩

end Value

end ClockedFormula
