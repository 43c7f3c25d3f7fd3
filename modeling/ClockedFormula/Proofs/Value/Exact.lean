import ClockedFormula.Operator
import ClockedFormula.Proofs.Recipe.Rehearsal

namespace ClockedFormula

/-!
# Integers are computed exactly

Integers have 64 bits, and no operation on them wraps around.  Arithmetic is carried out without bounds, and
a result that has no place among the integers of 64 bits is a float instead.  Remainders and operations on
bits do not look whether there is such a place; there always is.
-/

namespace Integer

/-- Whether an integer has a place among the signed ones of 64 bits. -/
def Fits (i : Int) : Prop := -2 ^ 63 ≤ i ∧ i < 2 ^ 63

theorem Fits.toInt_ofInt {i : Int} (fits : Fits i) : (Int64.ofInt i).toInt = i :=
  Int64.toInt_ofInt_of_le fits.1 fits.2

theorem signed?_of_fits {i : Int} (fits : Fits i) : signed? i = some (Int64.ofInt i) := if_pos fits

theorem signed?_of_not_fits {i : Int} (beyond : ¬ Fits i) : signed? i = none := if_neg beyond

/-- A remainder is smaller than what divides. -/
theorem fits_tmod (a b : Int64) (divides : b.toInt ≠ 0) : Fits (a.toInt.tmod b.toInt) := by
  have smaller : (a.toInt.tmod b.toInt).natAbs < b.toInt.natAbs := by
    rw [Int.natAbs_tmod]
    exact Nat.mod_lt _ (Int.natAbs_pos.mpr divides)
  have least := b.le_toInt
  have most := b.toInt_lt
  constructor <;> omega

end Integer

open Integer (Fits)

namespace Value

/-- Whether a value stands for an exact result: it is this integer, or a float if there is no such integer
of 64 bits. -/
def StandsFor (exact : Int) : Value → Prop
  | integer i => i.toInt = exact
  | float _ => ¬ Fits exact
  | null => False
  | boolean _ => False
  | decimal _ => False
  | text _ => False

theorem exactOr_standsFor (exact : Int) (otherwise : Double) :
    (exactOr exact otherwise).StandsFor exact := by
  unfold exactOr
  by_cases fits : Fits exact
  · rw [Integer.signed?_of_fits fits]
    exact fits.toInt_ofInt
  · rw [Integer.signed?_of_not_fits fits]
    exact fits

/-- Whether an attempt comes to an exact result where there is one, and otherwise to a division by zero. -/
def Settles (attempt : Attempt Value) : Option Int → Prop
  | some exact => ∃ v, attempt = .ok v ∧ v.StandsFor exact
  | none => attempt = .error .divisionByZero

theorem Settles.unlessZero {b : Int64} {v : Value} {exact : Int}
    (known : b.toInt ≠ 0 → v.StandsFor exact) :
    Settles (if b = 0 then .error .divisionByZero else .ok v)
      (if b.toInt = 0 then none else some exact) := by
  by_cases zero : b.toInt = 0
  · rw [if_pos (Int64.toInt_inj.mp zero), if_pos zero]
    rfl
  · have nonzero : b ≠ 0 := fun same => zero (congrArg Int64.toInt same)
    rw [if_neg nonzero, if_neg zero]
    exact ⟨v, rfl, known zero⟩

/-- The operations of arithmetic, with what they are on integers without bounds. -/
inductive Computes : (Value → Value → Attempt Value) → (Int → Int → Option Int) → Prop
  | sum : Computes add fun a b => some (a + b)
  | difference : Computes subtract fun a b => some (a - b)
  | product : Computes multiply fun a b => some (a * b)
  | quotient : Computes divide fun a b => if b = 0 then none else some (a.tdiv b)
  | remainder : Computes modulo fun a b => if b = 0 then none else some (a.tmod b)
  | greater : Computes maximum fun a b => some (max a b)
  | lesser : Computes minimum fun a b => some (min a b)

/-- Arithmetic on integers is exact, whatever values stand for them. -/
theorem Computes.settles {operation : Value → Value → Attempt Value} {exact : Int → Int → Option Int}
    (computes : Computes operation exact) {left right : Value} {a b : Int64}
    (integers : Operands.ofValues left right = .ok (.integers a b)) :
    Settles (operation left right) (exact a.toInt b.toInt) := by
  cases computes with
  | sum => exact ⟨_, by rw [add, integers]; rfl, exactOr_standsFor _ _⟩
  | difference => exact ⟨_, by rw [subtract, integers]; rfl, exactOr_standsFor _ _⟩
  | product => exact ⟨_, by rw [multiply, integers]; rfl, exactOr_standsFor _ _⟩
  | quotient =>
    rw [divide, integers]
    exact .unlessZero fun _ => exactOr_standsFor _ _
  | remainder =>
    rw [modulo, integers]
    exact .unlessZero fun divides => (Integer.fits_tmod a b divides).toInt_ofInt
  | greater =>
    refine ⟨.integer (if a < b then b else a), by rw [maximum, integers]; rfl, ?_⟩
    change (if a < b then b else a).toInt = max a.toInt b.toInt
    by_cases less : a < b
    · rw [if_pos less, Int.max_eq_right (Int.le_of_lt (Int64.lt_iff_toInt_lt.mp less))]
    · rw [if_neg less, Int.max_eq_left (Int.not_lt.mp (mt Int64.lt_iff_toInt_lt.mpr less))]
  | lesser =>
    refine ⟨.integer (if b < a then b else a), by rw [minimum, integers]; rfl, ?_⟩
    change (if b < a then b else a).toInt = min a.toInt b.toInt
    by_cases less : b < a
    · rw [if_pos less, Int.min_eq_right (Int.le_of_lt (Int64.lt_iff_toInt_lt.mp less))]
    · rw [if_neg less, Int.min_eq_left (Int.not_lt.mp (mt Int64.lt_iff_toInt_lt.mpr less))]

end Value

/-! ## Bits -/

/-- The operators on bits, with what they are on natural numbers.  A left shift keeps 32 bits, read with a
sign. -/
inductive BinaryOperator.OnBits : BinaryOperator → (Nat → Nat → Int) → Prop
  | conjunction : OnBits bitwiseAnd fun a b => (a &&& b : Nat)
  | disjunction : OnBits bitwiseOr fun a b => (a ||| b : Nat)
  | exclusive : OnBits bitwiseXor fun a b => (a ^^^ b : Nat)
  | leftShift : OnBits leftShift fun a b => Int.bmod (a * 2 ^ (b % 32) : Nat) (2 ^ 32)
  | rightShift : OnBits rightShift fun a b => (a / 2 ^ (b % 32) : Nat)

theorem Integer.fits_of_lt {n : Nat} (small : n < 2 ^ 16) : Fits n := by
  constructor <;> omega

theorem Integer.fits_bmod (i : Int) : Fits (i.bmod (2 ^ 32)) := by
  have least : -((2 ^ 32 : Nat) / 2 : Int) ≤ i.bmod (2 ^ 32) := Int.le_bmod (by decide)
  have most : i.bmod (2 ^ 32) < ((2 ^ 32 : Nat) + 1) / 2 := Int.bmod_lt (by decide)
  constructor <;> omega

/-- A recipe that converts an operand goes on with what the operand is converted to. -/
theorem Recipe.run_convert {σ α β : Type} {count : Nat} (values : Fin count → Attempt Value)
    {position : Fin count} {v : Value} (given : values position = .ok v) {convert : Value → Attempt α}
    {a : α} (converted : convert v = .ok a) {next : α → Recipe σ count β} (state : σ) :
    ((operand position).bind fun v => (ofAttempt (convert v)).bind next).run values state =
      (next a).run values state := by
  rw [run_operand_bind, given]
  change ((ofAttempt (convert v)).bind next).run values state = _
  rw [converted]
  rfl

namespace BinaryOperator.OnBits

theorem recipe_eq {op : BinaryOperator} {exact : Nat → Nat → Int} (onBits : OnBits op exact) :
    ∃ operation : UInt16 → UInt16 → Int,
      (op.recipe : Recipe Unit 2 Value) = combineBits operation ∧
        ∀ a b, operation a b = exact a.toNat b.toNat := by
  cases onBits with
  | conjunction => exact ⟨_, rfl, fun a b => congrArg Int.ofNat (UInt16.toNat_and a b)⟩
  | disjunction => exact ⟨_, rfl, fun a b => congrArg Int.ofNat (UInt16.toNat_or a b)⟩
  | exclusive => exact ⟨_, rfl, fun a b => congrArg Int.ofNat (UInt16.toNat_xor a b)⟩
  | leftShift => exact ⟨_, rfl, fun a b => rfl⟩
  | rightShift => exact ⟨_, rfl, fun a b => rfl⟩

theorem fits {op : BinaryOperator} {exact : Nat → Nat → Int} (onBits : OnBits op exact)
    (a b : UInt16) : Fits (exact a.toNat b.toNat) := by
  have left := a.toNat_lt
  have right := b.toNat_lt
  cases onBits with
  | conjunction => exact Integer.fits_of_lt (Nat.and_lt_two_pow _ right)
  | disjunction => exact Integer.fits_of_lt (Nat.or_lt_two_pow left right)
  | exclusive => exact Integer.fits_of_lt (Nat.xor_lt_two_pow left right)
  | leftShift => exact Integer.fits_bmod _
  | rightShift => exact Integer.fits_of_lt (Nat.lt_of_le_of_lt (Nat.div_le_self _ _) left)

/-- Operators on bits are exact. -/
theorem run_eq {op : BinaryOperator} {exact : Nat → Nat → Int} (onBits : OnBits op exact)
    {values : Fin 2 → Attempt Value} {left right : Value} (atLeft : values 0 = .ok left)
    (atRight : values 1 = .ok right) {a b : UInt16} (first : left.toUInt16 = .ok a)
    (second : right.toUInt16 = .ok b) :
    ∃ i : Int64, ((op.recipe : Recipe Unit 2 Value).run values ()).1 = .ok (.integer i) ∧
      i.toInt = exact a.toNat b.toNat := by
  rcases onBits.recipe_eq with ⟨operation, recipe, known⟩
  refine ⟨Int64.ofInt (operation a b), ?_, ?_⟩
  · have begins : (combineBits operation : Recipe Unit 2 Value) =
        (Recipe.operand 0).bind fun v => (Recipe.ofAttempt v.toUInt16).bind fun a =>
          (Recipe.operand 1).bind fun w => (Recipe.ofAttempt w.toUInt16).bind fun b =>
            .answer (.integer (Int64.ofInt (operation a b))) := rfl
    rw [recipe, begins, Recipe.run_convert values atLeft first, Recipe.run_convert values atRight second]
    rfl
  · rw [known]
    exact (onBits.fits a b).toInt_ofInt

end BinaryOperator.OnBits

/-- The complement of 16 bits is exact. -/
theorem UnaryOperator.bitwiseNot_exact {v : Value} {a : UInt16} (known : v.toUInt16 = .ok a) :
    ∃ i : Int64, bitwiseNot.apply v = .ok (.integer i) ∧ i.toInt = 2 ^ 16 - 1 - a.toNat := by
  refine ⟨Int64.ofInt (~~~a).toNat, by rw [apply, known]; rfl, ?_⟩
  have complement : (~~~a).toNat = 2 ^ 16 - 1 - a.toNat := UInt16.toNat_not a
  have small := a.toNat_lt
  rw [(Integer.fits_of_lt (~~~a).toNat_lt).toInt_ofInt, complement]
  omega

end ClockedFormula
