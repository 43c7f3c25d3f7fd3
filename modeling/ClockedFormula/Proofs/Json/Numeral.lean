import ClockedFormula.Json.Numeral
import ClockedFormula.Proofs.Double.Finite
import ClockedFormula.Proofs.Text.Numeral

namespace ClockedFormula

/-!
# Number literals

An integer is written as a literal and read back from it as itself.  A literal that has a double has a
finite one: what is scaled by a power of ten is given up as soon as it is not finite.
-/

namespace Integer

theorem unsigned?_toNat (word : UInt64) : unsigned? word.toNat = some word := by
  have within := word.toNat_lt
  rw [unsigned?, if_pos (by omega), Int.toNat_natCast, UInt64.ofNat_toNat]

end Integer

namespace Json.Numeral

/-! ## Integers -/

theorem isWhole_digitsOf (number : Nat) : isWhole (Text.digitsOf number) = true := by
  rcases Nat.eq_zero_or_pos number with rfl | positive
  · rfl
  · have leading := Text.head?_digitsOf positive
    unfold isWhole
    split
    next none => exact absurd none (Text.digitsOf_ne_nil number)
    next => rfl
    next digits => rw [digits] at leading; exact absurd rfl leading
    next => rfl

theorem takeWhile_digitsOf (number : Nat) :
    (Text.digitsOf number).takeWhile Char.isDigit = Text.digitsOf number := by
  rw [← List.append_nil (Text.digitsOf number),
    List.takeWhile_append_of_pos fun _ => Text.isDigit_of_mem_digitsOf, List.takeWhile_nil]

theorem dropWhile_digitsOf (number : Nat) : (Text.digitsOf number).dropWhile Char.isDigit = [] := by
  rw [← List.append_nil (Text.digitsOf number),
    List.dropWhile_append_of_pos fun _ => Text.isDigit_of_mem_digitsOf, List.dropWhile_nil]

/-- An integer is a literal that is all whole part, behind a minus sign where it needs one. -/
theorem ofLiteral?_integerChars (i : Int) :
    ofLiteral? (Text.integerChars i) =
      some ⟨decide (i < 0), Text.digitsOf i.natAbs, none, none⟩ := by
  unfold ofLiteral? Text.integerChars
  split
  next negative unsigned found =>
  have parts : negative = decide (i < 0) ∧ unsigned = Text.digitsOf i.natAbs := by
    by_cases below : i < 0
    · rw [if_pos below] at found
      cases found
      exact ⟨(decide_eq_true below).symm, rfl⟩
    · rw [if_neg below] at found
      split at found
      next rest digits =>
        have minus : ('-').isDigit = true :=
          Text.isDigit_of_mem_digitsOf (digits ▸ List.mem_cons_self)
        cases minus
      next =>
        cases found
        exact ⟨(decide_eq_false below).symm, rfl⟩
  rw [parts.1, parts.2]
  dsimp only
  rw [takeWhile_digitsOf, dropWhile_digitsOf, isWhole_digitsOf, if_pos rfl]
  rfl

theorem toInt?_integer (i : Int) :
    toInt? ⟨decide (i < 0), Text.digitsOf i.natAbs, none, none⟩ = some i := by
  simp only [toInt?, Text.digitsValue_digitsOf]
  by_cases negative : i < 0
  · have size : (i.natAbs : Int) = -i := Int.ofNat_natAbs_of_nonpos (Int.le_of_lt negative)
    have nonzero : ¬ -i = 0 := by omega
    simp only [negative, size, nonzero, decide_true, Option.isSome_none, Bool.false_eq_true, or_self,
      if_true, if_false, Int.neg_neg]
  · have size : (i.natAbs : Int) = i := Int.natAbs_of_nonneg (Int.not_lt.mp negative)
    simp only [negative, size, decide_false, Option.isSome_none, Bool.false_eq_true, or_self, if_false]

theorem toInt64?_integerChars (i : Int64) :
    (ofLiteral? (Text.integerChars i.toInt)).bind toInt64? = some i := by
  rw [ofLiteral?_integerChars, Option.bind_some, toInt64?, toInt?_integer, Option.bind_some,
    Integer.signed?_toInt]

theorem toUInt64?_integerChars (n : UInt64) :
    (ofLiteral? (Text.integerChars n.toNat)).bind toUInt64? = some n := by
  rw [ofLiteral?_integerChars, Option.bind_some, toUInt64?, toInt?_integer, Option.bind_some,
    Integer.unsigned?_toNat]

/-! ## Doubles -/

/-- Scaling gives a finite double or nothing. -/
theorem isFinite_of_scale? {x scaled : Double} {power : Int} (found : scale? x power = some scaled) :
    scaled.isFinite = true := by
  fun_induction scale? x power with
  | case1 x power within unit moved finite => exact Option.some.inj found ▸ finite
  | case2 => cases found
  | case3 x power beyond zero => exact Option.some.inj found ▸ Double.isFinite_of_isZero zero
  | case4 => cases found
  | case5 x power beyond some lower ih => exact ih found

/-- A literal stands for a finite double or for none. -/
theorem isFinite_of_toDouble? {numeral : Numeral} {x : Double} (found : numeral.toDouble? = some x) :
    x.isFinite = true := by
  unfold toDouble? at found
  dsimp only at found
  split at found
  case h_1 whole =>
    rcases Option.map_eq_some_iff.mp whole with ⟨word, -, rfl⟩
    cases found
    exact Double.isFinite_ofInt word
  case h_2 whole _ =>
    rcases Option.map_eq_some_iff.mp whole with ⟨word, -, rfl⟩
    cases found
    exact Double.isFinite_ofNat word
  case h_3 =>
    rcases Option.map_eq_some_iff.mp found with ⟨scaled, reached, rfl⟩
    have finite := isFinite_of_scale? reached
    split
    · rw [Double.isFinite_negate, finite]
    · exact finite

end Json.Numeral

end ClockedFormula
