import ClockedFormula.Decimal.Text
import ClockedFormula.Proofs.Text.Numeral

namespace ClockedFormula

namespace Decimal

/-!
# Decimals are read as they are written

A decimal is written with all the places of its scale, so its text tells coefficient and scale, and no digit
is ever dropped in reading it.  Only the sign of a zero is lost: it is written, but not read.
-/

open Text (appendDigit digitsOf digitsValue)

namespace Reading

/-- What has been read after some more digits. -/
def after (reading : Reading) (digits : List Char) : Reading where
  coefficient := digits.foldl appendDigit reading.coefficient
  scale := if reading.pointSeen then reading.scale + digits.length else reading.scale
  pointSeen := reading.pointSeen
  digitSeen := reading.digitSeen || !digits.isEmpty

/-- Digits that fit are read one by one. -/
theorem finish?_append (reading : Reading) {digits : List Char}
    (only : digits.all Char.isDigit = true)
    (bounded : (reading.after digits).coefficient < coefficientBound)
    (room : (reading.after digits).scale ≤ scaleBound) (rest : List Char) :
    reading.finish? (digits ++ rest) = (reading.after digits).finish? rest := by
  induction digits generalizing reading with
  | nil => simp [after]
  | cons digit digits ih =>
    rw [List.all_cons, Bool.and_eq_true] at only
    have below : appendDigit reading.coefficient digit < coefficientBound :=
      Nat.lt_of_le_of_lt (Text.le_foldl_appendDigit _ digits) bounded
    have place : (if reading.pointSeen then reading.scale + 1 else reading.scale) ≤ scaleBound := by
      simp only [after, List.length_cons] at room
      cases seen : reading.pointSeen
      · simpa [seen] using room
      · rw [seen, if_pos rfl] at room
        rw [if_pos rfl]
        omega
    have further : (Reading.mk (appendDigit reading.coefficient digit)
        (if reading.pointSeen then reading.scale + 1 else reading.scale) reading.pointSeen
        true).after digits = reading.after (digit :: digits) := by
      unfold after
      cases reading.pointSeen
      · simp
      · simp [Nat.add_assoc, Nat.add_comm 1]
    rw [List.cons_append, finish?, if_pos only.1]
    dsimp only
    rw [if_pos ⟨below, place⟩, ih _ only.2 (further ▸ bounded) (further ▸ room), further]

/-- The first point ends the whole part. -/
theorem finish?_point {reading : Reading} (whole : reading.pointSeen = false) (rest : List Char) :
    reading.finish? ('.' :: rest) = { reading with pointSeen := true }.finish? rest := by
  rw [finish?, if_neg (by decide), if_pos ⟨rfl, by rw [whole]; rfl⟩]

end Reading

/-! ## Digits of a decimal -/

/-- The digits behind the point of a decimal with a fraction. -/
def places (x : Decimal) : List Char :=
  List.replicate (x.scale - (digitsOf (x.coefficient % 10 ^ x.scale)).length) '0' ++
    digitsOf (x.coefficient % 10 ^ x.scale)

section Places

variable (x : Decimal)

theorem all_isDigit_places : x.places.all Char.isDigit = true := by
  rw [places, List.all_append, Text.all_isDigit_digitsOf, Bool.and_true]
  exact List.all_eq_true.mpr fun c member => by rw [List.eq_of_mem_replicate member]; rfl

theorem length_places (fraction : x.scale ≠ 0) : x.places.length = x.scale := by
  have fits : (digitsOf (x.coefficient % 10 ^ x.scale)).length ≤ x.scale :=
    Text.length_digitsOf_le (Nat.pos_of_ne_zero fraction) (Nat.mod_lt _ (Nat.pow_pos (by decide)))
  rw [places, List.length_append, List.length_replicate]
  omega

theorem digitsValue_places : digitsValue x.places = x.coefficient % 10 ^ x.scale := by
  rw [places, Text.digitsValue_append, Text.digitsValue_replicate_zero, Text.digitsValue_digitsOf]
  omega

/-- The digits before and behind the point are those of the coefficient. -/
theorem foldl_places (fraction : x.scale ≠ 0) :
    x.places.foldl appendDigit (x.coefficient / 10 ^ x.scale) = x.coefficient := by
  rw [Text.foldl_appendDigit, length_places x fraction, digitsValue_places]
  exact Nat.div_add_mod x.coefficient (10 ^ x.scale)

end Places

/-- The text of a decimal without its sign. -/
def unsignedChars (x : Decimal) : List Char :=
  digitsOf (x.coefficient / 10 ^ x.scale) ++ if x.scale = 0 then [] else '.' :: x.places

theorem toChars_eq (x : Decimal) :
    x.toChars = (if x.negative then ['-'] else []) ++ x.unsignedChars :=
  List.append_assoc _ _ _

/-- Coefficient and scale are read off the digits. -/
theorem finish?_unsignedChars (x : Decimal) :
    Reading.start.finish? x.unsignedChars = some (x.coefficient, x.scale) := by
  let whole := digitsOf (x.coefficient / 10 ^ x.scale)
  have value : (Reading.start.after whole).coefficient = x.coefficient / 10 ^ x.scale :=
    Text.digitsValue_digitsOf _
  have bounded : (Reading.start.after whole).coefficient < coefficientBound :=
    value ▸ Nat.lt_of_le_of_lt (Nat.div_le_self _ _) x.coefficient_lt
  have seen : (Reading.start.after whole).digitSeen = true := by
    simp [Reading.after, whole, Text.digitsOf_ne_nil]
  rw [unsignedChars, Reading.finish?_append _ (Text.all_isDigit_digitsOf _) bounded (Nat.zero_le _)]
  by_cases integral : x.scale = 0
  · rw [if_pos integral, Reading.finish?, if_pos seen, value, integral]
    simp [Reading.after, Reading.start]
  · let begun := { Reading.start.after whole with pointSeen := true }
    have coefficient : (begun.after x.places).coefficient = x.coefficient := by
      change x.places.foldl appendDigit (Reading.start.after whole).coefficient = _
      rw [value, x.foldl_places integral]
    have scale : (begun.after x.places).scale = x.scale := by
      change 0 + x.places.length = x.scale
      rw [x.length_places integral, Nat.zero_add]
    have read := begun.finish?_append x.all_isDigit_places
      (coefficient ▸ x.coefficient_lt) (scale ▸ x.scale_le) []
    rw [List.append_nil] at read
    rw [if_neg integral, Reading.finish?_point rfl, read, Reading.finish?, coefficient, scale, if_pos]
    change (_ || _) = true
    rw [seen, Bool.true_or]

theorem ofPlainChars?_of_digit {digit : Char} (leads : digit.isDigit = true) (rest : List Char) :
    ofPlainChars? (digit :: rest) =
      (Reading.start.finish? (digit :: rest)).bind fun read => make? false read.1 read.2 := by
  unfold ofPlainChars?
  split
  next negative digits found =>
    split at found
    next signed => cases signed; cases leads
    next signed => cases signed; cases leads
    next => cases found; rfl

/-- The written form of a decimal is read as the decimal, but for the sign of a zero. -/
theorem ofPlainChars?_toChars (x : Decimal) : ofPlainChars? x.toChars = some x.withoutZeroSign := by
  have parts : make? x.negative x.coefficient x.scale = some x.withoutZeroSign := by
    rw [make?, ofParts?_eq_some_iff, withoutZeroSign, isZero]
    cases zero : x.coefficient == 0 <;> simp [abs, bne, zero]
  rw [toChars_eq]
  cases sign : x.negative with
  | true =>
    change (Reading.start.finish? x.unsignedChars).bind (fun read => make? true read.1 read.2) = _
    rw [finish?_unsignedChars, ← parts, sign]
    rfl
  | false =>
    rcases List.exists_cons_of_ne_nil (Text.digitsOf_ne_nil (x.coefficient / 10 ^ x.scale)) with
      ⟨digit, others, digits⟩
    have leads : digit.isDigit = true :=
      Text.isDigit_of_mem_digitsOf (digits ▸ List.mem_cons_self)
    have read := finish?_unsignedChars x
    rw [unsignedChars, digits] at read
    rw [unsignedChars, digits]
    change ofPlainChars? (digit :: (others ++ _)) = _
    rw [ofPlainChars?_of_digit leads, ← List.cons_append, read, ← parts, sign]
    rfl

theorem ofText?_toText (x : Decimal) : ofText? x.toText = some x.withoutZeroSign := by
  rw [ofText?, toText, String.toList_ofList, ofChars?, ofPlainChars?_toChars]
  rfl

end Decimal

end ClockedFormula
