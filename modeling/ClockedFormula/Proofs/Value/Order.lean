import ClockedFormula.Value.Comparison
import Mathlib.Order.Std

namespace ClockedFormula

/-!
# The order of values

There is no order of all values.  Two values are compared in a kind that depends on both of them, so three
values may be compared in three kinds, and text that stands for nothing of a kind cannot be compared in it at
all.  What holds of any two values is that the one comparison is the other one reversed, failures included:
the common kind is the kind of one of them, so only the other one can fail to be converted.

Where a single kind is left there is an order.  Each kind is embedded into values from a type that is ordered
already, floats by their rank and decimals by their units at the greatest scale, and null is put below it.
-/

open Ordering (swap)

/-! ## Floats and decimals -/

instance : Std.TransCmp Double.order := inferInstanceAs (Std.TransCmp (compareOn Double.rank))

namespace Decimal

/-- A number has proportionally more units at a finer scale. -/
theorem unitsAt_eq_mul (x : Decimal) {scale finer : Nat} (own : x.scale ≤ scale) (le : scale ≤ finer) :
    x.unitsAt finer = x.unitsAt scale * (10 ^ (finer - scale) : Nat) := by
  have digits : finer - x.scale = (scale - x.scale) + (finer - scale) := by omega
  have units : x.coefficient * 10 ^ (finer - x.scale) =
      x.coefficient * 10 ^ (scale - x.scale) * 10 ^ (finer - scale) := by
    rw [digits, Nat.pow_add, Nat.mul_assoc]
  simp only [unitsAt, units]
  cases x.negative with
  | false => exact Int.natCast_mul _ _
  | true => exact (congrArg Neg.neg (Int.natCast_mul _ _)).trans (Int.neg_mul _ _).symm

/-- Decimals may be compared at the greatest scale, whatever their own scales. -/
theorem order_eq_compareOn : order = compareOn fun x => x.unitsAt 28 := by
  funext x y
  have within : Max.max x.scale y.scale ≤ 28 := Nat.max_le.mpr ⟨x.scale_le, y.scale_le⟩
  have left := x.unitsAt_eq_mul (Nat.le_max_left x.scale y.scale) within
  have right := y.unitsAt_eq_mul (Nat.le_max_right x.scale y.scale) within
  have positive : (0 : Int) < (10 ^ (28 - Max.max x.scale y.scale) : Nat) :=
    Int.natCast_pos.mpr (Nat.pow_pos (by decide))
  rw [order, compareOn, left, right, Int.compare_eq_ite_lt, Int.compare_eq_ite_lt]
  simp only [Int.mul_lt_mul_right positive]

instance : Std.TransCmp order := order_eq_compareOn ▸ inferInstance

end Decimal

/-! ## Any two values -/

theorem Kind.common_comm (kind other : Kind) :
    common (some kind) (some other) = common (some other) (some kind) := by
  cases kind <;> cases other <;> rfl

/-- The common kind is the kind of one of the two. -/
theorem Kind.common_eq_or (kind other : Kind) :
    common (some kind) (some other) = some kind ∨ common (some kind) (some other) = some other := by
  cases kind <;> cases other <;> decide

/-- How values are compared in a kind: they are converted to what its values are made of, and there is an
order on that. -/
structure Kind.Arrangement (kind : Kind) where
  Content : Type
  embed : Content → Value
  convert : Value → Attempt Content
  order : Content → Content → Ordering
  transitive : Std.TransCmp order := by infer_instance
  embeds : ∀ v : Value, v.kind? = some kind ↔ ∃ x, v = embed x := by
    intro v
    cases v <;> simp [Value.kind?]
  /-- A value of the kind is converted to what it is made of. -/
  convert_embed : ∀ x, convert (embed x) = .ok x := by exact fun _ => rfl
  compares : ∀ left right,
    Value.compareAs kind left right = do return order (← convert left) (← convert right) := by
      exact fun _ _ => rfl

def Kind.arrangement : (kind : Kind) → kind.Arrangement
  | integer => {
      Content := Int64
      embed := .integer
      convert := Value.toInt64
      order := compareOn Int64.toInt }
  | float => {
      Content := Double
      embed := .float
      convert := Value.toDouble
      order := Double.order }
  | boolean => {
      Content := Bool
      embed := .boolean
      convert := Value.toBool
      order := compare }
  | text => {
      Content := String
      embed := .text
      convert := fun v => .ok v.plainText
      order := compare }
  | decimal => {
      Content := Decimal
      embed := .decimal
      convert := Value.toDecimal
      order := Decimal.order }

namespace Value

/-- Whichever of two values is converted first, they are compared to the same effect as long as one of them
is of the kind in which they are compared. -/
theorem compareAs_swap {target : Kind} {left right : Value}
    (own : left.kind? = some target ∨ right.kind? = some target) :
    compareAs target right left = (compareAs target left right).map swap := by
  have arrangement := target.arrangement
  have transitive := arrangement.transitive
  rw [arrangement.compares, arrangement.compares]
  rcases own with known | known
  · obtain ⟨x, rfl⟩ := (arrangement.embeds left).mp known
    rw [arrangement.convert_embed]
    cases arrangement.convert right with
    | error e => rfl
    | ok y => exact congrArg Except.ok Std.OrientedCmp.eq_swap
  · obtain ⟨y, rfl⟩ := (arrangement.embeds right).mp known
    rw [arrangement.convert_embed]
    cases arrangement.convert left with
    | error e => rfl
    | ok x => exact congrArg Except.ok Std.OrientedCmp.eq_swap

theorem exists_kind_of_isNull {v : Value} (known : v.isNull = false) : ∃ kind, v.kind? = some kind :=
  Option.ne_none_iff_exists'.mp (bne_iff_ne.mp (congrArg not known))

theorem isNull_of_kind? {v : Value} {kind : Kind} (known : v.kind? = some kind) : v.isNull = false := by
  rw [isNull, known]
  rfl

theorem compare_null (v : Value) : compare null v = .ok (if v.isNull then .eq else .lt) := rfl

/-- Values that are not null are compared in their common kind. -/
theorem compare_of_kinds {left right : Value} {kind other target : Kind} (first : left.kind? = some kind)
    (second : right.kind? = some other) (common : Kind.common (some kind) (some other) = some target) :
    compare left right = compareAs target left right := by
  rw [compare, isNull_of_kind? first, isNull_of_kind? second, first, second, common]
  rfl

/-- The comparison of two values is their comparison the other way round, reversed, and both fail alike. -/
theorem compare_swap (left right : Value) : compare right left = (compare left right).map swap := by
  cases first : left.isNull with
  | true =>
    rw [compare, compare, first]
    cases right.isNull <;> rfl
  | false =>
    cases second : right.isNull with
    | true =>
      rw [compare, compare, first, second]
      rfl
    | false =>
      obtain ⟨kind, firstKind⟩ := exists_kind_of_isNull first
      obtain ⟨other, secondKind⟩ := exists_kind_of_isNull second
      rcases Kind.common_eq_or kind other with common | common
      · rw [compare_of_kinds firstKind secondKind common,
          compare_of_kinds secondKind firstKind ((Kind.common_comm other kind).trans common)]
        exact compareAs_swap (.inl firstKind)
      · rw [compare_of_kinds firstKind secondKind common,
          compare_of_kinds secondKind firstKind ((Kind.common_comm other kind).trans common)]
        exact compareAs_swap (.inr secondKind)

end Value

/-! ## Null and one kind -/

namespace Kind

/-- Whether a value is null or of this kind. -/
def Admits (kind : Kind) (v : Value) : Prop := v.isNull ∨ v.kind? = some kind

theorem common_self (kind : Kind) : common (some kind) (some kind) = some kind :=
  (common_eq_or kind kind).elim id id

namespace Arrangement

variable {kind : Kind} (arrangement : kind.Arrangement)

instance : Ord arrangement.Content := ⟨arrangement.order⟩

instance : Std.TransOrd arrangement.Content := arrangement.transitive

/-- Where a value lies in a row that null begins. -/
def place (v : Value) : Option arrangement.Content :=
  if v.isNull then none else (arrangement.convert v).toOption

theorem place_null {v : Value} (isNull : v.isNull = true) : arrangement.place v = none := if_pos isNull

theorem place_embed (x : arrangement.Content) : arrangement.place (arrangement.embed x) = some x := by
  have known : (arrangement.embed x).kind? = some kind := (arrangement.embeds _).mpr ⟨x, rfl⟩
  rw [place, Value.isNull_of_kind? known, arrangement.convert_embed]
  rfl

/-- Null and the values of a kind are compared by their places. -/
theorem compare_eq {v w : Value} (first : kind.Admits v) (second : kind.Admits w) :
    Value.compare v w = .ok (compare (arrangement.place v) (arrangement.place w)) := by
  rcases first with firstNull | firstKind <;> rcases second with secondNull | secondKind
  · rw [Value.compare, arrangement.place_null firstNull, arrangement.place_null secondNull, firstNull,
      secondNull]
    rfl
  · obtain ⟨y, rfl⟩ := (arrangement.embeds w).mp secondKind
    rw [Value.compare, arrangement.place_null firstNull, arrangement.place_embed y, firstNull,
      Value.isNull_of_kind? secondKind]
    rfl
  · obtain ⟨x, rfl⟩ := (arrangement.embeds v).mp firstKind
    rw [Value.compare, arrangement.place_embed x, arrangement.place_null secondNull, secondNull,
      Value.isNull_of_kind? firstKind]
    rfl
  · obtain ⟨x, rfl⟩ := (arrangement.embeds v).mp firstKind
    obtain ⟨y, rfl⟩ := (arrangement.embeds w).mp secondKind
    rw [Value.compare_of_kinds firstKind secondKind kind.common_self, arrangement.compares,
      arrangement.convert_embed, arrangement.convert_embed, arrangement.place_embed, arrangement.place_embed]
    rfl

end Arrangement

end Kind

/-- Whether a value comes before another one or compares as equal to it. -/
def Value.AtMost (left right : Value) : Prop :=
  ∃ order, Value.compare left right = .ok order ∧ order.isLE

theorem Kind.Arrangement.atMost_iff {kind : Kind} (arrangement : kind.Arrangement) {v w : Value}
    (first : kind.Admits v) (second : kind.Admits w) :
    v.AtMost w ↔ (compare (arrangement.place v) (arrangement.place w)).isLE := by
  rw [Value.AtMost, arrangement.compare_eq first second]
  constructor
  · rintro ⟨order, same, isLE⟩
    cases same
    exact isLE
  · intro isLE
    exact ⟨_, rfl, isLE⟩

/-- Null and the values of a kind are in a total preorder of which null is the least element. -/
structure Kind.Preorders (kind : Kind) : Prop where
  answers : ∀ {v w}, kind.Admits v → kind.Admits w → ∃ order, Value.compare v w = .ok order
  reflexive : ∀ {v}, kind.Admits v → Value.compare v v = .ok .eq
  transitive : ∀ {u v w}, kind.Admits u → kind.Admits v → kind.Admits w →
    u.AtMost v → v.AtMost w → u.AtMost w
  total : ∀ {v w}, kind.Admits v → kind.Admits w → v.AtMost w ∨ w.AtMost v
  null_least : ∀ {v}, kind.Admits v → Value.compare .null v = .ok (if v.isNull then .eq else .lt)

theorem Kind.preorders (kind : Kind) : kind.Preorders := by
  have arrangement := kind.arrangement
  exact {
    answers := fun first second => ⟨_, arrangement.compare_eq first second⟩
    reflexive := fun admitted =>
      (arrangement.compare_eq admitted admitted).trans (congrArg Except.ok Std.ReflCmp.compare_self)
    transitive := fun {u v w} first second third before after => by
      rw [arrangement.atMost_iff first second] at before
      rw [arrangement.atMost_iff second third] at after
      rw [arrangement.atMost_iff first third]
      exact Std.TransCmp.isLE_trans before after
    total := fun {v w} first second => by
      have reversed : compare (arrangement.place w) (arrangement.place v) =
          swap (compare (arrangement.place v) (arrangement.place w)) := Std.OrientedCmp.eq_swap
      rw [arrangement.atMost_iff first second, arrangement.atMost_iff second first, reversed]
      cases compare (arrangement.place v) (arrangement.place w) <;> decide
    null_least := fun {v} _ => Value.compare_null v }

end ClockedFormula
