import ClockedFormula.Proofs.Decimal.Text
import ClockedFormula.Proofs.Value.Denotation
import ClockedFormula.Proofs.Value.Order

namespace ClockedFormula

/-!
# Values are read back from their texts

Integers, truth values and decimals are written with visible ASCII characters only.  Blanks around such a
text are therefore told from the text itself, and trimming gives it back whatever they are.  From there on
each kind has a reader of its own; an integer has two, since arithmetic reads text without being told a kind.

A decimal is read back as a number: the text of a negative zero has a sign that is not read.  Floats are left
out, since nothing is said here about their shortest texts.
-/

/-! ## Padding -/

namespace Text

/-- Whether a text is another one with blanks around it. -/
def IsPadded (text padded : String) : Prop :=
  ∃ before after : String, before.toList.all isBlank = true ∧ after.toList.all isBlank = true ∧
    padded = before ++ text ++ after

/-- Whether a character is one of ASCII that is drawn. -/
def IsVisible (c : Char) : Prop := 0x20 < c.toNat ∧ c.toNat < 0x7F

instance (c : Char) : Decidable (IsVisible c) := inferInstanceAs (Decidable (_ ∧ _))

theorem isBlank_of_isVisible {c : Char} (visible : IsVisible c) : isBlank c = false := by
  obtain ⟨above, below⟩ := visible
  rw [isBlank, Bool.eq_false_iff, ne_eq, CharacterSet.contains_eq_true_iff]
  simp only [whiteSpace, List.mem_cons, List.not_mem_nil, or_false, not_exists, not_and]
  rintro range (rfl | rfl | rfl | rfl | rfl | rfl | rfl | rfl | rfl | rfl) <;> omega

theorem isVisible_of_isDigit {c : Char} (digit : c.isDigit = true) : IsVisible c := by
  rw [Char.isDigit, Bool.and_eq_true, decide_eq_true_eq, decide_eq_true_eq] at digit
  have least : 48 ≤ c.toNat := digit.1
  have most : c.toNat ≤ 57 := digit.2
  constructor <;> omega

theorem dropWhile_isBlank_of_isVisible {chars : List Char} (visible : ∀ c ∈ chars, IsVisible c) :
    chars.dropWhile isBlank = chars := by
  cases chars with
  | nil => rfl
  | cons c rest =>
    have drawn : isBlank c = false := isBlank_of_isVisible (visible c List.mem_cons_self)
    rw [List.dropWhile_cons_of_neg (by simp [drawn])]

/-- Trimming takes what was put around a text, and nothing of the text. -/
theorem trim_of_isPadded {text padded : String} (isPadded : IsPadded text padded)
    (visible : ∀ c ∈ text.toList, IsVisible c) : trim padded = text := by
  obtain ⟨before, after, blankBefore, blankAfter, rfl⟩ := isPadded
  rw [List.all_eq_true] at blankBefore blankAfter
  have blanks : after.toList.dropWhile isBlank = [] := by
    rw [← List.append_nil after.toList, dropWhile_isBlank_append _ _ blankAfter, List.dropWhile_nil]
  have reversed : ∀ c ∈ text.toList.reverse, IsVisible c :=
    fun c member => visible c (List.mem_reverse.mp member)
  have left : (before.toList ++ text.toList ++ after.toList).dropWhile isBlank =
      (text.toList ++ after.toList).dropWhile isBlank := by
    rw [List.append_assoc, dropWhile_isBlank_append _ _ blankBefore]
  have chars : trimChars (before.toList ++ text.toList ++ after.toList) = text.toList := by
    rw [trimChars, left]
    cases known : text.toList with
    | nil => rw [List.nil_append, blanks]; rfl
    | cons c rest =>
      have drawn : isBlank c = false :=
        isBlank_of_isVisible (visible c (known ▸ List.mem_cons_self))
      rw [List.cons_append, List.dropWhile_cons_of_neg (by simp [drawn]), ← List.cons_append, ← known,
        List.reverse_append, dropWhile_isBlank_append _ _
          fun c member => blankAfter c (List.mem_reverse.mp member),
        dropWhile_isBlank_of_isVisible reversed, List.reverse_reverse]
  rw [trim, String.toList_append, String.toList_append, chars, String.ofList_toList]

end Text

open Text (IsPadded IsVisible)

/-! ## Texts without padding -/

namespace Integer

theorem isVisible_of_mem_toText {i : Int} {c : Char} (member : c ∈ (toText i).toList) : IsVisible c := by
  have digits : ∀ {number : Nat}, c ∈ Text.digitsOf number → IsVisible c :=
    fun known => Text.isVisible_of_isDigit (Text.isDigit_of_mem_digitsOf known)
  rw [toText, String.toList_ofList, Text.integerChars] at member
  split at member
  next =>
    rcases List.mem_cons.mp member with rfl | digit
    · decide
    · exact digits digit
  next => exact digits member

theorem natural?_digitsOf (number : Nat) : Text.natural? (Text.digitsOf number) = some number := by
  rw [Text.natural?, if_pos ⟨Text.digitsOf_ne_nil number, Text.all_isDigit_digitsOf number⟩,
    Text.digitsValue_digitsOf]

/-- An integer is read from its digits, behind a minus sign where it needs one. -/
theorem integer?_integerChars (i : Int) : Text.integer? (Text.integerChars i) = some i := by
  unfold Text.integerChars
  by_cases negative : i < 0
  · have size : -(i.natAbs : Int) = i := by omega
    rw [if_pos negative, Text.integer?, natural?_digitsOf]
    exact congrArg some size
  · have size : (i.natAbs : Int) = i := by omega
    rw [if_neg negative]
    unfold Text.integer?
    split
    -- No digit is a sign.
    next signed => cases Text.isDigit_of_mem_digitsOf (signed ▸ List.mem_cons_self)
    next signed => cases Text.isDigit_of_mem_digitsOf (signed ▸ List.mem_cons_self)
    next =>
      rw [natural?_digitsOf]
      exact congrArg some size

theorem ofText?_toText (i : Int64) : ofText? (toText i.toInt) = some i := by
  rw [ofText?, toText, String.toList_ofList, integer?_integerChars, Option.bind_some, signed?_toInt]

end Integer

namespace Decimal

theorem isVisible_of_mem_toText {x : Decimal} {c : Char} (member : c ∈ x.toText.toList) :
    IsVisible c := by
  have digits : ∀ {row : List Char}, row.all Char.isDigit = true → c ∈ row → IsVisible c :=
    fun only known => Text.isVisible_of_isDigit (List.all_eq_true.mp only c known)
  rw [toText, String.toList_ofList, toChars_eq, List.mem_append, unsignedChars, List.mem_append] at member
  rcases member with sign | whole | fraction
  · split at sign
    · rw [List.mem_singleton.mp sign]
      decide
    · cases sign
  · exact digits (Text.all_isDigit_digitsOf _) whole
  · split at fraction
    · cases fraction
    · rcases List.mem_cons.mp fraction with rfl | places
      · decide
      · exact digits x.all_isDigit_places places

/-- The sign of a zero does not count. -/
theorem order_withoutZeroSign (x : Decimal) : x.withoutZeroSign.order x = .eq := by
  have units : x.withoutZeroSign.unitsAt 28 = x.unitsAt 28 := by
    unfold withoutZeroSign
    cases zero : x.isZero with
    | false => rfl
    | true =>
      have none : x.coefficient = 0 := beq_iff_eq.mp zero
      rw [if_pos rfl]
      simp [unitsAt, abs, none]
  rw [order_eq_compareOn, compareOn, units]
  exact Std.ReflCmp.compare_self

end Decimal

/-! ## Round trips -/

theorem Operands.ofValues_congr {v w : Value} (same : Number.ofValue v = Number.ofValue w)
    (other : Value) :
    Operands.ofValues v other = Operands.ofValues w other ∧
      Operands.ofValues other v = Operands.ofValues other w := by
  constructor <;> simp only [Operands.ofValues, same]

/-- The kinds whose values are read back from their texts. -/
inductive Kind.HasExactText : Kind → Prop
  | integer : HasExactText .integer
  | boolean : HasExactText .boolean
  | decimal : HasExactText .decimal

namespace Value

/-- Whether two values are the same, or decimals that are the same number. -/
inductive IsSame : Value → Value → Prop
  | refl (v : Value) : IsSame v v
  | decimal {x y : Decimal} (same : x.order y = .eq) : IsSame (.decimal x) (.decimal y)

theorem isVisible_of_mem_plainText {v : Value} {kind : Kind} (own : v.kind? = some kind)
    (exact : kind.HasExactText) {c : Char} (member : c ∈ v.plainText.toList) : IsVisible c := by
  cases v with
  | integer i => exact Integer.isVisible_of_mem_toText member
  | decimal x => exact Decimal.isVisible_of_mem_toText member
  | boolean b =>
    have letters : ((boolean b).plainText.toList.all fun c => decide (IsVisible c)) = true := by
      cases b <;> decide
    exact of_decide_eq_true (List.all_eq_true.mp letters c member)
  | null => cases own
  | float => cases own; cases exact
  | text => cases own; cases exact

/-- What reads as an integer without its blanks is converted to it. -/
theorem toInt64_of_denotes {v : Value} {i : Int64} (denotes : v.Denotes i) : v.toInt64 = .ok i := by
  cases v with
  | integer j => exact congrArg Except.ok denotes
  | text s =>
    have reads : Integer.ofText? (Text.trim s) = some i := denotes
    rw [toInt64, int64OfText?, reads]
    rfl
  | null => exact denotes.elim
  | boolean => exact denotes.elim
  | float => exact denotes.elim
  | decimal => exact denotes.elim

/-- Each reader inverts the one way of writing, as soon as the blanks are gone. -/
theorem convert_of_trim_eq {v : Value} {kind : Kind} (own : v.kind? = some kind)
    (exact : kind.HasExactText) {s : String} (trimmed : Text.trim s = v.plainText) :
    ∃ w, (text s).convert kind = .ok w ∧ w.IsSame v := by
  cases v with
  | integer i =>
    have denotes : (text s).Denotes i := by
      change Integer.ofText? (Text.trim s) = some i
      rw [trimmed]
      exact Integer.ofText?_toText i
    cases own
    refine ⟨.integer i, ?_, .refl _⟩
    change (text s).toInt64.map Value.integer = _
    rw [toInt64_of_denotes denotes]
    rfl
  | boolean b =>
    have reads : boolOfText? s = some b := by
      rw [boolOfText?, trimmed]
      cases b <;> decide
    cases own
    refine ⟨.boolean b, ?_, .refl _⟩
    change (text s).toBool.map Value.boolean = _
    rw [toBool, reads]
    rfl
  | decimal x =>
    have reads : Decimal.ofText? (Text.trim s) = some x.withoutZeroSign := by
      rw [trimmed]
      exact Decimal.ofText?_toText x
    cases own
    refine ⟨.decimal x.withoutZeroSign, ?_, .decimal x.order_withoutZeroSign⟩
    change (text s).toDecimal.map Value.decimal = _
    rw [toDecimal, reads]
    rfl
  | null => cases own
  | float => cases own; cases exact
  | text => cases own; cases exact

/-- Whether arithmetic does not tell two values apart, and they compare as equal. -/
structure Interchangeable (v w : Value) : Prop where
  left : ∀ {operation exact}, Computes operation exact → ∀ other, operation v other = operation w other
  right : ∀ {operation exact}, Computes operation exact → ∀ other, operation other v = operation other w
  compare_eq : compare v w = .ok .eq
  compare_eq_back : compare w v = .ok .eq

theorem interchangeable_of_denotes {v : Value} {i : Int64} (denotes : v.Denotes i) :
    Interchangeable (.integer i) v := by
  have number : Number.ofValue (.integer i) = Number.ofValue v :=
    (Number.ofValue_of_denotes denotes).symm
  have equal : compare (.integer i) v = .ok .eq := by
    have notNull : v.isNull = false := by
      cases v with
      | null => exact denotes.elim
      | _ => rfl
    obtain ⟨kind, known⟩ := exists_kind_of_isNull notNull
    have common : Kind.common (some .integer) (some kind) = some .integer := by cases kind <;> rfl
    rw [compare_of_kinds rfl known common]
    change (do return Ord.compare i.toInt (← v.toInt64).toInt) = _
    rw [toInt64_of_denotes denotes]
    exact congrArg Except.ok Std.ReflCmp.compare_self
  exact {
    left := fun computes other => by
      obtain ⟨onOperands, known⟩ := computes.exists_onOperands
      rw [known, known, (Operands.ofValues_congr number other).1]
    right := fun computes other => by
      obtain ⟨onOperands, known⟩ := computes.exists_onOperands
      rw [known, known, (Operands.ofValues_congr number other).2]
    compare_eq := equal
    compare_eq_back := by
      rw [compare_swap, equal]
      rfl }

/-- What the text of a value is good for, with any blanks around it. -/
structure IsReadBack (v : Value) (kind : Kind) (s : String) : Prop where
  writes : v.convert .text = .ok (.text s)
  reads : ∀ {padded}, IsPadded s padded → ∃ w, (text padded).convert kind = .ok w ∧ w.IsSame v
  /-- Arithmetic and comparison take the text of an integer for the integer. -/
  stands : ∀ {padded}, IsPadded s padded → ∀ {i}, v = .integer i → Interchangeable v (.text padded)

/-- Converting to text and back is the identity on integers, truth values and decimals, and the text of an
integer is as good as the integer. -/
theorem isReadBack_of_hasExactText {v : Value} {kind : Kind} (own : v.kind? = some kind)
    (exact : kind.HasExactText) : ∃ s, v.IsReadBack kind s := by
  have trimmed : ∀ {padded}, IsPadded v.plainText padded → Text.trim padded = v.plainText :=
    fun padding => Text.trim_of_isPadded padding fun _ => isVisible_of_mem_plainText own exact
  refine ⟨v.plainText, ?_, fun padding => convert_of_trim_eq own exact (trimmed padding), ?_⟩
  · rw [convert, isNull_of_kind? own]
    rfl
  · rintro padded padding i rfl
    refine interchangeable_of_denotes (?_ : Integer.ofText? (Text.trim padded) = some i)
    rw [trimmed padding]
    exact Integer.ofText?_toText i

/-- The decimal that is written `-0.00` has a sign that its text loses. -/
theorem isReadBack_of_negative_zero :
    (decimal ⟨true, 0, 2, by decide, by decide⟩).kind? = some .decimal ∧ Kind.decimal.HasExactText ∧
      ∃ s, (decimal ⟨true, 0, 2, by decide, by decide⟩).IsReadBack .decimal s :=
  ⟨rfl, .decimal, isReadBack_of_hasExactText rfl .decimal⟩

end Value

end ClockedFormula
