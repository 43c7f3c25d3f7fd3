import ClockedFormula.Text.LowerCase

namespace ClockedFormula

namespace Text

/-!
# Names that differ in the case of their letters

Names are matched in three ways that know of case: by their full lower-case forms, by the letters A to Z
alone, and by their endings.  For names of ASCII characters the first two come to the same, and so none of
the ways tells two spellings apart.
-/

/-- Whether all characters of a text are ASCII characters. -/
def IsAscii (text : String) : Prop := ∀ c ∈ text.toList, c.toNat < 0x80

instance (text : String) : Decidable (IsAscii text) := List.decidableBAll _ text.toList

theorem lowerCaseAfter_ascii {chars : List Char} (ascii : ∀ c ∈ chars, c.toNat < 0x80)
    (before : List Char) : lowerCaseAfter before chars = chars.map Char.toLower := by
  induction chars generalizing before with
  | nil => rfl
  | cons c rest ih =>
    have small : c.toNat < 0x80 := ascii c List.mem_cons_self
    -- The two letters with a rule of their own are no ASCII characters.
    have noSigma : c ≠ 'Σ' := by
      rintro rfl
      exact absurd small (by decide)
    have noDotted : c ≠ 'İ' := by
      rintro rfl
      exact absurd small (by decide)
    rw [lowerCaseAfter, if_neg noSigma, if_neg noDotted, lowerLetter, if_pos small,
      ih fun other member => ascii other (List.mem_cons_of_mem c member), List.map_cons]
    rfl

theorem lowerCase_eq_of_isAscii {text : String} (ascii : IsAscii text) :
    lowerCase text = lowerCaseAscii text := by
  rw [lowerCase, lowerCaseAfter_ascii ascii, lowerCaseAscii]

/-- Whether two names are the same, or ASCII names that differ in the case of their letters only. -/
inductive Respelled : String → String → Prop
  | same (name : String) : Respelled name name
  | ascii {first second : String} (isAscii : IsAscii first) (alsoAscii : IsAscii second)
    (letters : equalIgnoringAsciiCase first second = true) : Respelled first second

namespace Respelled

variable {first second : String}

theorem lowerCaseAscii_eq (respelled : Respelled first second) :
    lowerCaseAscii first = lowerCaseAscii second := by
  cases respelled with
  | same => rfl
  | ascii isAscii alsoAscii letters => exact beq_iff_eq.mp letters

theorem lowerCase_eq (respelled : Respelled first second) : lowerCase first = lowerCase second := by
  cases respelled with
  | same => rfl
  | ascii isAscii alsoAscii letters =>
    rw [lowerCase_eq_of_isAscii isAscii, lowerCase_eq_of_isAscii alsoAscii]
    exact beq_iff_eq.mp letters

theorem letters_eq (respelled : Respelled first second) :
    first.toList.map Char.toLower = second.toList.map Char.toLower :=
  String.ofList_injective respelled.lowerCaseAscii_eq

/-- What is left of both names after as many characters. -/
theorem drop (respelled : Respelled first second) (count : Nat) :
    lowerCaseAscii (String.ofList (first.toList.drop count)) =
      lowerCaseAscii (String.ofList (second.toList.drop count)) := by
  have rest := congrArg (List.drop count) respelled.letters_eq
  rw [← List.map_drop, ← List.map_drop] at rest
  simp only [lowerCaseAscii, String.toList_ofList, rest]

theorem length_eq (respelled : Respelled first second) : first.length = second.length := by
  have same := congrArg List.length respelled.letters_eq
  rw [List.length_map, List.length_map] at same
  exact same

end Respelled

end Text

end ClockedFormula
