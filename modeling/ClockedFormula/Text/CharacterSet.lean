/-!
# Sets of characters given by code point ranges

Unicode properties that this library needs are tables of closed ranges.  Membership is a search, and
a table says nothing about its order, so ranges can be listed as the standard lists them.
-/

namespace ClockedFormula

/-- A set of characters, as closed ranges of code points. -/
structure CharacterSet where
  ranges : List (Nat × Nat)

namespace CharacterSet

/-- Whether one of the ranges holds the character. -/
def contains (set : CharacterSet) (c : Char) : Bool :=
  set.ranges.any fun range => range.1 ≤ c.toNat && c.toNat ≤ range.2

/-- A character is in the set exactly when some listed range reaches over it. -/
theorem contains_eq_true_iff (set : CharacterSet) (c : Char) :
    set.contains c = true ↔ ∃ range ∈ set.ranges, range.1 ≤ c.toNat ∧ c.toNat ≤ range.2 := by
  simp [contains]

end CharacterSet

end ClockedFormula
