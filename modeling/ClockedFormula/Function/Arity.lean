/-!
# Numbers of arguments

How many arguments a function takes, and how messages say it.
-/

namespace ClockedFormula

/-- The numbers of arguments that a function takes. -/
inductive Arity where
  | exactly (count : Nat)
  | oneOf (counts : List Nat)
  | atLeast (count : Nat)
deriving DecidableEq

namespace Arity

def accepts : Arity → Nat → Bool
  | exactly count, given => given == count
  | oneOf counts, given => counts.contains given
  | atLeast count, given => count ≤ given

def text : Arity → String
  | exactly count => toString count
  | oneOf counts => " or ".intercalate (counts.map toString)
  | atLeast count => s!"at least {count}"

end Arity

end ClockedFormula
