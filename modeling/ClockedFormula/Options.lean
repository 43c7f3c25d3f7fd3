import ClockedFormula.Double
/-!
# Options of a formula

Switches that hold for everything a formula evaluates.
-/

namespace ClockedFormula

/-- The options of a formula. -/
structure Options where
  /-- Names of identifiers and functions match in any case. -/
  ignoreCase : Bool
  /-- Rounding to digits sends a half away from zero, and not to the even neighbour. -/
  roundAwayFromZero : Bool
  /-- A clock step that goes back starts a new run of the functions with memory. -/
  resetOnNewRun : Bool
  /-- The seed of the random numbers. -/
  randomSeed : Option UInt64
  /-- The time between steps when the clock shows none. -/
  defaultDeltaTime : Double
deriving DecidableEq

namespace Options

/-- The options of a formula for which none are given. -/
def default : Options where
  ignoreCase := false
  roundAwayFromZero := false
  resetOnNewRun := true
  randomSeed := none
  defaultDeltaTime := .one

instance : Inhabited Options := ⟨default⟩

end Options

end ClockedFormula
