import ClockedFormula.Double
/-!
# The simulation clock

A host drives a formula by a clock that may show a time, a step and the time between steps.  Each of
them may be missing.  Formulas read the clock and never move it.
-/

namespace ClockedFormula

/-- What a clock shows. -/
structure Clock where
  time : Option UInt64
  step : Option UInt64
  deltaTime : Option Double
deriving DecidableEq

namespace Clock

/-- A clock that shows nothing. -/
def blank : Clock := ⟨none, none, none⟩

instance : Inhabited Clock := ⟨blank⟩

/-- The clock one step later: time and step go up by one. -/
def tick (clock : Clock) : Clock where
  time := clock.time.map (· + 1)
  step := clock.step.map (· + 1)
  deltaTime := clock.deltaTime

/-- The first `count` clocks after the given one. -/
def ticks (clock : Clock) : (count : Nat) → List Clock
  | 0 => []
  | count + 1 => clock.tick :: clock.tick.ticks count

end Clock

end ClockedFormula
