import ClockedFormula.Quantity
/-!
# Signals

The shapes that a formula can draw over time: a ramp, a step, and pulses.
-/

namespace ClockedFormula

namespace Signal

variable {α : Type} [Quantity α]

open Quantity

/-- Zero up to the start, then rising by the slope until the end, if there is one, and level from
there on. -/
def ramp (time slope start : α) (finish : Option α) : α :=
  if less time start then ofNat 0
  else
    let reached := match finish with
      | some finish => min time finish
      | none => time
    slope * max (reached - start) (ofNat 0)

/-- Zero before the given time and the height from it on. -/
def step (time height start : α) : α := if atMost start time then height else ofNat 0

/-- How long a pulse lasts; one without a width lasts one step of time. -/
def pulseWidth (width deltaTime : α) : α := if atMost width (ofNat 0) then deltaTime else width

/-- Whether a pulse is on that begins at the start and, with a positive interval, again after each
interval. -/
def pulse (time start width interval deltaTime : α) : Bool :=
  if less time start then false
  else
    let elapsed := time - start
    let phase := if less (ofNat 0) interval then elapsed % interval else elapsed
    less phase (pulseWidth width deltaTime)

end Signal

end ClockedFormula
