import ClockedFormula.Double.Exact
/-!
# Quantities

Signals and smoothing are arithmetic over some kind of number.  A formula uses doubles; the same
definitions over exact numbers say what the doubles approximate.
-/

namespace ClockedFormula

/-- Numbers with the operations that signals and smoothing use. -/
class Quantity (α : Type) extends Add α, Sub α, Mul α, Div α, Mod α where
  ofNat : Nat → α
  less : α → α → Bool
  atMost : α → α → Bool
  max : α → α → α
  min : α → α → α

instance : Quantity Double where
  ofNat := Double.ofNat
  less := Double.less
  atMost := Double.atMost
  max := Double.max
  min := Double.min

end ClockedFormula
