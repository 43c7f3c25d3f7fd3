import ClockedFormula.Value.Conversion
/-!
# Comparing values

Two values are compared in the first kind, in a fixed order of kinds, that one of them has.  That
order is no ranking by width: an integer draws a decimal to itself, and text draws a decimal but is
drawn by a truth value.  Null comes before everything else.
-/

namespace ClockedFormula

/-- The first of all kinds that one of the two has, and the left one if neither has any. -/
def Kind.common (left right : Option Kind) : Option Kind :=
  (Kind.all.find? fun kind => left == some kind || right == some kind).or left

namespace Value

/-- The order of two values in a kind to which both can be converted. -/
def compareAs (target : Kind) (left right : Value) : Attempt Ordering :=
  match target with
  | .integer => do
    let a ← left.toInt64
    let b ← right.toInt64
    return Ord.compare a.toInt b.toInt
  | .float => do
    let a ← left.toDouble
    let b ← right.toDouble
    return a.order b
  | .boolean => do
    let a ← left.toBool
    let b ← right.toBool
    return Ord.compare a b
  | .text => return Ord.compare left.plainText right.plainText
  | .decimal => do
    let a ← left.toDecimal
    let b ← right.toDecimal
    return a.order b

/-- The order of two values in their common kind, null coming first. -/
def compare (left right : Value) : Attempt Ordering :=
  if left.isNull then return if right.isNull then .eq else .lt
  else if right.isNull then return .gt
  else match Kind.common left.kind? right.kind? with
    | some target => compareAs target left right
    | none => return .eq

/-- Whether two values compare as equal. -/
def equals (left right : Value) : Attempt Bool := do
  return (← compare left right) == .eq

end Value

end ClockedFormula
