import ClockedFormula.Decimal.Conversion
import ClockedFormula.Double.Literal
import ClockedFormula.EvalError
import ClockedFormula.Text.Blank
import ClockedFormula.Text.LowerCase
/-!
# Conversions between kinds

Every kind can be asked for as any other.  Truth values count as zero and one; numbers with a
fraction become integers by rounding a half to the even neighbour; text is read after trimming white
space.  What cannot be converted fails with the value and the kind that was asked for.
-/

namespace ClockedFormula

/-- The integer nearest to a double, a half going to the even one, if it has 64 bits. -/
def Double.toInt64? (x : Double) : Option Int64 := x.toInt?.bind Integer.signed?

namespace Value

/-- Take a counterpart that exists, and fail with the kind that has none otherwise. -/
def orCoercion {α : Type} (v : Value) (target : Kind) : Option α → Attempt α
  | some a => .ok a
  | none => .error (.coercion v target)

/-- The names of the truth values, in any case. -/
def boolOfText? (s : String) : Option Bool :=
  let name := Text.lowerCaseAscii (Text.trim s)
  if name = "true" then some true else if name = "false" then some false else none

/-- An integer literal, or else a number with a fraction that is rounded. -/
def int64OfText? (s : String) : Option Int64 :=
  let trimmed := Text.trim s
  (Integer.ofText? trimmed).or ((Double.ofText? trimmed).bind Double.toInt64?)

/-- Null and zero are false, other numbers are true, not-a-numbers included. -/
def toBool (v : Value) : Attempt Bool :=
  match v with
  | null => .ok false
  | boolean b => .ok b
  | integer i => .ok (i != 0)
  | float x => .ok (!x.isZero)
  | decimal x => .ok (!x.isZero)
  | text s => v.orCoercion .boolean (boolOfText? s)

def toInt64 (v : Value) : Attempt Int64 :=
  v.orCoercion .integer <| match v with
    | null => none
    | boolean b => some (if b then 1 else 0)
    | integer i => some i
    | float x => x.toInt64?
    | decimal x => Integer.signed? x.toInt
    | text s => int64OfText? s

def toDouble (v : Value) : Attempt Double :=
  v.orCoercion .float <| match v with
    | null => none
    | boolean b => some (if b then .one else .zero)
    | integer i => some (.ofInt i.toInt)
    | float x => some x
    | decimal x => some x.toDouble
    | text s => Double.ofText? (Text.trim s)

def toDecimal (v : Value) : Attempt Decimal :=
  v.orCoercion .decimal <| match v with
    | null => none
    | boolean b => some (.ofBool b)
    | integer i => some (.ofInt64 i)
    | float x => Decimal.ofDouble? x
    | decimal x => some x
    | text s => Decimal.ofText? (Text.trim s)

/-- The low 16 bits of the integer conversion. -/
def toUInt16 (v : Value) : Attempt UInt16 :=
  v.toInt64.map fun i => i.toUInt64.toUInt16

/-- The value of the given kind; null stays null. -/
def convert (v : Value) (target : Kind) : Attempt Value :=
  if v.isNull then .ok null
  else match target with
    | .integer => v.toInt64.map integer
    | .float => v.toDouble.map float
    | .boolean => v.toBool.map boolean
    | .text => .ok (text v.plainText)
    | .decimal => v.toDecimal.map decimal

end Value

end ClockedFormula
