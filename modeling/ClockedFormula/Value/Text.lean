import ClockedFormula.Decimal.Text
import ClockedFormula.Double.Shortest
import ClockedFormula.Integer
import ClockedFormula.Text.Quoted
import ClockedFormula.Value
/-!
# Values as text

A value has two texts.  Its plain text is what concatenation and conversion to text use; null has the
empty one.  Its description names the kind, quotes text and shows a float as such even when it is
whole; messages use it.
-/

namespace ClockedFormula

namespace Value

/-- Floats in plain text are always positional, and whole ones look like integers. -/
def plainFloat : Double.Layout where
  tie := .halfUp
  positional := none
  afterWhole := []
  beforePower := []

/-- Floats in descriptions are positional from `1e-4` to below `1e16`, and whole ones end in `.0`. -/
def describedFloat : Double.Layout where
  tie := .halfUp
  positional := some (-4, 16)
  afterWhole := ['.', '0']
  beforePower := []

/-- The text of a truth value. -/
def boolText (b : Bool) : String := if b then "true" else "false"

/-- The plain text of a value. -/
def plainText : Value → String
  | null => ""
  | boolean b => boolText b
  | integer i => Integer.toText i.toInt
  | float x => plainFloat.write x
  | decimal x => x.toText
  | text s => s

/-- A name with a text in parentheses behind it. -/
def enclosed (name content : String) : String := name ++ "(" ++ content ++ ")"

/-- The description of a value, with its kind. -/
def description : Value → String
  | null => "Null"
  | boolean b => enclosed "Boolean" (boolText b)
  | integer i => enclosed "Integer" (Integer.toText i.toInt)
  | float x => enclosed "Float" (describedFloat.write x)
  | decimal x => enclosed "Decimal" x.toText
  | text s => enclosed "String" (Text.quoted s)

end Value

end ClockedFormula
