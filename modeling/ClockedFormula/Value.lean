import ClockedFormula.Decimal
import ClockedFormula.Double
/-!
# Values

A formula computes with values of five kinds and with `null`, which has no kind.  The kind of an
operand is known only when the formula runs, so operations take any value and convert it.
-/

namespace ClockedFormula

/-- The kinds of values that are not null. -/
inductive Kind where
  | integer
  | float
  | boolean
  | text
  | decimal
deriving DecidableEq, Repr

namespace Kind

/-- The name by which messages and saved settings call a kind. -/
def name : Kind → String
  | integer => "Integer"
  | float => "Float"
  | boolean => "Boolean"
  | text => "String"
  | decimal => "Decimal"

/-- All kinds, in the order in which a common kind is looked for. -/
def all : List Kind := [integer, float, boolean, text, decimal]

/-- The kind of exactly this name. -/
def ofName? (name : String) : Option Kind := all.find? fun kind => kind.name == name

theorem ofName?_name (kind : Kind) : ofName? kind.name = some kind := by
  cases kind <;> decide

end Kind

/-- What a formula computes with. -/
inductive Value where
  | null
  | boolean (b : Bool)
  | integer (i : Int64)
  | float (x : Double)
  | decimal (x : Decimal)
  | text (s : String)
deriving DecidableEq

namespace Value

instance : Inhabited Value := ⟨null⟩

/-- The kind of a value; null has none. -/
def kind? : Value → Option Kind
  | null => none
  | boolean _ => some .boolean
  | integer _ => some .integer
  | float _ => some .float
  | decimal _ => some .decimal
  | text _ => some .text

def isNull (v : Value) : Bool := v.kind? == none

/-- Whether the value is a number that may have a fraction. -/
def isReal (v : Value) : Bool := v.kind? == some .float || v.kind? == some .decimal

def isText (v : Value) : Bool := v.kind? == some .text

end Value

end ClockedFormula
