import ClockedFormula.Rounding
/-!
# Double-precision numbers

A `Double` is its IEEE 754 bit pattern.  Keeping the pattern itself, and not the machine's own type,
has two reasons: the sign of a not-a-number takes part in the order of values, and equality of
patterns is decidable.  Sign, class and order are read off the pattern here.  The arithmetic is the
machine's own; what needs exact reasoning (rounding, integers, text) is built on the exact view in
`ClockedFormula.Double.Exact`.
-/

namespace ClockedFormula

/-- A double-precision number, as its 64-bit IEEE 754 pattern. -/
structure Double where
  bits : UInt64
deriving DecidableEq, Inhabited, Repr

namespace Double

/-! ## Reading the pattern -/

/-- The pattern of positive infinity; greater magnitudes are not numbers. -/
def infinityMagnitude : Nat := 0x7ff0000000000000

/-- The pattern without its sign bit.  Magnitudes are ordered as the numbers they stand for. -/
def magnitude (x : Double) : Nat := x.bits.toNat % 2 ^ 63

/-- Whether the sign bit is set. -/
def isNegative (x : Double) : Bool := 2 ^ 63 ≤ x.bits.toNat

def isNaN (x : Double) : Bool := infinityMagnitude < x.magnitude

def isFinite (x : Double) : Bool := x.magnitude < infinityMagnitude

def isInfinite (x : Double) : Bool := x.magnitude == infinityMagnitude

/-- Both zeros are zero. -/
def isZero (x : Double) : Bool := x.magnitude == 0

/-- The number with the given sign and magnitude. -/
def ofMagnitude (negative : Bool) (magnitude : Nat) : Double :=
  ⟨UInt64.ofNat (if negative then 2 ^ 63 + magnitude else magnitude)⟩

def zero : Double := ⟨0⟩

def one : Double := ⟨0x3ff0000000000000⟩

/-- The quiet not-a-number with a clear sign bit. -/
def nan : Double := ⟨0x7ff8000000000000⟩

/-- The infinity of the given sign. -/
def infinity (negative : Bool) : Double := ofMagnitude negative infinityMagnitude

/-- The double nearest to the ratio of a circle's circumference to its diameter. -/
def pi : Double := ⟨0x400921fb54442d18⟩

/-! ## Order -/

/-- The place of a pattern on one line: negative not-a-numbers, then the numbers in order with both
zeros at the same place, then the other not-a-numbers. -/
def rank (x : Double) : Int :=
  if x.isNegative then - (x.magnitude : Int) else x.magnitude

/-- The order of ranks.  On numbers it is their numerical order; a not-a-number is placed by its
sign beyond the infinities, so the order is total. -/
def order (x y : Double) : Ordering := compare x.rank y.rank

/-- Numerically less; no not-a-number is less than anything or greater than anything. -/
def less (x y : Double) : Bool := !x.isNaN && !y.isNaN && decide (x.rank < y.rank)

/-- Numerically less or equal; false as soon as one side is not a number. -/
def atMost (x y : Double) : Bool := !x.isNaN && !y.isNaN && decide (x.rank ≤ y.rank)

/-- The greater number; a side that is not a number is passed over. -/
def max (x y : Double) : Double :=
  if x.isNaN then y else if y.isNaN then x else if x.less y then y else x

/-- The smaller number; a side that is not a number is passed over. -/
def min (x y : Double) : Double :=
  if x.isNaN then y else if y.isNaN then x else if y.less x then y else x

/-! ## Arithmetic of the machine -/

def toMachine (x : Double) : Float := Float.ofBits x.bits

def ofMachine (x : Float) : Double := ⟨x.toBits⟩

def add (x y : Double) : Double := ofMachine (x.toMachine + y.toMachine)

def sub (x y : Double) : Double := ofMachine (x.toMachine - y.toMachine)

def mul (x y : Double) : Double := ofMachine (x.toMachine * y.toMachine)

def div (x y : Double) : Double := ofMachine (x.toMachine / y.toMachine)

instance : Add Double := ⟨add⟩
instance : Sub Double := ⟨sub⟩
instance : Mul Double := ⟨mul⟩
instance : Div Double := ⟨div⟩

/-- The same number with the opposite sign bit. -/
def negate (x : Double) : Double := ofMagnitude (!x.isNegative) x.magnitude

/-- Repeated squaring: each factor of two in the exponent costs one rounded product. -/
def power (base : Double) (exponent : Nat) : Double :=
  go base one exponent
where
  go (base result : Double) (exponent : Nat) : Double :=
    let result := if exponent % 2 = 1 then result * base else result
    if h : exponent < 2 then result
    else go (base * base) result (exponent / 2)
  termination_by exponent

/-! ## Elementary functions -/

def sqrt (x : Double) : Double := ofMachine x.toMachine.sqrt
def exp (x : Double) : Double := ofMachine x.toMachine.exp
def ln (x : Double) : Double := ofMachine x.toMachine.log
def log10 (x : Double) : Double := ofMachine x.toMachine.log10
def sin (x : Double) : Double := ofMachine x.toMachine.sin
def cos (x : Double) : Double := ofMachine x.toMachine.cos
def tan (x : Double) : Double := ofMachine x.toMachine.tan
def arcsin (x : Double) : Double := ofMachine x.toMachine.asin
def arccos (x : Double) : Double := ofMachine x.toMachine.acos
def arctan (x : Double) : Double := ofMachine x.toMachine.atan
def pow (x y : Double) : Double := ofMachine (x.toMachine.pow y.toMachine)

end Double

end ClockedFormula
