import ClockedFormula.Function.Math
import ClockedFormula.Function.Temporal
/-!
# The built-in functions

Every function has one spelling.  A formula that matches names in any case finds it in any case of
its ASCII letters; another formula is told the spelling that it should have used.
-/

namespace ClockedFormula

/-- A built-in function. -/
inductive Function where
  | math (f : MathFunction)
  | temporal (f : TemporalFunction)
deriving DecidableEq

namespace Function

def name : Function → String
  | math f => f.name
  | temporal f => f.name

def arity : Function → Arity
  | math f => f.arity
  | temporal f => f.arity

/-- Whether the function reads the clock or remembers something. -/
def isTemporal : Function → Bool
  | math _ => false
  | temporal _ => true

def all : List Function := MathFunction.all.map math ++ TemporalFunction.all.map temporal

/-- The function that a call names. -/
def resolve (name : String) (ignoreCase : Bool) : Attempt Function :=
  match all.find? fun f => Text.equalIgnoringAsciiCase f.name name with
  | none => .error (.functionNotFound name none)
  | some f =>
    if ignoreCase || f.name == name then .ok f
    else .error (.functionNotFound name (some f.name))

/-- The failure of a call with a number of arguments that the function does not take. -/
def arityError (f : Function) (given : Nat) : EvalError :=
  .arityMismatch f.name f.arity.text given

/-- Check a number of arguments. -/
def checkArity (f : Function) (given : Nat) : Attempt Unit :=
  if f.arity.accepts given then .ok () else .error (f.arityError given)

theorem mem_all (f : Function) : f ∈ all := by
  cases f with
  | math f => exact List.mem_append_left _ (List.mem_map_of_mem f.mem_all)
  | temporal f => exact List.mem_append_right _ (List.mem_map_of_mem f.mem_all)

end Function

end ClockedFormula
