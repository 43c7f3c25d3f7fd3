import ClockedFormula.Value.Text
/-!
# Failures of an evaluation

A failure ends the evaluation that meets it.  Its constructor says what went wrong, and
`EvalError.message` words it.
-/

namespace ClockedFormula

/-- The causes for which an evaluation fails. -/
inductive EvalError where
  /-- A value has no counterpart in the kind that an operation needs. -/
  | coercion (value : Value) (target : Kind)
  /-- A function was called with a number of arguments that it does not take. -/
  | arityMismatch (function expected : String) (given : Nat)
  /-- No function has this name; the hint is the spelling of one that differs in case only. -/
  | functionNotFound (name : String) (hint : Option String)
  /-- Neither a binding nor a handler gives the identifier a value. -/
  | parameterNotDefined (name : String)
  /-- The evaluation was called off. -/
  | cancelled
  /-- An integer or decimal division by zero. -/
  | divisionByZero
  /-- An argument is outside the domain of a function. -/
  | invalidArgument (function reason : String)
  /-- The clock does not show what a function needs. -/
  | clockUnavailable (field : String)
  /-- A handler failed. -/
  | handler (reason : String)
  /-- Settings could not be read. -/
  | config (reason : String)
  /-- Anything else that a handler reports. -/
  | internal (reason : String)
deriving DecidableEq

namespace EvalError

/-- The wording of a failure. -/
def message : EvalError → String
  | coercion value target => "Cannot convert " ++ value.description ++ " to " ++ target.name
  | arityMismatch function expected given =>
    s!"{function}() takes {expected} argument(s), got {given}"
  | functionNotFound name none => s!"Function not found: {name}"
  | functionNotFound name (some hint) => s!"Function not found: {name}. Try {hint} instead."
  | parameterNotDefined name => s!"Parameter was not defined: {name}"
  | cancelled => "Evaluation cancelled"
  | divisionByZero => "Division by zero"
  | invalidArgument function reason => s!"Invalid argument for {function}(): {reason}"
  | clockUnavailable field => s!"Clock field not available: {field}"
  | handler reason => s!"Extension handler failed: {reason}"
  | config reason => s!"Configuration error: {reason}"
  | internal reason => s!"Internal error: {reason}"

end EvalError

/-- The outcome of a computation that may fail. -/
abbrev Attempt (α : Type) : Type := Except EvalError α

end ClockedFormula
