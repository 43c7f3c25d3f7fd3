import ClockedFormula.Function.Arity
import ClockedFormula.NodeMemory
import ClockedFormula.Operator
import ClockedFormula.Options
import ClockedFormula.RandomStream
import ClockedFormula.Signal
import ClockedFormula.Smoothing
/-!
# Functions of the clock and of the past

The functions that read the clock, draw random numbers, or remember something from call to call.  The
state of their recipes is the memory of their own node together with the random numbers of the
formula.  What they remember is written last, when nothing can fail any more.
-/

namespace ClockedFormula

open Recipe

/-- The functions with clock or memory. -/
inductive TemporalFunction where
  | value
  | init
  | externalUpdate
  | ramp
  | step
  | pulse
  | normal
  | smooth1
  | smooth3
  | smoothN
deriving DecidableEq

/-- What a temporal function can read and change. -/
structure Workspace where
  node : NodeState
  random : RandomStream

/-- What a temporal function finds when it is called. -/
structure Setting where
  clock : Clock
  options : Options
  /-- How the clock has moved since the previous call. -/
  progress : Progress

namespace Setting

/-- The time between steps. -/
def deltaTime (setting : Setting) : Double :=
  setting.clock.deltaTime.getD setting.options.defaultDeltaTime

/-- The time that the clock shows. -/
def time (setting : Setting) : Attempt Double :=
  match setting.clock.time with
  | some time => .ok (.ofNat time.toNat)
  | none => .error (.clockUnavailable "time")

end Setting

namespace TemporalFunction

variable {count : Nat}

/-- Change the memory of the node. -/
def remember (change : NodeState → NodeState) : Recipe Workspace count Unit :=
  readState fun workspace => writeState { workspace with node := change workspace.node } (answer ())

/-- Draw a random number from zero to below one. -/
def draw : Recipe Workspace count Double :=
  readState fun workspace =>
    let (x, random) := workspace.random.next
    writeState { workspace with random := random } (answer x)

/-! ## Normal distribution -/

/-- A number of the normal distribution from two numbers of the uniform one.  The first of them is
taken from one downwards, so that its logarithm exists. -/
def normalFrom (mean deviation first second : Double) : Double :=
  let size := ((Double.ofNat 2).negate * (Double.one - first).ln).sqrt
  let angle := Double.ofNat 2 * Double.pi * second
  mean + deviation * (size * angle.cos)

def drawNormal (mean deviation : Double) : Recipe Workspace count Double := do
  let first ← draw
  let second ← draw
  return normalFrom mean deviation first second

/-! ## Smoothing -/

/-- The most stages that a smoothing can have. -/
def mostStages : Nat := 64

/-- A number of stages that may be out of range. -/
def order? (order : Int64) : Attempt Nat :=
  if 1 ≤ order.toInt ∧ order.toInt ≤ mostStages then .ok order.toInt.toNat
  else
    let given := Integer.toText order.toInt
    .error (.invalidArgument "smthN" s!"order must be between 1 and {mostStages}, got {given}")

/-- Smooth the first operand with the delay that the second one gives.  The stages start level at the
initial value, which is asked for only then, or at the input; so they do again when their number
changes.  In a step in which the clock has not moved on they stay where they are. -/
def smooth (setting : Setting) (order : Nat) (input delay : Fin count)
    (initial : Option (Fin count)) : Recipe Workspace count Value := do
  let input ← operandDouble input
  let delay ← operandDouble delay
  let workspace ← readState answer
  let level ← match workspace.node.temporal with
    | .stages stages =>
      if stages.length = order then
        pure <|
          if setting.progress.integrates then
            let share := Smoothing.share setting.deltaTime delay order
            Smoothing.advance share input stages
          else stages
      else restart input initial
    | _ => restart input initial
  remember fun node => { node with temporal := .stages level }
  return .float (level.getLastD input)
where
  restart (input : Double) : Option (Fin count) → Recipe Workspace count (List Double)
    | some initial => do return List.replicate order (← operandDouble initial)
    | none => return List.replicate order input

/-! ## Recipes -/

/-- Show a value to the host and give it as the result. -/
def publish (v : Value) : Recipe Workspace count Value := do
  remember fun node => { node with external := some v }
  return v

/-- A pulse as a number. -/
def pulseLevel (on : Bool) : Value := .float (if on then .one else .zero)

/-- What the function does with so many arguments, if it takes so many. -/
def recipe? :
    TemporalFunction → (count : Nat) → Option (Setting → Recipe Workspace count Value)
  | value, 1 => some fun _ => do publish (← operand 0)
  | init, 1 => some fun _ => do
    let workspace ← readState answer
    match workspace.node.temporal with
    | .frozen v => return v
    | _ =>
      let v ← operand 0
      remember fun node => { node with temporal := .frozen v }
      return v
  | externalUpdate, 1 => some fun _ => do
    let workspace ← readState answer
    match workspace.node.injected with
    | some v => publish v
    | none => publish (← operand 0)
  | ramp, 2 => some fun setting => do
    let time ← setting.time
    let slope ← operandDouble 0
    let start ← operandDouble 1
    return .float (Signal.ramp time slope start none)
  | ramp, 3 => some fun setting => do
    let time ← setting.time
    let slope ← operandDouble 0
    let start ← operandDouble 1
    let finish ← operandDouble 2
    return .float (Signal.ramp time slope start (some finish))
  | step, 2 => some fun setting => do
    let time ← setting.time
    let height ← operandDouble 0
    let start ← operandDouble 1
    return .float (Signal.step time height start)
  | pulse, 2 => some fun setting => do
    let time ← setting.time
    let start ← operandDouble 0
    let width ← operandDouble 1
    return pulseLevel (Signal.pulse time start width .zero setting.deltaTime)
  | pulse, 3 => some fun setting => do
    let time ← setting.time
    let start ← operandDouble 0
    let width ← operandDouble 1
    let interval ← operandDouble 2
    return pulseLevel (Signal.pulse time start width interval setting.deltaTime)
  | normal, 2 => some fun _ => do
    let mean ← operandDouble 0
    let deviation ← operandDouble 1
    return .float (← drawNormal mean deviation)
  | normal, 4 => some fun _ => do
    let mean ← operandDouble 0
    let deviation ← operandDouble 1
    let sample ← drawNormal mean deviation
    let lowest ← operandDouble 2
    let highest ← operandDouble 3
    return .float ((sample.max lowest).min highest)
  | smooth1, 2 => some fun setting => smooth setting 1 0 1 none
  | smooth1, 3 => some fun setting => smooth setting 1 0 1 (some 2)
  | smooth3, 2 => some fun setting => smooth setting 3 0 1 none
  | smooth3, 3 => some fun setting => smooth setting 3 0 1 (some 2)
  | smoothN, 3 => some fun setting => do
    let order ← order? (← (← operand 2).toInt64)
    smooth setting order 0 1 none
  | smoothN, 4 => some fun setting => do
    let order ← order? (← (← operand 2).toInt64)
    smooth setting order 0 1 (some 3)
  | _, _ => none

def name : TemporalFunction → String
  | value => "value"
  | init => "init"
  | externalUpdate => "externalUpdate"
  | ramp => "ramp"
  | step => "step"
  | pulse => "pulse"
  | normal => "normal"
  | smooth1 => "smth1"
  | smooth3 => "smth3"
  | smoothN => "smthN"

def arity : TemporalFunction → Arity
  | value | init | externalUpdate => .exactly 1
  | ramp | pulse | smooth1 | smooth3 => .oneOf [2, 3]
  | step => .exactly 2
  | normal => .oneOf [2, 4]
  | smoothN => .oneOf [3, 4]

def all : List TemporalFunction :=
  [value, init, externalUpdate, ramp, step, pulse, normal, smooth1, smooth3, smoothN]

theorem mem_all (f : TemporalFunction) : f ∈ all := by
  cases f <;> decide

end TemporalFunction

end ClockedFormula
