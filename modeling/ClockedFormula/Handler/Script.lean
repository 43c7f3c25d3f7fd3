import ClockedFormula.Handler
import ClockedFormula.Value.Arithmetic
/-!
# Scripted handlers

A script answers by rules: the first rule for the name, or for any name, says which actions to take in
order; without a rule nothing is claimed.  Most scripts claim as they go, so that the first claim
stands.  A script that decides in the end keeps its answer to itself, the last one replacing those
before, and claims it when all actions are done.
-/

namespace ClockedFormula

/-- The failures that a script can report. -/
inductive ReportedFailure where
  | handler (reason : String)
  | internal (reason : String)
  | config (reason : String)
  /-- An argument of the function about which the handler was asked is invalid. -/
  | invalidArgument (reason : String)
  | divisionByZero
  | cancelled

/-- The failure as the evaluation meets it, given the name about which the handler was asked. -/
def ReportedFailure.toError (name : String) : ReportedFailure → EvalError
  | handler reason => .handler reason
  | internal reason => .internal reason
  | config reason => .config reason
  | invalidArgument reason => .invalidArgument name reason
  | divisionByZero => .divisionByZero
  | cancelled => .cancelled

/-- A step of a script. -/
inductive Action where
  | answer (v : Value)
  | fail (failure : ReportedFailure)
  /-- Give control back so many times. -/
  | suspend (times : Nat)
  /-- Set the cancel flag of the formula at a place. -/
  | cancel (place : Nat)
  /-- Note what is claimed so far. -/
  | noteClaim
  /-- Answer with the value of an argument. -/
  | answerArgument (position : Nat)
  /-- Evaluate an argument and note the outcome. -/
  | noteArgument (position : Nat)
  /-- Note the form of an argument. -/
  | noteForm (position : Nat)
  /-- Note the context of an argument and whether a name has a binding there. -/
  | noteContext (position : Nat) (name : String)
  /-- Answer with the number of arguments. -/
  | answerCount
  /-- Answer with the sum of all arguments. -/
  | answerSum
  /-- Answer with the plain texts of all arguments, separated by commas. -/
  | answerTexts

/-- The actions for a name. -/
structure Rule where
  name : String
  actions : List Action

/-- A handler given by rules. -/
structure Script where
  rules : List Rule
  /-- Whether the answer is claimed only in the end. -/
  decidesLast : Bool

namespace Script

/-- The name of the rules that are for any name. -/
def anyName : String := "*"

/-- The actions for a name. -/
def actionsFor (script : Script) (name : String) : List Action :=
  match script.rules.find? fun rule => rule.name == name || rule.name == anyName with
  | some rule => rule.actions
  | none => []

/-- Give control back so many times. -/
def suspendFor (next : Program) : (times : Nat) → Program
  | 0 => next
  | times + 1 => .suspend (suspendFor next times)

/-- Evaluate the arguments at the given positions, and go on with their values unless one fails. -/
def evaluateAll (next : List Value → Program) : (positions : List Nat) → Program
  | [] => next []
  | position :: rest =>
    .evaluate position fun
      | .error e => .fail e
      | .ok v => evaluateAll (fun values => next (v :: values)) rest

/-- Use the argument at a position, or fail where there is none. -/
def withArgument (request : Request) (position : Nat) (next : ArgumentView → Program) : Program :=
  match request.arguments[position]? with
  | some view => next view
  | none => .fail (.handler s!"no argument {position}")

/-- The sum of values, from zero and from left to right. -/
def sum (values : List Value) : Attempt Value := values.foldlM Value.add (.integer 0)

/-- The plain texts of values, separated by commas. -/
def texts (values : List Value) : Value := .text (",".intercalate (values.map Value.plainText))

/-- The program of a row of actions; `own` is the answer that a script which decides in the end has
kept to itself so far. -/
def program (decidesLast : Bool) (request : Request) (own : Option Value) :
    List Action → Program
  | [] =>
    match decidesLast, own with
    | true, some v => .claim v .done
    | _, _ => .done
  | action :: rest =>
    let continue_ := fun own => program decidesLast request own rest
    let answer := fun v =>
      if decidesLast then continue_ (some v) else .claim v (continue_ own)
    let positions := List.range request.arguments.length
    match action with
    | .answer v => answer v
    | .fail failure => .fail (failure.toError request.name)
    | .suspend times => suspendFor (continue_ own) times
    | .cancel place => .cancel place (continue_ own)
    | .noteClaim =>
      if decidesLast then .note (.claim own) (continue_ own)
      else .look fun claimed => .note (.claim claimed) (continue_ own)
    | .answerArgument position =>
      withArgument request position fun _ =>
        .evaluate position fun
          | .error e => .fail e
          | .ok v => answer v
    | .noteArgument position =>
      withArgument request position fun _ =>
        .evaluate position fun result => .note (.evaluated result) (continue_ own)
    | .noteForm position =>
      withArgument request position fun view =>
        .note (.form view.expression.form) (continue_ own)
    | .noteContext position name =>
      withArgument request position fun view =>
        let context := view.context
        let found := (context.find? name).isSome
        .note (.context context.clock context.options context.names found) (continue_ own)
    | .answerCount => answer (.integer (Int64.ofNat request.arguments.length))
    | .answerSum =>
      evaluateAll
        (fun values =>
          match sum values with
          | .error e => .fail e
          | .ok v => answer v)
        positions
    | .answerTexts => evaluateAll (fun values => answer (texts values)) positions

/-- The handler that a script describes. -/
def handler (script : Script) (label : String) : Handler where
  label := label
  respond request :=
    program script.decidesLast request none (script.actionsFor request.name)

end Script

end ClockedFormula
