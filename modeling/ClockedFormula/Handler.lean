import ClockedFormula.Clock
import ClockedFormula.EvalError
import ClockedFormula.Expr
import ClockedFormula.Options
import ClockedFormula.Table
/-!
# Handlers

A host extends a formula by handlers, which are asked about identifiers that have no binding and about
function calls.  A handler that is asked sees the name and the unevaluated arguments with their contexts,
bound values and formulas included, and answers with a program: it may evaluate arguments, look at what the
calls of a formula show, claim the answer, give control back to the host for a while, set the cancel flag of
a formula, and take notes.

Programs are data.  What evaluating an argument means, and when a program that gave back control may
go on, is decided by the evaluation that runs it.
-/

namespace ClockedFormula

/-- The identity of what a formula and its clones share. -/
structure StoreId where
  number : Nat
deriving DecidableEq

/-- What a name is bound to. -/
inductive Binding (φ : Type) where
  | value (v : Value)
  | formula (f : φ)

/-! ## What handlers see -/

/-- A formula as a handler sees it that meets it in a binding.  Evaluating, feeding or resetting it would be
the work of a host, and is not what a handler does here. -/
structure FormulaView where
  expression : Expr
  options : Options
  bindings : Table String (Binding FormulaView)
  /-- Where to look at what its calls show. -/
  store : StoreId

/-- The context of an argument as a handler sees it. -/
structure ArgumentContext where
  clock : Clock
  options : Options
  /-- The names that are bound, in their order. -/
  names : List String
  /-- The binding of a name. -/
  find? : String → Option (Binding FormulaView)

/-- An argument as a handler sees it before evaluation. -/
structure ArgumentView where
  expression : Expr
  context : ArgumentContext

/-- What a handler is asked.

A handler may keep a state, and so answer the same question differently from one time to the next.  What it
does in a given course of evaluations is then fixed by the question and by how often it has been asked before.
So a handler that may go by both can do all that one with a state can come to do. -/
structure Request where
  name : String
  arguments : List ArgumentView
  /-- How often the handler has been asked before. -/
  timesAsked : Nat

/-- What a call shows to whoever holds its formula. -/
structure Readouts where
  lastValue : Option Value
  external : Option Value

/-! ## What handlers do -/

/-- A note in the journal of a handler. -/
inductive Note where
  /-- A handler was asked about a name. -/
  | asked (handler name : String)
  /-- What was claimed so far. -/
  | claim (claimed : Option Value)
  /-- The outcome of an evaluation. -/
  | evaluated (result : Attempt Value)
  /-- The form of an argument. -/
  | form (form : ExprForm)
  /-- The context of an argument, and whether a name has a binding there. -/
  | context (clock : Clock) (options : Options) (names : List String) (found : Bool)

/-- Whether a note says that a certain handler was asked. -/
def Note.saysAsked (label : String) : Note → Bool
  | asked handler _ => handler == label
  | _ => false

/-- What a handler does. -/
inductive Program where
  | done
  | fail (e : EvalError)
  /-- Claim the answer; the first claim of all handlers stands. -/
  | claim (v : Value) (next : Program)
  /-- Go on with what is claimed so far. -/
  | look (next : Option Value → Program)
  /-- Go on with the outcome of evaluating an argument. -/
  | evaluate (position : Nat) (next : Attempt Value → Program)
  /-- Go on with what a call of a formula shows. -/
  | peek (store : StoreId) (id : NodeId) (next : Readouts → Program)
  /-- Give control back once before going on. -/
  | suspend (next : Program)
  /-- Set the cancel flag of the formula at a place in the order of the host. -/
  | cancel (place : Nat) (next : Program)
  | note (note : Note) (next : Program)

/-- A handler, with the name under which it appears in the journal.  The name also tells how often it has been
asked, so handlers with states of their own have names of their own. -/
structure Handler where
  label : String
  respond : Request → Program

end ClockedFormula
