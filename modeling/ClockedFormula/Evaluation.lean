import ClockedFormula.Function
import ClockedFormula.Walk
/-!
# Evaluation

An expression is evaluated in a context: the options, bindings and handlers of the formula it belongs
to, the store in which that formula keeps its memory, the clock, and the store whose cancel flag can
stop the walk.  The flag is always that of the formula at which the walk began.

Evaluation is structural in the expression.  Only a name bound to a formula leaves the expression, and
`walk` bounds how many formulas may be open inside one another.  There has to be such a bound: the
formula around a bound formula lends it its bindings, so a formula can meet itself again.
-/

namespace ClockedFormula

/-- Where an expression is evaluated. -/
structure Context where
  options : Options
  bindings : Bindings
  identifierHandlers : List Handler
  functionHandlers : List Handler
  /-- The memory and the random numbers that are used. -/
  store : StoreId
  clock : Clock
  /-- The cancel flag that is obeyed. -/
  root : StoreId

namespace Context

/-- The context of a formula at which a walk begins. -/
def ofFormula (f : Formula) (clock : Clock) : Context where
  options := f.options
  bindings := f.bindings
  identifierHandlers := f.identifierHandlers
  functionHandlers := f.functionHandlers
  store := f.store
  clock := clock
  root := f.store

/-- The context of a formula that is met under a name: all its own, but with the bindings around it in
front of its own, and with the clock and the cancel flag of the walk. -/
def enter (outer : Context) (f : Formula) : Context where
  options := f.options
  bindings := f.bindings.overlay outer.bindings
  identifierHandlers := f.identifierHandlers
  functionHandlers := f.functionHandlers
  store := f.store
  clock := outer.clock
  root := outer.root

/-- The binding of a name. -/
def find? (context : Context) (name : String) : Option (Binding Formula) :=
  context.bindings.find? context.options.ignoreCase name

/-- A name as handlers are asked about it. -/
def foldName (context : Context) (name : String) : String :=
  if context.options.ignoreCase then Text.lowerCase name else name

/-- What handlers see of the context. -/
def view (context : Context) : ArgumentContext where
  clock := context.clock
  options := context.options
  names := context.bindings.keys
  find? := fun name => (context.find? name).map Binding.view

/-- Whether a name ends like another text, in any case of ASCII letters if names match so. -/
def endsWith (context : Context) (name ending : String) : Bool :=
  let last := String.ofList (name.toList.drop (name.length - ending.length))
  last == ending || (context.options.ignoreCase && Text.equalIgnoringAsciiCase last ending)

/-- The time as a value; a time beyond the integers is a float. -/
def timeValue (clock : Clock) : Value :=
  match clock.time with
  | none => .null
  | some time => Value.exactOr time.toNat (.ofNat time.toNat)

def deltaTimeValue (clock : Clock) : Value :=
  match clock.deltaTime with
  | none => .null
  | some deltaTime => .float deltaTime

/-- What a name without a binding reads off the clock. -/
def clockReading? (context : Context) (name : String) : Option Value :=
  if context.endsWith name "_Time" then some (timeValue context.clock)
  else if context.endsWith name "_Dt" then some (deltaTimeValue context.clock)
  else none

end Context

/-- An argument that has not been evaluated. -/
structure Argument where
  expression : Expr
  value : Walk Value

/-! ## Handlers -/

/-- What a handler is asked about a name. -/
def Context.request (context : Context) (name : String) (arguments : List Argument)
    (timesAsked : Nat) : Request where
  name := name
  arguments := arguments.map fun argument => ⟨argument.expression, context.view⟩
  timesAsked := timesAsked

/-- Run the program of a handler, given what is claimed already; the result is what is claimed then.
A program that gave back control goes on only while the walk is not cancelled. -/
def Program.run (root : StoreId) (arguments : List Argument) :
    Program → Option Value → Walk (Option Value)
  | done, claimed => pure claimed
  | fail e, _ => Walk.fail e
  | claim v next, claimed => next.run root arguments (claimed.or (some v))
  | look next, claimed => (next claimed).run root arguments claimed
  | evaluate position next, claimed => do
    let result ← match arguments[position]? with
      | some argument => argument.value.outcome
      | none => pure (.error (.handler s!"no argument {position}"))
    (next result).run root arguments claimed
  | peek store id next, claimed => do
    let shown ← Walk.readouts store id
    (next shown).run root arguments claimed
  | suspend next, claimed => do
    if ← Walk.isCancelled root then throw .dropped
    else next.run root arguments claimed
  | cancel place next, claimed => do
    Walk.cancel place
    next.run root arguments claimed
  | note entry next, claimed => do
    Walk.note entry
    next.run root arguments claimed

/-- Ask all handlers in their order about a name; the first claim is the answer.  None is asked once
the walk is cancelled. -/
def consult (context : Context) (handlers : List Handler) (name : String)
    (arguments : List Argument) : Walk (Option Value) :=
  ask handlers none
where
  /-- Ask the handlers that are left. -/
  ask : List Handler → Option Value → Walk (Option Value)
    | [], claimed => pure claimed
    | handler :: rest, claimed => do
      if ← Walk.isCancelled context.root then Walk.fail .cancelled
      else
        let timesAsked ← Walk.timesAsked handler.label
        Walk.note (.asked handler.label name)
        let program := handler.respond (context.request name arguments timesAsked)
        ask rest (← program.run context.root arguments claimed)

/-! ## Recipes -/

/-- Follow a recipe, given the walks to the values of its operands and to its state. -/
def Recipe.follow {σ α : Type} {count : Nat} (operands : Fin count → Walk Value)
    (read : Walk σ) (write : σ → Walk Unit) : Recipe σ count α → Walk α
  | answer a => pure a
  | fail e => Walk.fail e
  | ask position next => do
    let v ← operands position
    (next v).follow operands read write
  | readState next => do
    let state ← read
    (next state).follow operands read write
  | writeState state next => do
    write state
    next.follow operands read write

/-- Follow a recipe without a state. -/
def Recipe.followPlain {α : Type} {count : Nat} (operands : Fin count → Walk Value)
    (recipe : Recipe Unit count α) : Walk α :=
  recipe.follow operands (pure ()) fun _ => pure ()

/-- What is known of operands: the values of those that have been evaluated. -/
abbrev Memo (count : Nat) : Type := Fin count → Option Value

/-- Evaluate an operand whose value is not known yet. -/
def Memo.fill {count : Nat} (operands : Fin count → Walk Value) (memo : Memo count)
    (position : Fin count) : Walk (Memo count) :=
  match memo position with
  | some _ => return memo
  | none => do
    let v ← operands position
    return fun other => if other = position then some v else memo other

/-- The value of an operand that has been evaluated. -/
def Memo.value {count : Nat} (memo : Memo count) (position : Fin count) : Walk Value :=
  match memo position with
  | some v => return v
  | none => Walk.fail (.internal "operand memo is empty")

/-- Follow a recipe without a state, and evaluate an operand only when it is asked for the first time. -/
def Recipe.followOnce {α : Type} {count : Nat} (operands : Fin count → Walk Value) :
    Recipe Unit count α → Memo count → Walk α
  | answer a, _ => pure a
  | fail e, _ => Walk.fail e
  | ask position next, memo => do
    let memo ← memo.fill operands position
    let v ← memo.value position
    (next v).followOnce operands memo
  | readState next, memo => (next ()).followOnce operands memo
  | writeState _ next, memo => next.followOnce operands memo

/-- The operands of an operator between two expressions. -/
def operandsOfTwo {α : Type} (left right : α) : Fin 2 → α
  | 0 => left
  | 1 => right

/-- The operands of the conditional. -/
def operandsOfThree {α : Type} (first second third : α) : Fin 3 → α
  | 0 => first
  | 1 => second
  | 2 => third

namespace Workspace

/-- The memory of a node and the random numbers of a store. -/
def read (store : StoreId) (id : NodeId) : Walk Workspace := do
  let store ← Walk.store store
  return ⟨store.memory.state id, store.random⟩

/-- Replace the memory of a node and the random numbers of a store. -/
def write (store : StoreId) (id : NodeId) (workspace : Workspace) : Walk Unit :=
  modify fun world => world.modifyStore store fun contents =>
    { contents with
      memory := contents.memory.setState id workspace.node
      random := workspace.random }

end Workspace

/-! ## Function calls -/

/-- Register a call at the clock. -/
def beginCall (context : Context) (id : NodeId) : Walk Progress := do
  let store ← Walk.store context.store
  let (progress, memory) :=
    store.memory.beginCall id context.clock context.options.resetOnNewRun
  Walk.modifyMemory context.store fun _ => memory
  return progress

/-- The failure of a function that asks for an argument which is not there. -/
def Function.argumentMissing (f : Function) : EvalError := .internal s!"{f.name} lacks an argument"

/-- Call a function without clock and memory. -/
def callMath (options : Options) (f : Function) (arguments : List Argument) : Walk Value :=
  match f with
  | .math g =>
    match g.recipe? options.roundAwayFromZero arguments.length with
    | some recipe => recipe.followPlain fun position => (arguments.get position).value
    | none => Walk.fail f.argumentMissing
  | .temporal _ => Walk.fail (.internal s!"{f.name} is not a math function")

/-- Call a function with clock or memory.  The call is registered before anything else. -/
def callTemporal (context : Context) (id : NodeId) (f : Function) (arguments : List Argument) :
    Walk Value := do
  let progress ← beginCall context id
  match f with
  | .temporal g =>
    match g.recipe? arguments.length with
    | some recipe =>
      (recipe ⟨context.clock, context.options, progress⟩).follow
        (fun position => (arguments.get position).value) (Workspace.read context.store id)
        (Workspace.write context.store id)
    | none => Walk.fail f.argumentMissing
  | .math _ => Walk.fail (.internal s!"{f.name} is not a temporal function")

/-- Call a built-in function, if there is one of this name and it takes so many arguments. -/
def callFunction (context : Context) (id : NodeId) (name : String) (arguments : List Argument) :
    Walk Value := do
  let f ← Walk.ofAttempt (Function.resolve name context.options.ignoreCase)
  Walk.ofAttempt (f.checkArity arguments.length)
  if f.isTemporal then callTemporal context id f arguments
  else callMath context.options f arguments

/-- Evaluate a function call: a claim of the handlers is its value, and without one the built-in
function is called.  The node notes the value. -/
def evaluateCall (context : Context) (id : NodeId) (name : String) (arguments : List Argument) :
    Walk Value := do
  let claimed ← consult context context.functionHandlers (context.foldName name) arguments
  let v ← match claimed with
    | some v => pure v
    | none => callFunction context id name arguments
  Walk.modifyMemory context.store fun memory => memory.recordResult id v
  return v

/-! ## Identifiers -/

/-- Evaluate a name: its binding, or else a reading of the clock, or else what handlers claim.  A
formula to which it is bound is entered. -/
def evaluateIdentifier (enter : Context → Formula → Walk Value) (context : Context)
    (name : String) : Walk Value :=
  match context.find? name with
  | some (.value v) => pure v
  | some (.formula f) => enter context f
  | none =>
    match context.clockReading? name with
    | some v => pure v
    | none => do
      match ← consult context context.identifierHandlers (context.foldName name) [] with
      | some v => return v
      | none => Walk.fail (.parameterNotDefined name)

/-! ## Expressions -/

mutual

/-- Evaluate an expression, given how formulas are entered. -/
def evaluate (enter : Context → Formula → Walk Value) (context : Context) : Expr → Walk Value
  | .literal v => pure v
  | .identifier name => evaluateIdentifier enter context name
  | .unary op operand => op.recipe.followPlain fun _ => evaluate enter context operand
  | .binary op left right =>
    op.recipe.followOnce
      (operandsOfTwo (evaluate enter context left) (evaluate enter context right)) fun _ => none
  | .conditional condition thenBranch elseBranch =>
    choose.followPlain
      (operandsOfThree (evaluate enter context condition) (evaluate enter context thenBranch)
        (evaluate enter context elseBranch))
  | .call id name arguments => evaluateCall context id name (delay enter context arguments)

/-- The arguments of a call, not evaluated. -/
def delay (enter : Context → Formula → Walk Value) (context : Context) : List Expr → List Argument
  | [] => []
  | e :: rest => ⟨e, evaluate enter context e⟩ :: delay enter context rest

end

/-- Evaluate an expression with at most so many formulas open inside one another. -/
def walk : (depth : Nat) → Context → Expr → Walk Value
  | 0, _, _ => throw .exhausted
  | depth + 1, context, e =>
    evaluate (fun outer f => walk depth (outer.enter f) f.expression) context e

/-- How an evaluation ends. -/
inductive Outcome where
  | finished (result : Attempt Value)
  /-- Too many formulas were open inside one another. -/
  | unfinished

/-- How many formulas may be open inside one another. -/
def depthLimit : Nat := 2000

namespace Formula

/-- Evaluate a formula at a clock, up to a depth of nested formulas.  A walk that was dropped is a
cancelled evaluation. -/
def evaluateTo (depth : Nat) (f : Formula) (clock : Clock) (world : World) : Outcome × World :=
  match walk depth (Context.ofFormula f clock) f.expression world with
  | .ok v after => (.finished (.ok v), after)
  | .error (.failed e) after => (.finished (.error e), after)
  | .error .dropped after => (.finished (.error .cancelled), after)
  | .error .exhausted after => (.unfinished, after)

/-- Evaluate a formula at a clock. -/
def evaluateAt (f : Formula) (clock : Clock) (world : World) : Outcome × World :=
  f.evaluateTo depthLimit clock world

end Formula

end ClockedFormula
