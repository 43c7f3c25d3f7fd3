import ClockedFormula.Proofs.Evaluation.Moment
import ClockedFormula.Proofs.Walk.Event

namespace ClockedFormula

open Walk

/-!
# Events of an evaluation

The events of an evaluation are those of its operands in the order in which they are asked for, those of
the handlers that are consulted, and the opening of a formula where a name is bound to one.
-/

/-- What happens where a formula is met under a name, given what happens inside. -/
def openingEvents (entering : Context → Formula → World → List Event) (context : Context)
    (f : Formula) (world : World) : List Event :=
  .outside world (.opens f) :: (entering context f world).map (.insideFormula f)

/-- What happens in the evaluation of a name. -/
def identifierEvents (entering : Context → Formula → World → List Event) (context : Context)
    (name : String) (world : World) : List Event :=
  match context.find? name with
  | some (.value _) => []
  | some (.formula f) => openingEvents entering context f world
  | none =>
    match context.clockReading? name with
    | some _ => []
    | none =>
      consultEvents context (context.foldName name) [] (fun _ _ => []) context.identifierHandlers
        none world

/-- What happens in a function call, given what happens on the way to an argument.  The built-in function
is called if no handler claims the call. -/
def callEvents (context : Context) (id : NodeId) (name : String) (arguments : List Argument)
    {count : Nat} (operands : Fin count → Walk Value) (inner : Nat → World → List Event) :
    World → List Event :=
  inSequence (consult context context.functionHandlers (context.foldName name) arguments)
    (consultEvents context (context.foldName name) arguments inner context.functionHandlers none)
    fun
      | some _ => fun _ => []
      | none => duringCall context id name count operands fun position => inner position

mutual

/-- What happens in the evaluation of an expression, given what happens in the formulas that it opens. -/
def events (enter : Context → Formula → Walk Value)
    (entering : Context → Formula → World → List Event) (context : Context) :
    Expr → World → List Event
  | .literal _, _ => []
  | .identifier name, world => identifierEvents entering context name world
  | .unary op operand, world =>
    op.recipe.trail (fun _ => evaluate enter context operand)
      (fun _ => events enter entering context operand) (pure ()) (fun _ => pure ()) world
  | .binary op left right, world =>
    op.recipe.trail (operandsOfTwo (evaluate enter context left) (evaluate enter context right))
      (operandsOfTwo (events enter entering context left) (events enter entering context right))
      (pure ()) (fun _ => pure ()) world
  | .conditional condition thenBranch elseBranch, world =>
    choose.trail
      (operandsOfThree (evaluate enter context condition) (evaluate enter context thenBranch)
        (evaluate enter context elseBranch))
      (operandsOfThree (events enter entering context condition)
        (events enter entering context thenBranch) (events enter entering context elseBranch))
      (pure ()) (fun _ => pure ()) world
  | .call id name arguments, world =>
    callEvents context id name (delay enter context arguments)
      (fun position => evaluate enter context (arguments.get position))
      (fun position => (eventsOfAll enter entering context arguments).getD position fun _ => [])
      world

/-- What happens in the evaluation of each of several expressions. -/
def eventsOfAll (enter : Context → Formula → Walk Value)
    (entering : Context → Formula → World → List Event) (context : Context) :
    List Expr → List (World → List Event)
  | [] => []
  | e :: rest => events enter entering context e :: eventsOfAll enter entering context rest

end

/-- What happens in the evaluation of an expression with at most so many formulas open inside one
another. -/
def walkEvents : (depth : Nat) → Context → Expr → World → List Event
  | 0, _, _, _ => []
  | depth + 1, context, e, world =>
    events (fun outer f => walk depth (outer.enter f) f.expression)
      (fun outer f => walkEvents depth (outer.enter f) f.expression) context e world

/-- What happens when a formula is evaluated at a clock. -/
def Formula.eventsTo (depth : Nat) (f : Formula) (clock : Clock) : World → List Event :=
  walkEvents depth (Context.ofFormula f clock) f.expression

section

variable {enter : Context → Formula → Walk Value}
  {entering : Context → Formula → World → List Event} {context : Context}

theorem eventsOfAll_eq_map (arguments : List Expr) :
    eventsOfAll enter entering context arguments =
      arguments.map (events enter entering context) := by
  induction arguments with
  | nil => rfl
  | cons e rest ih => rw [eventsOfAll, ih, List.map_cons]

theorem Composed.events_eq {e : Expr} {count : Nat} {recipe : Recipe Unit count Value}
    {parts : Fin count → Expr} (composed : Composed e count recipe parts)
    (enter : Context → Formula → Walk Value)
    (entering : Context → Formula → World → List Event) (context : Context) :
    events enter entering context e =
      recipe.trail (fun position => evaluate enter context (parts position))
        (fun position => events enter entering context (parts position)) (pure ())
        fun _ => pure () := by
  funext world
  cases composed with
  | unary op operand => rw [events]
  | binary op left right =>
    rw [events, map_operandsOfTwo (evaluate enter context),
      map_operandsOfTwo (events enter entering context)]
  | conditional condition thenBranch elseBranch =>
    rw [events, map_operandsOfThree (evaluate enter context),
      map_operandsOfThree (events enter entering context)]

end

section Trail

variable {σ α : Type} {count : Nat} (operands : Fin count → Walk Value)
  (inner : Fin count → World → List Event) (read : Walk σ) (write : σ → Walk Unit)

theorem trail_ask (position : Fin count) (next : Value → Recipe σ count α) :
    (Recipe.ask position next).trail operands inner read write =
      inSequence (operands position) (inner position) fun v =>
        (next v).trail operands inner read write := by
  funext world
  rw [Recipe.trail, inSequence]
  cases operands position world <;> rfl

theorem trail_readState (next : σ → Recipe σ count α) :
    (Recipe.readState next).trail operands inner read write =
      inSequence read (fun _ => []) fun state => (next state).trail operands inner read write := by
  funext world
  rw [Recipe.trail, inSequence]
  cases read world <;> rfl

theorem trail_writeState (state : σ) (next : Recipe σ count α) :
    (Recipe.writeState state next).trail operands inner read write =
      inSequence (write state) (fun _ => []) fun _ => next.trail operands inner read write := by
  funext world
  rw [Recipe.trail, inSequence]
  cases write state world <;> rfl

end Trail

section Resolved

variable {context : Context} {id : NodeId} {name : String} {count : Nat}
  {operands : Fin count → Walk Value} {μ : Type} {inner : Fin count → World → List μ}

theorem duringCall_unresolved {e : EvalError}
    (resolved : Function.resolve name context.options.ignoreCase = .error e) :
    duringCall context id name count operands inner = fun _ => [] := by
  funext world
  rw [duringCall, resolved]

theorem duringCall_math {f : MathFunction}
    (resolved : Function.resolve name context.options.ignoreCase = .ok (.math f)) :
    duringCall context id name count operands inner =
      match f.recipe? context.options.roundAwayFromZero count with
      | none => fun _ => []
      | some recipe => recipe.trail operands inner (pure ()) fun _ => pure () := by
  funext world
  rw [duringCall, resolved]
  dsimp only
  cases f.recipe? context.options.roundAwayFromZero count <;> rfl

theorem duringCall_temporal {f : TemporalFunction}
    (resolved : Function.resolve name context.options.ignoreCase = .ok (.temporal f)) :
    duringCall context id name count operands inner =
      match f.recipe? count with
      | none => fun _ => []
      | some recipe =>
        inSequence (beginCall context id) (fun _ => []) fun progress =>
          (recipe ⟨context.clock, context.options, progress⟩).trail operands inner
            (Workspace.read context.store id) (Workspace.write context.store id) := by
  funext world
  rw [duringCall, resolved]
  dsimp only
  cases f.recipe? count <;> rfl

end Resolved

end ClockedFormula
