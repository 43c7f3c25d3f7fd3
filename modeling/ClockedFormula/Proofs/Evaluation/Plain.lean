import ClockedFormula.Proofs.Function.Arity
import ClockedFormula.Proofs.Walk.Node

namespace ClockedFormula

/-!
# Formulas by themselves

A formula is plain when it has no handlers and its names are bound to values.  Its evaluation enters no
other formula and asks nobody: an identifier has an outcome that depends on the context alone, and a
function call is a call of a built-in function.

The equations of this module say so for the evaluator.  A call is brought into a form that has its
number of arguments as a parameter, since recipes are indexed by that number.
-/

/-- Whether bindings bind names to values only. -/
def Bindings.OnlyValues (bindings : Bindings) : Prop :=
  ∀ entry ∈ bindings.entries, ∃ v, entry.2 = .value v

theorem Bindings.exists_mem_of_find? {bindings : Bindings} {ignoreCase : Bool} {name : String}
    {binding : Binding Formula} (found : bindings.find? ignoreCase name = some binding) :
    ∃ key, (key, binding) ∈ bindings.entries := by
  rcases Option.or_eq_some_iff.mp found with direct | ⟨_, folded⟩
  · exact ⟨name, Table.mem_of_get?_eq_some direct⟩
  · cases ignoreCase with
    | false => simp at folded
    | true =>
      rcases Option.map_eq_some_iff.mp folded with ⟨entry, first, same⟩
      exact ⟨entry.1, same ▸ List.mem_of_find?_eq_some first⟩

theorem Bindings.OnlyValues.find?_eq {bindings : Bindings} (onlyValues : bindings.OnlyValues)
    {ignoreCase : Bool} {name : String} {binding : Binding Formula}
    (found : bindings.find? ignoreCase name = some binding) : ∃ v, binding = .value v := by
  rcases exists_mem_of_find? found with ⟨key, member⟩
  exact onlyValues (key, binding) member

namespace Context

/-- A context without handlers and without other formulas. -/
structure Plain (context : Context) : Prop where
  identifierHandlers : context.identifierHandlers = []
  functionHandlers : context.functionHandlers = []
  onlyValues : context.bindings.OnlyValues

/-- What an identifier comes to where nothing but values and the clock can be asked. -/
def reading (context : Context) (name : String) : Attempt Value :=
  match context.find? name with
  | some (.value v) => .ok v
  | _ =>
    match context.clockReading? name with
    | some v => .ok v
    | none => .error (.parameterNotDefined name)

end Context

section Plain

variable {enter : Context → Formula → Walk Value} {context : Context}

theorem evaluateIdentifier_plain (plain : context.Plain) (name : String) (world : World) :
    evaluateIdentifier enter context name world =
      Walk.conclude (context.reading name) world := by
  rw [evaluateIdentifier, Context.reading]
  cases found : context.find? name with
  | none =>
    cases context.clockReading? name with
    | some v => rfl
    | none =>
      simp only [plain.identifierHandlers]
      rfl
  | some binding =>
    rcases plain.onlyValues.find?_eq found with ⟨v, rfl⟩
    rfl

/-- A call of a built-in function with a number of operands. -/
def callOperands (context : Context) (id : NodeId) (name : String) (count : Nat)
    (operands : Fin count → Walk Value) : Walk Value := do
  let f ← Walk.ofAttempt (Function.resolve name context.options.ignoreCase)
  let mismatch : Walk Value := Walk.fail (f.arityError count)
  match f with
  | .math f =>
    match f.recipe? context.options.roundAwayFromZero count with
    | none => mismatch
    | some recipe => recipe.followPlain operands
  | .temporal f =>
    match f.recipe? count with
    | none => mismatch
    | some recipe => do
      let progress ← beginCall context id
      (recipe ⟨context.clock, context.options, progress⟩).follow operands
        (Workspace.read context.store id) (Workspace.write context.store id)

section Resolved

variable {id : NodeId} {name : String} {count : Nat} {operands : Fin count → Walk Value}

theorem callOperands_unresolved {e : EvalError}
    (resolved : Function.resolve name context.options.ignoreCase = .error e) :
    callOperands context id name count operands = Walk.fail e := by
  rw [callOperands, resolved]
  rfl

theorem callOperands_math {f : MathFunction}
    (resolved : Function.resolve name context.options.ignoreCase = .ok (.math f)) :
    callOperands context id name count operands =
      match f.recipe? context.options.roundAwayFromZero count with
      | none => Walk.fail ((Function.math f).arityError count)
      | some recipe => recipe.followPlain operands := by
  rw [callOperands, resolved]
  rfl

/-- A temporal function registers its call before anything else. -/
theorem callOperands_registered {f : TemporalFunction}
    (resolved : Function.resolve name context.options.ignoreCase = .ok (.temporal f)) :
    callOperands context id name count operands =
      match f.recipe? count with
      | none => Walk.fail ((Function.temporal f).arityError count)
      | some recipe =>
        beginCall context id >>= fun progress =>
          (recipe ⟨context.clock, context.options, progress⟩).follow operands
            (Workspace.read context.store id) (Workspace.write context.store id) := by
  rw [callOperands, resolved]
  rfl

/-- A temporal function is called in the world in which its call is registered. -/
theorem callOperands_temporal {f : TemporalFunction}
    (resolved : Function.resolve name context.options.ignoreCase = .ok (.temporal f))
    (world : World) :
    callOperands context id name count operands world =
      match f.recipe? count with
      | none => Walk.fail ((Function.temporal f).arityError count) world
      | some recipe =>
        let begun := (world.node context.store id).beginCall context.clock.step
          context.options.resetOnNewRun
        (recipe ⟨context.clock, context.options, begun.1⟩).follow operands
          (Workspace.read context.store id) (Workspace.write context.store id)
          (world.setNode context.store id begun.2) := by
  rw [callOperands, resolved]
  change (match f.recipe? count with | none => _ | some recipe => _ : Walk Value) world = _
  cases f.recipe? count <;> rfl

end Resolved

section Checked

variable {f : Function} {arguments : List Argument}

/-- A call that has passed the check and is handed on as one without memory finds its recipe. -/
theorem callMath_of_checkArity (checked : f.checkArity arguments.length = .ok ())
    (timeless : f.isTemporal = false) (options : Options) :
    ∃ g recipe, f = .math g ∧
      g.recipe? options.roundAwayFromZero arguments.length = some recipe ∧
      callMath options f arguments =
        recipe.followPlain fun position => (arguments.get position).value := by
  obtain ⟨g, recipe, rfl, accepted⟩ :=
    Function.exists_math_recipe checked timeless options.roundAwayFromZero
  refine ⟨g, recipe, rfl, accepted, ?_⟩
  simp only [callMath, accepted]

/-- A call that has passed the check and is handed on as one with memory finds its recipe. -/
theorem callTemporal_of_checkArity (checked : f.checkArity arguments.length = .ok ())
    (temporal : f.isTemporal = true) (context : Context) (id : NodeId) :
    ∃ g recipe, f = .temporal g ∧ g.recipe? arguments.length = some recipe ∧
      callTemporal context id f arguments =
        beginCall context id >>= fun progress =>
          (recipe ⟨context.clock, context.options, progress⟩).follow
            (fun position => (arguments.get position).value) (Workspace.read context.store id)
            (Workspace.write context.store id) := by
  obtain ⟨g, recipe, rfl, accepted⟩ := Function.exists_temporal_recipe checked temporal
  refine ⟨g, recipe, rfl, accepted, ?_⟩
  simp only [callTemporal, accepted]

end Checked

/-- A call that has passed the check finds the recipe of its function, and one that has not finds none.  So
nothing is left of the ways in which handing on a call could go wrong. -/
theorem callFunction_eq_callOperands {count : Nat} {arguments : List Argument}
    (length : arguments.length = count) (id : NodeId) (name : String) :
    callFunction context id name arguments =
      callOperands context id name count fun position =>
        (arguments.get (position.cast length.symm)).value := by
  subst length
  rw [callFunction, callOperands]
  apply bind_congr
  intro f
  cases checked : f.checkArity arguments.length with
  | error e =>
    obtain ⟨rfl, refused⟩ := f.eq_arityError_of_checkArity checked
    cases f with
    | math g =>
      dsimp only
      rw [g.recipe?_eq_none refused]
      rfl
    | temporal g =>
      dsimp only
      rw [g.recipe?_eq_none refused]
      rfl
  | ok _ =>
    cases temporal : f.isTemporal with
    | false =>
      obtain ⟨g, recipe, rfl, accepted, called⟩ := callMath_of_checkArity checked temporal context.options
      dsimp only
      rw [accepted]
      exact called
    | true =>
      obtain ⟨g, recipe, rfl, accepted, called⟩ := callTemporal_of_checkArity checked temporal context id
      dsimp only
      rw [accepted]
      exact called

theorem delay_eq_map (arguments : List Expr) :
    delay enter context arguments = arguments.map fun e => ⟨e, evaluate enter context e⟩ := by
  induction arguments with
  | nil => rfl
  | cons e rest ih => rw [delay, ih, List.map_cons]

/-- The operands of a call of an expression are the walks of its arguments. -/
theorem callFunction_delay (enter : Context → Formula → Walk Value) (context : Context)
    (id : NodeId) (name : String) (arguments : List Expr) :
    callFunction context id name (delay enter context arguments) =
      callOperands context id name arguments.length fun position =>
        evaluate enter context (arguments.get position) := by
  have length : (delay enter context arguments).length = arguments.length := by
    rw [delay_eq_map, List.length_map]
  have operands : (fun position : Fin arguments.length =>
      ((delay enter context arguments).get (position.cast length.symm)).value) =
      fun position => evaluate enter context (arguments.get position) := by
    funext position
    simp only [List.get_eq_getElem, Fin.val_cast, delay_eq_map, List.getElem_map]
  rw [callFunction_eq_callOperands length, operands]

theorem evaluateCall_plain (plain : context.Plain) (id : NodeId) (name : String)
    (arguments : List Argument) (world : World) :
    evaluateCall context id name arguments world =
      match callFunction context id name arguments world with
      | .ok v after =>
        .ok v (after.setNode context.store id
          { after.node context.store id with lastValue := some v })
      | .error reason after => .error reason after := by
  rw [evaluateCall, plain.functionHandlers]
  change (callFunction context id name arguments >>= fun v => _) world = _
  cases outcome : callFunction context id name arguments world with
  | ok v after => exact Walk.bind_ok outcome _
  | error reason after => exact Walk.bind_error outcome _

/-- What a call without a handler comes to, and what it leaves behind. -/
theorem evaluate_call_plain (enter : Context → Formula → Walk Value) (plain : context.Plain)
    (id : NodeId) (name : String) (arguments : List Expr) (world : World) :
    evaluate enter context (.call id name arguments) world =
      match callOperands context id name arguments.length
        (fun position => evaluate enter context (arguments.get position)) world with
      | .ok v after =>
        .ok v (after.setNode context.store id
          { after.node context.store id with lastValue := some v })
      | .error reason after => .error reason after := by
  rw [evaluate, evaluateCall_plain plain, callFunction_delay]

end Plain

end ClockedFormula
