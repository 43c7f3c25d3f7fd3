import ClockedFormula.Proofs.Evaluation.Plain
import ClockedFormula.Proofs.Function.Kind

namespace ClockedFormula

open Recipe Walk

/-!
# Functions of one argument

Three functions take a single argument, and their value is that of the argument unless their memory holds
another one in its place: what was frozen before, or what the host has fed in.  In that case the argument is
not evaluated.  Otherwise the memory is left as the evaluation of the argument leaves it, and only then the
value is put down.
-/

/-! ## Writing to one place again -/

theorem Table.write_write {κ ν : Type} [DecidableEq κ] (key : κ) (first second : ν)
    (entries : List (κ × ν)) : write key second (write key first entries) = write key second entries := by
  induction entries with
  | nil => simp [write]
  | cons entry rest ih =>
    by_cases same : entry.1 = key
    · simp [write, same]
    · simp [write, same, ih]

namespace World

variable (world : World) (store : StoreId) (id : NodeId)

/-- A store that changes twice changes once, by both changes. -/
theorem modifyStore_modifyStore (first second : Store → Store) :
    (world.modifyStore store first).modifyStore store second =
      world.modifyStore store fun contents => second (first contents) := by
  have changed := store_modifyStore_self world store first
  unfold modifyStore setStore at changed ⊢
  rw [changed]
  simp only [Table.insert, Table.write_write]

theorem setNode_setWorkspace (first second : NodeState) :
    (world.setWorkspace store id ⟨first, world.random store⟩).setNode store id second =
      world.setNode store id second := by
  unfold setNode setWorkspace modifyMemory
  rw [modifyStore_modifyStore]
  unfold modifyStore random
  simp only [NodeMemory.setState, Table.insert, Table.write_write]

theorem setNode_setNode (first second : NodeState) :
    (world.setNode store id first).setNode store id second = world.setNode store id second :=
  setNode_setWorkspace world store id first second

end World

/-! ## What is held and what is put down -/

namespace TemporalFunction

/-- What a memory holds in place of the argument of a call. -/
def held? : TemporalFunction → NodeState → Option Value
  | init, state =>
    match state.temporal with
    | .frozen v => some v
    | _ => none
  | externalUpdate, state => state.injected
  | _, _ => none

/-- The memory in which a call has put down its value. -/
def putDown (v : Value) : TemporalFunction → NodeState → NodeState
  | init, state => { state with temporal := .frozen v, lastValue := some v }
  | value, state | externalUpdate, state => { state with external := some v, lastValue := some v }
  | _, state => { state with lastValue := some v }

section Following

variable {count : Nat} {operands : Fin count → Walk Value} {store : StoreId} {id : NodeId}

/-- How a walk ends whose value is noted by a call. -/
def noted (store : StoreId) (id : NodeId) :
    EStateM.Result Interruption World Value → EStateM.Result Interruption World Value
  | .ok v after => .ok v (after.setNode store id { after.node store id with lastValue := some v })
  | .error reason after => .error reason after

/-- A call that changes its memory last notes its value there too. -/
theorem noted_remember (change : NodeState → NodeState) (v : Value) (world : World) :
    noted store id (((remember change).bind fun _ => answer v).follow operands
        (Workspace.read store id) (Workspace.write store id) world) =
      .ok v (world.setNode store id { change (world.node store id) with lastValue := some v }) := by
  have followed : ((remember change).bind fun _ => answer v).follow operands
      (Workspace.read store id) (Workspace.write store id) world =
        .ok v (world.setWorkspace store id ⟨change (world.node store id), world.random store⟩) := rfl
  rw [followed, noted, World.node_setWorkspace_self, World.setNode_setWorkspace]

theorem noted_operand (position : Fin count) (next : Value → Recipe Workspace count Value)
    (world : World) :
    noted store id (((operand position).bind next).follow operands (Workspace.read store id)
        (Workspace.write store id) world) =
      match operands position world with
      | .ok v after => noted store id ((next v).follow operands (Workspace.read store id)
          (Workspace.write store id) after)
      | .error reason after => .error reason after := by
  change noted store id ((operands position >>= fun v => _) world) = _
  cases outcome : operands position world with
  | ok v after => rw [bind_ok outcome]; rfl
  | error reason after => rw [bind_error outcome]; rfl

/-- A function of one argument gives what its memory holds, or else asks for the argument. -/
theorem noted_single {f : TemporalFunction} {recipe : Setting → Recipe Workspace 1 Value}
    (accepted : f.recipe? 1 = some recipe) (setting : Setting) (operands : Fin 1 → Walk Value)
    (world : World) :
    noted store id ((recipe setting).follow operands (Workspace.read store id)
        (Workspace.write store id) world) =
      match f.held? (world.node store id) with
      | some v => .ok v (world.setNode store id (f.putDown v (world.node store id)))
      | none =>
        match operands 0 world with
        | .ok v after => .ok v (after.setNode store id (f.putDown v (after.node store id)))
        | .error reason after => .error reason after := by
  have asks : ∀ change : Value → NodeState → NodeState,
      noted store id (((operand 0).bind fun v => (remember (change v)).bind fun _ => answer v).follow
          operands (Workspace.read store id) (Workspace.write store id) world) =
        match operands 0 world with
        | .ok v after =>
          .ok v (after.setNode store id { change v (after.node store id) with lastValue := some v })
        | .error reason after => .error reason after := by
    intro change
    rw [noted_operand]
    simp only [noted_remember]
  cases f with
  | value =>
    cases accepted
    exact asks fun v node => { node with external := some v }
  | init =>
    cases accepted
    have thawed := asks fun v node => { node with temporal := .frozen v }
    change noted store id (Recipe.follow operands _ _ (match (world.node store id).temporal with
      | .frozen v => answer v
      | _ => (operand 0).bind fun v =>
        (remember fun node => { node with temporal := .frozen v }).bind fun _ => answer v) world) = _
    cases temporal : (world.node store id).temporal with
    | frozen v =>
      simp only [held?, temporal, putDown]
      rw [← temporal]
      rfl
    | empty | stages levels =>
      simp only [held?, temporal]
      exact thawed
  | externalUpdate =>
    cases accepted
    change noted store id (Recipe.follow operands _ _ (match (world.node store id).injected with
      | some v => publish v
      | none => (operand 0).bind publish) world) = _
    cases injected : (world.node store id).injected with
    | some v =>
      simp only [held?, injected]
      exact noted_remember (fun node => { node with external := some v }) v world
    | none =>
      simp only [held?, injected]
      exact asks fun v node => { node with external := some v }
  | ramp | step | pulse | normal | smooth1 | smooth3 | smoothN => cases accepted

/-- On its way it passes what is passed on the way to the argument, if it asks for the argument. -/
theorem trail_single {μ : Type} {f : TemporalFunction} {recipe : Setting → Recipe Workspace 1 Value}
    (accepted : f.recipe? 1 = some recipe) (setting : Setting) (operands : Fin 1 → Walk Value)
    (inner : Fin 1 → World → List μ) (world : World) :
    (recipe setting).trail operands inner (Workspace.read store id) (Workspace.write store id) world =
      match f.held? (world.node store id) with
      | some _ => []
      | none => inner 0 world := by
  have asks : ∀ change : Value → NodeState → NodeState,
      ((operand 0).bind fun v => (remember (change v)).bind fun _ => answer v).trail operands inner
        (Workspace.read store id) (Workspace.write store id) world = inner 0 world := by
    intro change
    simp only [operand, Recipe.bind, trail]
    cases operands 0 world <;> exact List.append_nil _
  cases f with
  | value =>
    cases accepted
    exact asks fun v node => { node with external := some v }
  | init =>
    cases accepted
    change (match (world.node store id).temporal with
      | .frozen v => answer v
      | _ => (operand 0).bind fun v =>
        (remember fun node => { node with temporal := .frozen v }).bind fun _ => answer v).trail
          operands inner _ _ world = _
    cases temporal : (world.node store id).temporal with
    | frozen v =>
      simp only [held?, temporal]
      rfl
    | empty | stages levels =>
      simp only [held?, temporal]
      exact asks fun v node => { node with temporal := .frozen v }
  | externalUpdate =>
    cases accepted
    change (match (world.node store id).injected with
      | some v => publish v
      | none => (operand 0).bind publish).trail operands inner _ _ world = _
    cases injected : (world.node store id).injected with
    | some v =>
      simp only [held?, injected]
      rfl
    | none =>
      simp only [held?, injected]
      exact asks fun v node => { node with external := some v }
  | ramp | step | pulse | normal | smooth1 | smooth3 | smoothN => cases accepted

end Following

section Calls

variable {context : Context} {id : NodeId} {name : String}

/-- A call that no handler can claim is a call of the built-in function, which then notes its value. -/
theorem evaluateCall_unhandled (unhandled : context.functionHandlers = []) (arguments : List Argument)
    (world : World) :
    evaluateCall context id name arguments world =
      noted context.store id (callFunction context id name arguments world) := by
  rw [evaluateCall, unhandled]
  change (callFunction context id name arguments >>= fun v => _) world = _
  cases outcome : callFunction context id name arguments world with
  | ok v after => exact bind_ok outcome _
  | error reason after => exact bind_error outcome _

/-- A call with one argument comes to what its memory holds as soon as it is registered, and otherwise to the
value of its argument; it puts down what it comes to. -/
theorem evaluateCall_single (unhandled : context.functionHandlers = []) {f : TemporalFunction}
    (resolved : Function.resolve name context.options.ignoreCase = .ok (.temporal f))
    {recipe : Setting → Recipe Workspace 1 Value} (accepted : f.recipe? 1 = some recipe)
    (argument : Argument) (world : World) :
    evaluateCall context id name [argument] world =
      let begun := ((world.node context.store id).beginCall context.clock.step
        context.options.resetOnNewRun).2
      let registered := world.setNode context.store id begun
      match f.held? begun with
      | some v => .ok v (registered.setNode context.store id (f.putDown v begun))
      | none =>
        match argument.value registered with
        | .ok v after =>
          .ok v (after.setNode context.store id (f.putDown v (after.node context.store id)))
        | .error reason after => .error reason after := by
  have one : [argument].length = 1 := rfl
  rw [evaluateCall_unhandled unhandled, callFunction_eq_callOperands one, callOperands_temporal resolved]
  simp only [accepted, noted_single accepted, World.node_setNode_self]
  rfl

end Calls

end TemporalFunction

end ClockedFormula
