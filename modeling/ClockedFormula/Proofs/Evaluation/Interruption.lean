import ClockedFormula.Proofs.Evaluation.Confinement
import ClockedFormula.Proofs.Evaluation.Shape
import ClockedFormula.Proofs.Smoothing.Retry

namespace ClockedFormula

open Walk

/-!
# Calls that are interrupted

A function with memory reads its memory first, then evaluates its arguments, and writes what it remembers
when nothing can fail any more.  So an interruption, wherever it comes from, finds the memory of the call as
it was when the call was registered: the step is noted, and a new run has begun if there is one.  It may also
come before that, from a handler of the call or because of the number of the arguments, and then not even the
step is noted.

That the memory is still the same when the interruption comes depends on the arguments too.  They may
change the memories of other calls, and handlers may evaluate them as often as they like, but the call does
not stand in its own arguments.
-/

namespace TemporalFunction

open Recipe Workspace

variable {count : Nat} {kept : NodeState → Prop} {workspace : Workspace} {f : TemporalFunction}
  {recipe : Setting → Recipe Workspace count Value}

/-- Whatever holds of the memory of a call at first holds wherever the function waits or fails: it changes
its memory as the last thing. -/
theorem recipe_meets_kept (accepted : f.recipe? count = some recipe) (setting : Setting)
    (holds : Remembers kept workspace) :
    (recipe setting).Meets (Remembers kept) (fun _ _ => True) workspace := by
  cases kind accepted with
  | publishes position => exact ⟨holds, fun _ _ _ => trivial⟩
  | publishesInjected position =>
    simp only [Meets]
    cases workspace.node.injected with
    | some v => exact trivial
    | none => exact ⟨holds, fun _ _ _ => trivial⟩
  | freezes position =>
    simp only [freezeOperand, Meets]
    cases workspace.node.temporal with
    | frozen v => exact trivial
    | empty => exact ⟨holds, fun _ _ _ => trivial⟩
    | stages levels => exact ⟨holds, fun _ _ _ => trivial⟩
  | timed f steady next same stateless =>
    refine Meets.bind (Meets.ofAttempt holds) fun x _ known => ?_
    exact (Meets.of_stateless (stateless setting x) known.1).mono fun _ _ _ => trivial
  | draws mean deviation next stateless =>
    refine (Meets.operandDouble mean holds).bind fun mean _ still => ?_
    refine (Meets.operandDouble deviation still).bind fun deviation _ again => ?_
    refine (drawNormal_meets mean deviation again).bind fun sample _ drawn => ?_
    exact (Meets.of_stateless (stateless sample) drawn).mono fun _ _ _ => trivial
  | smooths f order input delay initial smoothing =>
    refine (smoothing.order_meets holds).bind fun number _ known => ?_
    exact (smooth_meets setting number input delay initial known.1).mono fun _ _ _ => trivial

end TemporalFunction

/-! ## What a call does not touch -/

section Spared

variable {enter : Context → Formula → Walk Value} {context : Context} {touches : StoreId → NodeId → Prop}

theorem World.ChangesOnly.node {first last : World} (changes : World.ChangesOnly touches first last)
    {store : StoreId} {id : NodeId} (spared : ¬ touches store id) :
    last.node store id = first.node store id := by
  rw [World.node, World.node, NodeMemory.state, NodeMemory.state, changes.entries store id spared]

/-- The memories that the evaluation of expressions can change: those of the calls that stand in them. -/
def Context.TouchesIn (context : Context) (es : List Expr) (store : StoreId) (id : NodeId) : Prop :=
  store = context.store ∧ ∃ inside ∈ Expr.applicationsOfAll es, inside.id = id

theorem World.ChangesOnly.closed (context : Context) (es : List Expr) :
    Tracing.Closed context.root (context.TouchesIn es)
      (Keeps fun first _ _ last => World.ChangesOnly (context.TouchesIn es) first last) :=
  (World.ChangesOnly.handling context.root (context.TouchesIn es)).closed
    fun _ _ workspace world own => World.ChangesOnly.setWorkspace own workspace world

/-- An expression that opens no formula changes only the memories of its own calls, whatever the handlers
do. -/
theorem evaluate_changesOnly (onlyValues : context.bindings.OnlyValues) {es : List Expr} {e : Expr}
    (member : e ∈ es) :
    Keeps (fun first _ _ last => World.ChangesOnly (context.TouchesIn es) first last)
      (evaluate enter context e) (events enter (fun _ _ _ => []) context e) := by
  refine (World.ChangesOnly.closed context es).evaluate rfl ?_ e ?_
  · intro name f found
    obtain ⟨v, isValue⟩ := onlyValues.find?_eq found
    cases isValue
  · intro inside within
    exact ⟨rfl, inside, Expr.mem_applicationsOfAll.mpr ⟨e, member, within⟩, rfl⟩

variable {store : StoreId} {id : NodeId} {es : List Expr}

theorem evaluate_spares (onlyValues : context.bindings.OnlyValues) (spared : ¬ context.TouchesIn es store id)
    {e : Expr} (member : e ∈ es) : (evaluate enter context e).Spares store id :=
  fun world => (evaluate_changesOnly onlyValues member world).node spared

/-- Neither do handlers that are asked about a call, even if they evaluate its arguments. -/
theorem consult_spares (onlyValues : context.bindings.OnlyValues) (spared : ¬ context.TouchesIn es store id)
    (handlers : List Handler) (name : String) :
    (consult context handlers name (delay enter context es)).Spares store id := by
  have closed := World.ChangesOnly.closed context es
  have known : Tracing.OfArguments (Keeps _) (delay enter context es) _ :=
    Tracing.Closed.ofArguments fun e member => evaluate_changesOnly onlyValues member
  intro world
  exact (closed.consults context handlers name (delay enter context es) _ rfl known world).node spared

end Spared

/-! ## Interrupted calls -/

section Interrupted

variable {context : Context} {id : NodeId} {name : String} {count : Nat}
  {operands : Fin count → Walk Value} {f : TemporalFunction}
  {recipe : Setting → Recipe Workspace count Value} {world after : World} {reason : Interruption}

/-- An interruption of a function with memory leaves the memory of the call as it was registered. -/
theorem callOperands_node_of_error
    (resolved : Function.resolve name context.options.ignoreCase = .ok (.temporal f))
    (accepted : f.recipe? count = some recipe)
    (spares : ∀ position, (operands position).Spares context.store id)
    (stopped : callOperands context id name count operands world = .error reason after) :
    after.node context.store id =
      ((world.node context.store id).beginCall context.clock.step context.options.resetOnNewRun).2 := by
  rw [callOperands_temporal resolved, accepted] at stopped
  generalize registered : (world.node context.store id).beginCall context.clock.step
    context.options.resetOnNewRun = begun at stopped ⊢
  have here : ((world.setNode context.store id begun.2).workspace context.store id).Remembers
      (· = begun.2) :=
    World.node_setNode_self world context.store id begun.2
  have meets := TemporalFunction.recipe_meets_kept accepted ⟨context.clock, context.options, begun.1⟩ here
  exact (meets.follow_workspace fun position world holds => (spares position world).trans holds).error
    stopped

end Interrupted

section Applications

variable {enter : Context → Formula → Walk Value} {context : Context} {application : Application}
  {f : TemporalFunction} {world after : World} {reason : Interruption}

/-- Whether a call of a function with memory is registered: no handler claims it or fails, and the function
takes so many arguments. -/
def Application.Registers (application : Application) (enter : Context → Formula → Walk Value)
    (context : Context) (f : TemporalFunction) (world : World) : Prop :=
  (consult context context.functionHandlers (context.foldName application.name)
      (delay enter context application.arguments)).ending world = .ok none ∧
    (f.recipe? application.arguments.length).isSome = true

/-- Whether a new run begins when the call is registered. -/
def Application.StartsRun (application : Application) (enter : Context → Formula → Walk Value)
    (context : Context) (f : TemporalFunction) (world : World) : Prop :=
  application.Registers enter context f world ∧ context.options.resetOnNewRun = true ∧
    MemoryOperation.goesBack context.clock.step
      (world.node context.store application.id).lastStep = true

/-- An interrupted call leaves its memory as it was when it was registered, and if it was not, as it was
before. -/
theorem interrupted_node (onlyValues : context.bindings.OnlyValues)
    (apart : ∀ inside ∈ Expr.applicationsOfAll application.arguments, inside.id ≠ application.id)
    (resolved : Function.resolve application.name context.options.ignoreCase = .ok (.temporal f))
    (stopped : evaluate enter context application.expression world = .error reason after) :
    (application.Registers enter context f world ∧
        after.node context.store application.id =
          ((world.node context.store application.id).beginCall context.clock.step
            context.options.resetOnNewRun).2) ∨
      (¬ application.Registers enter context f world ∧
        after.node context.store application.id = world.node context.store application.id) := by
  have spared : ¬ context.TouchesIn application.arguments context.store application.id := by
    rintro ⟨_, inside, member, same⟩
    exact apart inside member same
  have consulted : (consult context context.functionHandlers (context.foldName application.name)
      (delay enter context application.arguments)).Spares context.store application.id :=
    consult_spares onlyValues spared _ _
  rw [Application.expression, evaluate, evaluateCall] at stopped
  rcases bind_eq_error stopped with unanswered | ⟨claimed, asked, answered, stopped⟩
  · refine .inr ⟨fun registers => ?_, consulted.of_error unanswered⟩
    have unclaimed := registers.1
    rw [ending, unanswered] at unclaimed
    cases unclaimed
  · cases claimed with
    | some v => cases stopped
    | none =>
      have before := consulted.of_ok answered
      rcases bind_eq_error stopped with interrupted | ⟨v, last, _, noted⟩
      · rw [callFunction_delay] at interrupted
        cases accepted : f.recipe? application.arguments.length with
        | none =>
          rw [callOperands_registered resolved, accepted] at interrupted
          cases interrupted
          refine .inr ⟨fun registers => ?_, before⟩
          have takes := registers.2
          rw [accepted] at takes
          cases takes
        | some recipe =>
          have operandsSpare : ∀ position, (evaluate enter context
              (application.arguments.get position)).Spares context.store application.id :=
            fun position => evaluate_spares onlyValues spared (List.get_mem _ position)
          have left := callOperands_node_of_error resolved accepted operandsSpare interrupted
          rw [before] at left
          exact .inl ⟨⟨ending_ok answered, Option.isSome_of_eq_some accepted⟩, left⟩
      · cases noted

/-- A call of a function with memory that is interrupted, in whatever way, writes nothing but the step.  The
last result and what is fed in stay as they are.  What is remembered and what is shown stay too, unless a new
run begins, and then nothing is remembered or shown. -/
theorem interrupted_call_writes_nothing_but_step (onlyValues : context.bindings.OnlyValues)
    (apart : ∀ inside ∈ Expr.applicationsOfAll application.arguments, inside.id ≠ application.id)
    (resolved : Function.resolve application.name context.options.ignoreCase = .ok (.temporal f))
    (stopped : evaluate enter context application.expression world = .error reason after) :
    let before := world.node context.store application.id
    let left := after.node context.store application.id
    left.lastValue = before.lastValue ∧ left.injected = before.injected ∧
      (application.StartsRun enter context f world →
        left.temporal = .empty ∧ left.external = none) ∧
      (¬ application.StartsRun enter context f world →
        left.temporal = before.temporal ∧ left.external = before.external) ∧
      (application.Registers enter context f world →
        left.lastStep = context.clock.step.or before.lastStep) ∧
      (¬ application.Registers enter context f world → left = before) := by
  intro before left
  rcases interrupted_node onlyValues apart resolved stopped with ⟨registers, same⟩ | ⟨unregistered, same⟩
  · have whole : left = (before.beginCall context.clock.step context.options.resetOnNewRun).2 := same
    rw [whole, NodeState.beginCall_snd]
    by_cases starts : application.StartsRun enter context f world
    · have begins : (context.options.resetOnNewRun &&
          MemoryOperation.goesBack context.clock.step before.lastStep) = true := by
        rw [starts.2.1, starts.2.2]
        rfl
      rw [if_pos begins]
      exact ⟨rfl, rfl, fun _ => ⟨rfl, rfl⟩, fun still => absurd starts still, fun _ => rfl,
        fun unregistered => absurd registers unregistered⟩
    · have goesOn : ¬ (context.options.resetOnNewRun &&
          MemoryOperation.goesBack context.clock.step before.lastStep) = true := by
        rw [Bool.and_eq_true]
        exact fun begins => starts ⟨registers, begins⟩
      rw [if_neg goesOn]
      exact ⟨rfl, rfl, fun begins => absurd begins starts, fun _ => ⟨rfl, rfl⟩, fun _ => rfl,
        fun unregistered => absurd registers unregistered⟩
  · have whole : left = before := same
    rw [whole]
    exact ⟨rfl, rfl, fun starts => absurd starts.1 unregistered, fun _ => ⟨rfl, rfl⟩,
      fun registers => absurd registers unregistered, fun _ => rfl⟩

/-- A handler that fails, whatever it is asked about. -/
def refusing : Handler := ⟨"refusing", fun _ => .fail (.handler "refused")⟩

/-- The context of the smoothing that covers half of its way, at a step at which its input is refused. -/
def refusedContext (step : UInt64) : Context :=
  { Context.ofFormula (Smoothing.halfwayFormula.on (Smoothing.unboundOccasion step))
      (Smoothing.unboundOccasion step).clock with
    identifierHandlers := [refusing] }

/-- The smoothing has one stage.  It is gone after a refusal at an earlier step, since that is a new run, and it
is still where it was after one at a later step. -/
theorem refused_halfway_writes_nothing_but_step :
    let call := fun step =>
      evaluate Formula.entering (refusedContext step) Smoothing.halfway.application.expression
    let left := fun step => ((call step).leaves Smoothing.levelWorld).node ⟨0⟩ ⟨0⟩
    ((left 2).temporal = .empty ∧ (left 2).lastStep = some 2) ∧
      (left 6).temporal = .stages [.ofNat 0] ∧ (left 6).lastStep = some 6 := by
  intro call left
  have onlyValues : ∀ step, (refusedContext step).bindings.OnlyValues :=
    Smoothing.unboundOccasion_onlyValues
  have apart : ∀ inside ∈ Expr.applicationsOfAll Smoothing.halfway.application.arguments,
      inside.id ≠ Smoothing.halfway.application.id := nofun
  have resolved : ∀ step, Function.resolve "smth1" (refusedContext step).options.ignoreCase =
      .ok (.temporal .smooth1) := fun _ => rfl
  have stopped : ∀ step, call step Smoothing.levelWorld = .error (.failed (.handler "refused"))
      ((call step).leaves Smoothing.levelWorld) := fun _ => rfl
  have registers : ∀ step, Smoothing.halfway.application.Registers Formula.entering
      (refusedContext step) .smooth1 Smoothing.levelWorld := fun _ => ⟨rfl, rfl⟩
  obtain ⟨-, -, begins, -, noted, -⟩ :=
    interrupted_call_writes_nothing_but_step (onlyValues 2) apart (resolved 2) (stopped 2)
  obtain ⟨-, -, -, still, later, -⟩ :=
    interrupted_call_writes_nothing_but_step (onlyValues 6) apart (resolved 6) (stopped 6)
  refine ⟨⟨?_, ?_⟩, ?_, ?_⟩
  · exact (begins ⟨registers 2, rfl, by decide⟩).1
  · exact noted (registers 2)
  · exact (still fun starts => absurd starts.2.2 (by decide +kernel)).1
  · exact later (registers 6)

end Applications

end ClockedFormula
