import ClockedFormula.Proofs.Smoothing.Reference

namespace ClockedFormula

open Walk

namespace Smoothing

/-!
# Calls that are made again

A call is registered at the clock before its operands are evaluated.  If one of them fails, the stages
stay as they are, but the step counts as seen.  A call that is made again at this step finds a clock
that has not moved, and its stages stay once more: the move of this step is lost.

This module says exactly when the loss shows.  The context is arbitrary, so an operand may fail for any
reason, and operands may come to other values, in another world, when they are evaluated again.
-/

/-- A node that is called in some context, by operands that leave its memory alone. -/
structure Call (node : Node) where
  enter : Context → Formula → Walk Value
  context : Context
  resolved : Function.resolve node.application.name context.options.ignoreCase =
    .ok (.temporal node.function)
  spares : ∀ e ∈ node.application.arguments,
    (evaluate enter context e).Spares context.store node.application.id

namespace Call

variable {node : Node}

/-- The call of a node of a consistent expression where there are no handlers. -/
def ofPlain {node : Node} (enter : Context → Formula → Walk Value) {context : Context}
    (plain : context.Plain) (consistent : node.application.expression.Consistent)
    (resolved : Function.resolve node.application.name context.options.ignoreCase =
      .ok (.temporal node.function)) : Call node where
  enter := enter
  context := context
  resolved := resolved
  spares := fun _ member => argument_spares enter plain consistent member

/-- What the node remembers in a world. -/
def memory (call : Call node) (world : World) : NodeState :=
  world.node call.context.store node.application.id

/-- The walk of the call. -/
def walk (call : Call node) : Walk Value :=
  callFunction call.context node.application.id node.application.name
    (delay call.enter call.context node.application.arguments)

/-- Register the call and ask for all its operands. -/
def supplying (call : Call node) : Walk Supply := node.supplying call.enter call.context

/-- The node after the call. -/
def remains (call : Call node) (world : World) : NodeState := call.memory (call.walk.leaves world)

theorem walk_eq (call : Call node) :
    call.walk = callOperands call.context node.application.id node.application.name
      node.application.arguments.length fun position =>
        evaluate call.enter call.context (node.application.arguments.get position) :=
  callFunction_delay _ _ _ _ _

theorem spares_position (call : Call node) (position : Fin node.application.arguments.length) :
    (evaluate call.enter call.context (node.application.arguments.get position)).Spares
      call.context.store node.application.id :=
  call.spares _ (List.get_mem _ position)

/-- A call that is supplied comes to the last of its stages, and remembers them. -/
theorem ending_eq (call : Call node) {world last : World} {supplied : Supply}
    (done : call.supplying world = .ok supplied last) :
    call.walk.ending world = .ok (.float
        ((supplied.stagesAfter call.context (call.memory world)).getLastD supplied.input)) ∧
      (call.remains world).temporal =
        .stages (supplied.stagesAfter call.context (call.memory world)) := by
  rcases node.smooths.callOperands_ok call.resolved call.spares_position done with
    ⟨stages, after, staged, called, remembered⟩
  rw [← call.walk_eq] at called
  rw [remains, memory, memory, leaves_ok called, ending_ok called, remembered, staged]
  exact ⟨rfl, rfl⟩

/-- A call that fails leaves what it has found when it was registered. -/
theorem remains_of_error (call : Call node) {world after : World} {reason : Interruption}
    (stopped : call.walk world = .error reason after) :
    call.memory after = (call.context.registers (call.memory world)).2 := by
  rw [call.walk_eq] at stopped
  exact node.smooths.callOperands_error call.resolved call.spares_position stopped

end Call

/-- Whether the stages that a node remembers move with the operands of a call. -/
def Moves (supplied : Supply) (deltaTime : Double) (temporal : Temporal) : Prop :=
  ∃ stages, temporal = .stages stages ∧ stages.length = supplied.order ∧
    advance (share deltaTime supplied.delay supplied.order) supplied.input stages ≠ stages

theorem stages_eq_iff_not_moves (supplied : Supply) (deltaTime : Double) (temporal : Temporal) :
    supplied.stages deltaTime false temporal = supplied.stages deltaTime true temporal ↔
      ¬ Moves supplied deltaTime temporal := by
  constructor
  · rintro same ⟨stages, rfl, sameOrder, moves⟩
    simp only [Supply.stages, if_pos sameOrder, Bool.false_eq_true, if_false, if_true] at same
    exact moves same.symm
  · intro still
    cases temporal with
    | empty => rfl
    | frozen v => rfl
    | stages stages =>
      by_cases sameOrder : stages.length = supplied.order
      · simp only [Supply.stages, if_pos sameOrder, Bool.false_eq_true, if_false, if_true]
        by_cases stays :
            advance (share deltaTime supplied.delay supplied.order) supplied.input stages = stages
        · exact stays.symm
        · exact absurd ⟨stages, rfl, sameOrder, stays⟩ still
      · simp only [Supply.stages, if_neg sameOrder]

/-- A call fails at a new step of the clock and is made again at this step.  Both its result and the
stages it leaves are those of a node that has not failed, unless the stages move with its operands. -/
theorem retry_eq_iff_not_moves {node : Node} (failed retried : Call node) {earlier now : UInt64}
    (failedAt : failed.context.clock.step = some now)
    (retriedAt : retried.context.clock.step = some now)
    {world after spoiled unspoiled : World} {reason : Interruption}
    (called : (failed.memory world).lastStep = some earlier) (advanced : earlier < now)
    (stopped : failed.walk world = .error reason after)
    (afterFailure : retried.memory spoiled = failed.memory after)
    (withoutFailure : retried.memory unspoiled = failed.memory world)
    {supplied : Supply} {last other : World}
    (done : retried.supplying spoiled = .ok supplied last)
    (same : retried.supplying unspoiled = .ok supplied other) :
    (retried.walk.ending spoiled = retried.walk.ending unspoiled ∧
        (retried.remains spoiled).temporal = (retried.remains unspoiled).temporal) ↔
      ¬ Moves supplied retried.context.deltaTime (failed.memory world).temporal := by
  have registered := failed.remains_of_error stopped
  rw [Context.registers, failedAt, NodeState.beginCall_advanced called advanced] at registered
  have lost : supplied.stagesAfter retried.context (retried.memory spoiled) =
      supplied.stages retried.context.deltaTime false (failed.memory world).temporal := by
    rw [afterFailure, registered, Supply.stagesAfter, Context.registers, retriedAt,
      NodeState.beginCall_repeated rfl]
    rfl
  have moved : supplied.stagesAfter retried.context (retried.memory unspoiled) =
      supplied.stages retried.context.deltaTime true (failed.memory world).temporal := by
    rw [withoutFailure, Supply.stagesAfter, Context.registers, retriedAt,
      NodeState.beginCall_advanced called advanced]
    rfl
  rcases retried.ending_eq done with ⟨endedSpoiled, leftSpoiled⟩
  rcases retried.ending_eq same with ⟨endedUnspoiled, leftUnspoiled⟩
  rw [endedSpoiled, endedUnspoiled, leftSpoiled, leftUnspoiled, lost, moved,
    ← stages_eq_iff_not_moves]
  constructor
  · rintro ⟨_, agree⟩
    exact Temporal.stages.inj agree
  · intro agree
    rw [agree]
    exact ⟨rfl, rfl⟩

/-! ## A move that is lost -/

/-- The call of the smoothing that covers half of its way, on an occasion. -/
def halfwayCall (occasion : Occasion) (onlyValues : occasion.bindings.OnlyValues) : Call halfway :=
  have plain : (halfwayFormula.on occasion).Plain := .of_hasHandlers rfl onlyValues
  .ofPlain Formula.entering (plain.context occasion.clock) halfwayFormula_consistent rfl

/-- An occasion on which the parameter has no value. -/
def unboundOccasion (step : UInt64) : Occasion := ⟨[], ⟨[]⟩, ⟨none, some step, none⟩⟩

theorem unboundOccasion_onlyValues (step : UInt64) :
    (unboundOccasion step).bindings.OnlyValues := by
  intro entry member
  cases member

/-- The world in which the smoothing is level at zero. -/
def levelWorld : World := (halfwayFormula.evaluateOn (halfwayOccasion 4 0) World.empty).2

theorem halfway_retry_loses_move :
    let failed := halfwayCall (unboundOccasion 6) (unboundOccasion_onlyValues 6)
    let retried := halfwayCall (halfwayOccasion 6 8) (halfwayOccasion_onlyValues 6 8)
    let spoiled := failed.walk.leaves levelWorld
    ¬ (retried.walk.ending spoiled = retried.walk.ending levelWorld ∧
      (retried.remains spoiled).temporal = (retried.remains levelWorld).temporal) := by
  intro failed retried spoiled agree
  have called : (failed.memory levelWorld).lastStep = some 4 := rfl
  have stopped : failed.walk levelWorld = .error (.failed (.parameterNotDefined "x")) spoiled := rfl
  have done : retried.supplying spoiled = .ok ⟨1, .ofNat 8, .ofNat 2, none⟩ _ := rfl
  have same : retried.supplying levelWorld = .ok ⟨1, .ofNat 8, .ofNat 2, none⟩ _ := rfl
  have still := (retry_eq_iff_not_moves failed retried rfl rfl called (by decide) stopped rfl rfl
    done same).mp agree
  exact still ⟨[.ofNat 0], rfl, rfl, by decide +kernel⟩

end Smoothing

end ClockedFormula
