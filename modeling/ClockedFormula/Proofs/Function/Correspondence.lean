import ClockedFormula.Proofs.Function.Kind
import ClockedFormula.Proofs.Recipe.Correspondence

namespace ClockedFormula

open Recipe Walk

/-!
# What calls can tell of their memory

A call goes by the last step, by what its function carries from step to step, and by what the host has fed
in.  It does not go by its last value, nor by what it shows to the host.  So calls of every function do the
same in two memories that agree on the first three, and leave memories that agree again.  If the memories
also agree on what is shown, then the calls show the same afterwards.

Only one function looks at the random numbers.  Where it is not called, they may differ.

The two calls need not even keep their memory in the same store, which is what makes it possible to compare
a formula with another one that is built anew.
-/

namespace NodeState

/-- The part of a memory that calls go by; the rest is only shown to the host. -/
def carried (state : NodeState) : NodeState := { state with lastValue := none, external := none }

theorem carried_eq_iff {first second : NodeState} :
    first.carried = second.carried ↔ first.lastStep = second.lastStep ∧
      first.temporal = second.temporal ∧ first.injected = second.injected := by
  simp only [carried, mk.injEq, true_and]

/-- Whether two memories are the same to calls, and show the same to the host if that counts. -/
structure Agree (shown : Prop) (first second : NodeState) : Prop where
  lastStep : first.lastStep = second.lastStep
  temporal : first.temporal = second.temporal
  injected : first.injected = second.injected
  external : shown → first.external = second.external

namespace Agree

variable {shown : Prop} {first second : NodeState}

theorem of_carried (same : first.carried = second.carried) : Agree False first second := by
  rcases carried_eq_iff.mp same with ⟨lastStep, temporal, injected⟩
  exact ⟨lastStep, temporal, injected, False.elim⟩

theorem carried (agree : Agree shown first second) : first.carried = second.carried :=
  carried_eq_iff.mpr ⟨agree.lastStep, agree.temporal, agree.injected⟩

theorem setLastStep (agree : Agree shown first second) (step : Option UInt64) :
    Agree shown { first with lastStep := step } { second with lastStep := step } :=
  ⟨rfl, agree.temporal, agree.injected, agree.external⟩

theorem setTemporal (agree : Agree shown first second) (temporal : Temporal) :
    Agree shown { first with temporal := temporal } { second with temporal := temporal } :=
  ⟨agree.lastStep, rfl, agree.injected, agree.external⟩

theorem setExternal (agree : Agree shown first second) (v : Option Value) :
    Agree shown { first with external := v } { second with external := v } :=
  ⟨agree.lastStep, agree.temporal, agree.injected, fun _ => rfl⟩

theorem inject (agree : Agree shown first second) (v : Option Value) :
    Agree shown { first with injected := v } { second with injected := v } :=
  ⟨agree.lastStep, agree.temporal, rfl, agree.external⟩

/-- The last values do not count. -/
theorem recordResult (agree : Agree shown first second) (v : Option Value) :
    Agree shown { first with lastValue := v } { second with lastValue := v } :=
  ⟨agree.lastStep, agree.temporal, agree.injected, agree.external⟩

theorem startRun (agree : Agree shown first second) : Agree shown first.startRun second.startRun :=
  ⟨rfl, rfl, agree.injected, fun _ => rfl⟩

/-- Nothing but the last value is left after a reset, and that does not count. -/
theorem reset (shown : Prop) (first second : NodeState) : Agree shown first.reset second.reset :=
  ⟨rfl, rfl, rfl, fun _ => rfl⟩

/-- Registering a call goes by the last step, and changes both memories alike. -/
theorem beginCall (agree : Agree shown first second) (step : Option UInt64) (resetOnNewRun : Bool) :
    (first.beginCall step resetOnNewRun).1 = (second.beginCall step resetOnNewRun).1 ∧
      Agree shown (first.beginCall step resetOnNewRun).2
        (second.beginCall step resetOnNewRun).2 := by
  have same := agree.lastStep
  cases step with
  | none => exact ⟨rfl, agree⟩
  | some now =>
    cases called : second.lastStep with
    | none =>
      rw [called] at same
      rw [beginCall_first same, beginCall_first called]
      exact ⟨rfl, agree.setLastStep (some now)⟩
    | some last =>
      rw [called] at same
      simp only [NodeState.beginCall, called, same]
      by_cases back : now < last ∧ resetOnNewRun = true
      · rw [if_pos back, if_pos back]
        exact ⟨rfl, agree.startRun.setLastStep (some now)⟩
      · rw [if_neg back, if_neg back]
        by_cases again : now = last
        · rw [if_pos again, if_pos again]
          exact ⟨rfl, agree⟩
        · rw [if_neg again, if_neg again]
          exact ⟨rfl, agree.setLastStep (some now)⟩

end Agree

end NodeState

/-- Whether two workspaces are the same to calls, with their random numbers if those count. -/
structure Workspace.Agree (shown drawn : Prop) (first second : Workspace) : Prop where
  node : first.node.Agree shown second.node
  random : drawn → first.random = second.random

namespace TemporalFunction

variable {count : Nat} {shown drawn : Prop}

/-- Whether a relation between workspaces goes by what a call carries from step to step, and survives all
that calls do to their workspaces. -/
structure Carries (drawn : Prop) (alike : Workspace → Workspace → Prop) : Prop where
  temporal : ∀ {first second}, alike first second → first.node.temporal = second.node.temporal
  random : ∀ {first second}, alike first second → drawn → first.random = second.random
  begins : ∀ {first second}, alike first second → ∀ step resetOnNewRun,
    (first.node.beginCall step resetOnNewRun).1 = (second.node.beginCall step resetOnNewRun).1 ∧
      alike { first with node := (first.node.beginCall step resetOnNewRun).2 }
        { second with node := (second.node.beginCall step resetOnNewRun).2 }
  setTemporal : ∀ {first second}, alike first second → ∀ temporal,
    alike { first with node := { first.node with temporal := temporal } }
      { second with node := { second.node with temporal := temporal } }
  setExternal : ∀ {first second}, alike first second → ∀ v,
    alike { first with node := { first.node with external := v } }
      { second with node := { second.node with external := v } }
  recordResult : ∀ {first second}, alike first second → ∀ v,
    alike { first with node := { first.node with lastValue := v } }
      { second with node := { second.node with lastValue := v } }
  setRandom : ∀ {first second}, alike first second → ∀ random,
    alike { first with random := random } { second with random := random }

section Carrying

variable {alike : Workspace → Workspace → Prop} (carries : Carries drawn alike)
include carries

theorem publish_corresponds (v : Value) :
    Corresponds alike (publish v : Recipe Workspace count Value) (publish v) :=
  .readState fun _ _ same => .writeState (carries.setExternal same (some v)) (.answer v)

theorem publishOperand_corresponds (position : Fin count) :
    Corresponds alike ((operand position).bind publish) ((operand position).bind publish) :=
  .ask position (publish_corresponds carries)

theorem freezeOperand_corresponds (position : Fin count) :
    Corresponds alike (freezeOperand position) (freezeOperand position) := by
  apply Corresponds.readState
  intro first second same
  have freezes : Corresponds alike ((operand position).bind freeze) ((operand position).bind freeze) :=
    .ask position fun v => .readState fun _ _ same =>
      .writeState (carries.setTemporal same (.frozen v)) (.answer v)
  rw [carries.temporal same]
  cases second.node.temporal with
  | empty => exact freezes
  | frozen v => exact .answer v
  | stages levels => exact freezes

/-- Drawing goes by the random numbers, which have to agree for once. -/
theorem draw_corresponds (draws : drawn) :
    Corresponds alike (draw : Recipe Workspace count Double) draw := by
  apply Corresponds.readState
  intro first second same
  dsimp only
  rw [carries.random same draws]
  exact .writeState (carries.setRandom same _) (.answer _)

theorem smooth_corresponds (setting : Setting) (order : Nat) (input delay : Fin count)
    (initial : Option (Fin count)) :
    Corresponds alike (smooth setting order input delay initial)
      (smooth setting order input delay initial) := by
  have gathers : Corresponds alike (gather setting order input delay initial)
      (gather setting order input delay initial) := by
    refine (Corresponds.operandDouble input).bind fun x =>
      (Corresponds.operandDouble delay).bind fun d => .readState fun first second same => ?_
    rw [carries.temporal same]
    exact (Corresponds.of_stateless (nextStages_stateless setting order x d initial _)).bind
      fun stages => .answer (x, stages)
  rw [smooth_eq_gather]
  exact gathers.bind fun gathered => .readState fun _ _ same =>
    .writeState (carries.setTemporal same (.stages gathered.2)) (.answer _)

/-- Every function goes by what it carries, but for the one that also looks at what the host has fed in. -/
theorem corresponds_of_carries {f : TemporalFunction}
    {recipe : Setting → Recipe Workspace count Value} (accepted : f.recipe? count = some recipe)
    (draws : f = normal → drawn)
    (feeds : f = externalUpdate → ∀ {first second : Workspace}, alike first second →
      first.node.injected = second.node.injected) (setting : Setting) :
    Corresponds alike (recipe setting) (recipe setting) := by
  cases kind accepted with
  | publishes position => exact publishOperand_corresponds carries position
  | publishesInjected position =>
    apply Corresponds.readState
    intro first second same
    rw [feeds rfl same]
    cases second.node.injected with
    | some v => exact publish_corresponds carries v
    | none => exact publishOperand_corresponds carries position
  | freezes position => exact freezeOperand_corresponds carries position
  | timed _ steady next same stateless =>
    exact .of_stateless ((Stateless.ofAttempt setting.time).bind (stateless setting))
  | draws mean deviation next stateless =>
    have drawing : Corresponds alike (draw : Recipe Workspace count Double) draw :=
      draw_corresponds carries (draws rfl)
    exact (Corresponds.operandDouble mean).bind fun mean =>
      (Corresponds.operandDouble deviation).bind fun deviation =>
        (drawing.bind fun first => drawing.bind fun second => .answer _).bind fun sample =>
          .of_stateless (stateless sample)
  | smooths _ order input delay initial smooths =>
    exact (Corresponds.of_stateless smooths.order_stateless).bind fun order =>
      smooth_corresponds carries setting order input delay initial

end Carrying

theorem carries_agree (shown drawn : Prop) : Carries drawn (Workspace.Agree shown drawn) where
  temporal agree := agree.node.temporal
  random agree := agree.random
  begins agree step resetOnNewRun :=
    ⟨(agree.node.beginCall step resetOnNewRun).1, (agree.node.beginCall step resetOnNewRun).2, agree.random⟩
  setTemporal agree temporal := ⟨agree.node.setTemporal temporal, agree.random⟩
  setExternal agree v := ⟨agree.node.setExternal v, agree.random⟩
  recordResult agree v := ⟨agree.node.recordResult v, agree.random⟩
  setRandom agree _ := ⟨agree.node, fun _ => rfl⟩

/-- Every function does the same in workspaces that agree. -/
theorem corresponds {f : TemporalFunction} {recipe : Setting → Recipe Workspace count Value}
    (accepted : f.recipe? count = some recipe) (draws : f = normal → drawn) (setting : Setting) :
    Corresponds (Workspace.Agree shown drawn) (recipe setting) (recipe setting) :=
  corresponds_of_carries (carries_agree shown drawn) accepted draws
    (fun _ _ _ agree => agree.node.injected) setting

/-- A call goes by what is carried, unless it draws random numbers. -/
theorem run_of_carried {f : TemporalFunction} {recipe : Setting → Recipe Workspace count Value}
    (accepted : f.recipe? count = some recipe) (steady : f ≠ normal) (setting : Setting)
    (values : Fin count → Attempt Value) (state other : Workspace)
    (same : state.node.carried = other.node.carried) :
    ((recipe setting).run values state).1 = ((recipe setting).run values other).1 ∧
      ((recipe setting).run values state).2.node.carried =
        ((recipe setting).run values other).2.node.carried ∧
      (recipe setting).asked values state = (recipe setting).asked values other := by
  have agree : Workspace.Agree False False state other := ⟨.of_carried same, False.elim⟩
  have alike : Corresponds (Workspace.Agree False False) (recipe setting) (recipe setting) :=
    corresponds accepted (fun normal => absurd normal steady) setting
  rcases alike.run values agree with ⟨result, left, asked⟩
  exact ⟨result, left.node.carried, asked⟩

end TemporalFunction

/-! ## Calls in two worlds -/

/-- Whether a relation between worlds compares the memories of the calls in one store with those in another
one, and survives the same changes on both sides. -/
structure World.Compares (shown drawn : Prop) (store other : StoreId)
    (related : World → World → Prop) : Prop where
  workspace : ∀ {first second : World}, related first second → ∀ id,
    Workspace.Agree shown drawn ⟨first.node store id, first.random store⟩
      ⟨second.node other id, second.random other⟩
  setWorkspace : ∀ {first second : World} {workspace also : Workspace}, related first second →
    workspace.Agree shown drawn also → ∀ id,
      related (first.setWorkspace store id workspace) (second.setWorkspace other id also)

theorem World.Compares.setNode {shown drawn : Prop} {store other : StoreId}
    {related : World → World → Prop} (compares : World.Compares shown drawn store other related)
    {first second : World} (alike : related first second) (id : NodeId) {state also : NodeState}
    (agree : state.Agree shown also) :
    related (first.setNode store id state) (second.setNode other id also) := by
  have kept : Workspace.Agree shown drawn ⟨state, first.random store⟩ ⟨also, second.random other⟩ :=
    ⟨agree, (compares.workspace alike id).random⟩
  rw [World.setNode_eq_setWorkspace, World.setNode_eq_setWorkspace]
  exact compares.setWorkspace alike kept id

/-- Whether related worlds hold workspaces of a call that are alike, and stay related when these are replaced
by others that are. -/
structure World.Reaches (alike : Workspace → Workspace → Prop) (store other : StoreId) (id : NodeId)
    (related : World → World → Prop) : Prop where
  workspace : ∀ {first second : World}, related first second →
    alike ⟨first.node store id, first.random store⟩ ⟨second.node other id, second.random other⟩
  setWorkspace : ∀ {first second : World} {workspace also : Workspace}, related first second →
    alike workspace also →
      related (first.setWorkspace store id workspace) (second.setWorkspace other id also)

theorem World.Compares.reaches {shown drawn : Prop} {store other : StoreId}
    {related : World → World → Prop} (compares : World.Compares shown drawn store other related)
    (id : NodeId) : World.Reaches (Workspace.Agree shown drawn) store other id related where
  workspace alike := compares.workspace alike id
  setWorkspace alike agree := compares.setWorkspace alike agree id

section Calls

variable {shown drawn : Prop} {context other : Context} {related : World → World → Prop}

section Reaching

variable {alike : Workspace → Workspace → Prop} {id : NodeId}

/-- Calls of a built-in function run in parallel if their workspaces stay alike. -/
theorem callOperands_parallel_of_reaches (carries : TemporalFunction.Carries drawn alike)
    (reaches : World.Reaches alike context.store other.store id related)
    (sameOptions : context.options = other.options) (sameClock : context.clock = other.clock)
    {name : String}
    (draws : Function.resolve name context.options.ignoreCase = .ok (.temporal .normal) → drawn)
    (feeds : Function.resolve name context.options.ignoreCase = .ok (.temporal .externalUpdate) →
      ∀ {first second : Workspace}, alike first second → first.node.injected = second.node.injected)
    {count : Nat} {operands others : Fin count → Walk Value}
    (asks : ∀ position, Parallel related (operands position) (others position)) :
    Parallel related (callOperands context id name count operands)
      (callOperands other id name count others) := by
  have sequential := Parallel.sequential related
  cases resolved : Function.resolve name context.options.ignoreCase with
  | error e =>
    have also := sameOptions ▸ resolved
    rw [callOperands_unresolved resolved, callOperands_unresolved also]
    exact sequential.stops _
  | ok f =>
    cases f with
    | math f =>
      have also := sameOptions ▸ resolved
      rw [callOperands_math resolved, callOperands_math also, ← sameOptions]
      cases f.recipe? context.options.roundAwayFromZero count with
      | none => exact sequential.stops _
      | some recipe => exact sequential.followPlain asks recipe
    | temporal f =>
      have also := sameOptions ▸ resolved
      rw [callOperands_registered resolved, callOperands_registered also]
      cases accepted : f.recipe? count with
      | none => exact sequential.stops _
      | some recipe =>
        have begins : Parallel related (beginCall context id) (beginCall other id) := by
          apply Parallel.of_ok (beginCall_eq context id) (beginCall_eq other id)
          intro first second here
          rw [← sameOptions, ← sameClock, World.setNode_eq_setWorkspace, World.setNode_eq_setWorkspace]
          rcases carries.begins (reaches.workspace here) context.clock.step
            context.options.resetOnNewRun with ⟨progress, begun⟩
          exact ⟨progress, reaches.setWorkspace here begun⟩
        rw [← sameOptions, ← sameClock]
        refine begins.bind fun progress => ?_
        have same : Corresponds alike (recipe ⟨context.clock, context.options, progress⟩)
            (recipe ⟨context.clock, context.options, progress⟩) :=
          TemporalFunction.corresponds_of_carries carries accepted
            (fun same => draws (same ▸ resolved)) (fun same => feeds (same ▸ resolved)) _
        exact same.follow asks (Workspace.read_eq context.store id) (Workspace.read_eq other.store id)
          reaches.workspace fun written =>
            .of_ok (Workspace.write_eq context.store id _) (Workspace.write_eq other.store id _)
              fun _ _ here => ⟨rfl, reaches.setWorkspace here written⟩

/-- Both calls note the same result. -/
theorem recordResult_parallel_of_reaches {store also : StoreId}
    (carries : TemporalFunction.Carries drawn alike)
    (reaches : World.Reaches alike store also id related) (v : Value) :
    Parallel related (Walk.modifyMemory store fun memory => memory.recordResult id v)
      (Walk.modifyMemory also fun memory => memory.recordResult id v) := by
  apply Parallel.of_ok (recordResult_eq store id v) (recordResult_eq also id v)
  intro first second here
  rw [World.setNode_eq_setWorkspace, World.setNode_eq_setWorkspace]
  exact ⟨rfl, reaches.setWorkspace here (carries.recordResult (reaches.workspace here) (some v))⟩

end Reaching

/-- Calls of a built-in function run in parallel, each in its own store. -/
theorem callOperands_parallel
    (compares : World.Compares shown drawn context.store other.store related)
    (sameOptions : context.options = other.options) (sameClock : context.clock = other.clock)
    {name : String}
    (draws : Function.resolve name context.options.ignoreCase = .ok (.temporal .normal) → drawn)
    {count : Nat} {operands others : Fin count → Walk Value}
    (asks : ∀ position, Parallel related (operands position) (others position)) (id : NodeId) :
    Parallel related (callOperands context id name count operands)
      (callOperands other id name count others) :=
  callOperands_parallel_of_reaches (TemporalFunction.carries_agree shown drawn) (compares.reaches id)
    sameOptions sameClock draws (fun _ _ _ agree => agree.node.injected) asks

theorem recordResult_parallel {store also : StoreId}
    (compares : World.Compares shown drawn store also related) (id : NodeId) (v : Value) :
    Parallel related (Walk.modifyMemory store fun memory => memory.recordResult id v)
      (Walk.modifyMemory also fun memory => memory.recordResult id v) :=
  recordResult_parallel_of_reaches (TemporalFunction.carries_agree shown drawn) (compares.reaches id) v

end Calls

end ClockedFormula
