import ClockedFormula.Proofs.Evaluation.Shape
import ClockedFormula.Proofs.Function.Correspondence
import ClockedFormula.Proofs.Function.Repeatable

namespace ClockedFormula

open Walk

/-!
# Values that nobody asks for

A host can feed a value into any call, but the call of one function only asks for it.  What the others have
been fed makes no difference to evaluations: they come to the same outcomes, their handlers take the same
notes, and afterwards the memories still differ in what the host has fed in and in nothing else.

The calls that heed what they are fed are given by where they keep their memories.  They have to be so for
all formulas of a tree of bindings, since an evaluation can open any of them.
-/

namespace NodeState

/-- A memory without what the host has fed in. -/
def unfed (state : NodeState) : NodeState := { state with injected := none }

/-- Registering a call does not go by what is fed in, and leaves it alone. -/
theorem beginCall_unfed (state : NodeState) (step : Option UInt64) (resetOnNewRun : Bool) :
    (state.unfed.beginCall step resetOnNewRun).1 = (state.beginCall step resetOnNewRun).1 ∧
      (state.unfed.beginCall step resetOnNewRun).2 = (state.beginCall step resetOnNewRun).2.unfed := by
  rcases state with ⟨lastValue, lastStep, temporal, external, injected⟩
  cases step with
  | none => exact ⟨rfl, rfl⟩
  | some now =>
    cases lastStep with
    | none => exact ⟨rfl, rfl⟩
    | some last =>
      simp only [beginCall, unfed]
      by_cases back : now < last ∧ resetOnNewRun = true
      · rw [if_pos back, if_pos back]
        exact ⟨rfl, rfl⟩
      · rw [if_neg back, if_neg back]
        by_cases again : now = last
        · rw [if_pos again, if_pos again]
          exact ⟨rfl, rfl⟩
        · rw [if_neg again, if_neg again]
          exact ⟨rfl, rfl⟩

/-- Whether two memories are the same, but for what the host has fed in where this is not heeded. -/
structure FedApart (heeded : Prop) (first second : NodeState) : Prop where
  rest : first.unfed = second.unfed
  injected : heeded → first.injected = second.injected

namespace FedApart

variable {heeded : Prop} {first second : NodeState}

theorem refl (heeded : Prop) (state : NodeState) : FedApart heeded state state :=
  ⟨rfl, fun _ => rfl⟩

/-- A value that is not heeded is fed in. -/
theorem of_unheeded (unheeded : ¬ heeded) (state : NodeState) (v : Option Value) :
    FedApart heeded state { state with injected := v } :=
  ⟨rfl, fun heeds => absurd heeds unheeded⟩

theorem temporal (apart : FedApart heeded first second) : first.temporal = second.temporal := by
  have same : first.unfed.temporal = second.unfed.temporal := by rw [apart.rest]
  exact same

theorem lastValue (apart : FedApart heeded first second) : first.lastValue = second.lastValue := by
  have same : first.unfed.lastValue = second.unfed.lastValue := by rw [apart.rest]
  exact same

theorem external (apart : FedApart heeded first second) : first.external = second.external := by
  have same : first.unfed.external = second.unfed.external := by rw [apart.rest]
  exact same

theorem inject (apart : FedApart heeded first second) (v : Option Value) :
    FedApart heeded { first with injected := v } { second with injected := v } :=
  ⟨apart.rest, fun _ => rfl⟩

theorem reset (apart : FedApart heeded first second) : FedApart heeded first.reset second.reset := by
  have runs : first.unfed.startRun = second.unfed.startRun := congrArg startRun apart.rest
  exact ⟨runs, fun _ => rfl⟩

/-- The rest of both memories is changed, and what is fed in stays as it is. -/
theorem change (apart : FedApart heeded first second) (change : NodeState → NodeState)
    (rest : ∀ state, (change state).unfed = change state.unfed)
    (injected : ∀ state, (change state).injected = state.injected) :
    FedApart heeded (change first) (change second) where
  rest := by rw [rest, rest, apart.rest]
  injected heeds := by rw [injected, injected, apart.injected heeds]

theorem beginCall (apart : FedApart heeded first second) (step : Option UInt64)
    (resetOnNewRun : Bool) :
    (first.beginCall step resetOnNewRun).1 = (second.beginCall step resetOnNewRun).1 ∧
      FedApart heeded (first.beginCall step resetOnNewRun).2
        (second.beginCall step resetOnNewRun).2 := by
  have progress := (first.beginCall_unfed step resetOnNewRun).1
  rw [apart.rest, (second.beginCall_unfed step resetOnNewRun).1] at progress
  refine ⟨progress.symm, apart.change (fun state => (state.beginCall step resetOnNewRun).2)
    (fun state => (state.beginCall_unfed step resetOnNewRun).2.symm)
    fun state => state.injected_beginCall step resetOnNewRun⟩

end FedApart

end NodeState

/-! ## Single calls -/

/-- Whether two workspaces are the same, but for what the host has fed in where this is not heeded. -/
structure Workspace.FedApart (heeded : Prop) (first second : Workspace) : Prop where
  node : first.node.FedApart heeded second.node
  random : first.random = second.random

/-- No function is changed by what it is fed, or changes it. -/
theorem TemporalFunction.carries_fedApart (heeded : Prop) : Carries True (Workspace.FedApart heeded) where
  temporal apart := apart.node.temporal
  random apart _ := apart.random
  begins apart step resetOnNewRun :=
    ⟨(apart.node.beginCall step resetOnNewRun).1, (apart.node.beginCall step resetOnNewRun).2, apart.random⟩
  setTemporal apart temporal :=
    ⟨apart.node.change (fun state => { state with temporal := temporal }) (fun _ => rfl) fun _ => rfl,
      apart.random⟩
  setExternal apart v :=
    ⟨apart.node.change (fun state => { state with external := v }) (fun _ => rfl) fun _ => rfl,
      apart.random⟩
  recordResult apart v :=
    ⟨apart.node.change (fun state => { state with lastValue := v }) (fun _ => rfl) fun _ => rfl,
      apart.random⟩
  setRandom apart _ := ⟨apart.node, rfl⟩

/-- Whether two worlds are the same, but for what the host has fed into calls that do not heed it. -/
abbrev World.FedApart (heeded : StoreId → NodeId → Prop) : World → World → Prop :=
  World.Alongside fun store id first second => first.FedApart (heeded store id) second

namespace World.FedApart

variable {heeded : StoreId → NodeId → Prop} {first second : World}

theorem refl (heeded : StoreId → NodeId → Prop) (world : World) : FedApart heeded world world :=
  ⟨fun _ _ => .refl _ _, fun _ => rfl, fun _ => rfl, rfl, rfl⟩

theorem reaches (heeded : StoreId → NodeId → Prop) (store : StoreId) (id : NodeId) :
    World.Reaches (Workspace.FedApart (heeded store id)) store store id (FedApart heeded) where
  workspace apart := ⟨apart.nodes store id, apart.random store⟩
  setWorkspace apart also := apart.setWorkspace store id also.node also.random

theorem inject (apart : FedApart heeded first second) (store : StoreId) (id : NodeId) (v : Value) :
    FedApart heeded (first.modifyMemory store fun memory => memory.inject id v)
      (second.modifyMemory store fun memory => memory.inject id v) := by
  refine apart.modifyMemory store fun call => ?_
  unfold NodeMemory.inject NodeMemory.modify
  by_cases itself : call = id
  · subst itself
    rw [NodeMemory.state_setState_self, NodeMemory.state_setState_self]
    exact (apart.nodes store call).inject (some v)
  · rw [NodeMemory.state_setState_of_ne _ itself, NodeMemory.state_setState_of_ne _ itself]
    exact apart.nodes store call

theorem resetCall (apart : FedApart heeded first second) (store : StoreId) (id : NodeId) :
    FedApart heeded (first.modifyMemory store fun memory => memory.reset id)
      (second.modifyMemory store fun memory => memory.reset id) := by
  refine apart.modifyMemory store fun call => ?_
  by_cases itself : call = id
  · subst itself
    rw [NodeMemory.state_reset_self, NodeMemory.state_reset_self]
    exact (apart.nodes store call).reset
  · rw [NodeMemory.state_reset_of_ne _ itself, NodeMemory.state_reset_of_ne _ itself]
    exact apart.nodes store call

theorem resetAll (apart : FedApart heeded first second) (store : StoreId) :
    FedApart heeded (first.modifyMemory store NodeMemory.resetAll)
      (second.modifyMemory store NodeMemory.resetAll) := by
  refine apart.modifyMemory store fun call => ?_
  rw [NodeMemory.state_resetAll, NodeMemory.state_resetAll]
  exact (apart.nodes store call).reset

/-- A value is fed into a call that does not heed it. -/
theorem of_unheeded {store : StoreId} {id : NodeId} (unheeded : ¬ heeded store id) (world : World)
    (v : Value) :
    FedApart heeded world (world.modifyMemory store fun memory => memory.inject id v) :=
  .of_setNode (fun _ _ _ => .refl _ _) world (.of_unheeded unheeded _ (some v))

end World.FedApart

/-! ## Expressions and formulas -/

section Evaluations

variable {heeded : StoreId → NodeId → Prop} {all : List Formula} {g : Formula} {context : Context}

/-- A call runs in parallel to itself, if it heeds what it is fed in case its function does. -/
theorem callFunction_fedApart {id : NodeId} {name : String}
    (heeds : Function.resolve name context.options.ignoreCase = .ok (.temporal .externalUpdate) →
      heeded context.store id) {arguments : List Argument}
    (asks : ∀ argument ∈ arguments,
      Parallel (World.FedApart heeded) argument.value argument.value) :
    Parallel (World.FedApart heeded) (callFunction context id name arguments)
      (callFunction context id name arguments) := by
  rw [callFunction_eq_callOperands rfl]
  exact callOperands_parallel_of_reaches (TemporalFunction.carries_fedApart _)
    (World.FedApart.reaches heeded context.store id) rfl rfl (fun _ => trivial)
    (fun asked _ _ apart => apart.node.injected (heeds asked))
    fun position => asks _ (List.get_mem arguments position)

/-- Evaluations that open formulas in parallel run in parallel themselves. -/
theorem evaluate_fedApart {enter : Context → Formula → Walk Value} (of : context.Of g)
    (heeds : ∀ id, g.Calls id .externalUpdate → heeded g.store id)
    (opens : ∀ name f, context.find? name = some (.formula f) →
      Parallel (World.FedApart heeded) (enter context f) (enter context f)) :
    Parallel (World.FedApart heeded) (evaluate enter context g.expression)
      (evaluate enter context g.expression) := by
  have sequential := Parallel.sequential (World.FedApart heeded)
  have asking : Asking context.root (Parallel (World.FedApart heeded)) :=
    World.Alongside.asking context.root
  have shows : Walk.Relation.Shows (Parallel (World.FedApart heeded)) :=
    World.Alongside.shows fun apart => ⟨apart.lastValue, apart.external⟩
  have catches : Walk.Relation.Catches (Parallel (World.FedApart heeded)) := Parallel.catches _
  refine sequential.evaluate (fun name => asking.evaluateIdentifier catches (.inl shows) (opens name)) ?_
  intro application inside arguments
  have asks : ∀ argument ∈ delay enter context application.arguments,
      Parallel (World.FedApart heeded) argument.value argument.value := by
    intro argument member
    rw [delay_eq_map] at member
    rcases List.mem_map.mp member with ⟨e, present, rfl⟩
    exact arguments e present
  have agree : Walk.Relation.OfArguments (Parallel (World.FedApart heeded))
      (delay enter context application.arguments) (delay enter context application.arguments) :=
    List.forall₂_same.mpr asks
  have reaches := World.FedApart.reaches heeded context.store application.id
  refine sequential.evaluateCall (asking.consult catches agree rfl (.inl shows) _)
    (callFunction_fedApart (fun asked => ?_) asks)
    (recordResult_parallel_of_reaches (TemporalFunction.carries_fedApart _) reaches)
  rw [of.store]
  refine heeds application.id ⟨application.name, ?_, of.options ▸ asked⟩
  rw [Expr.calls_eq_map_applications]
  exact List.mem_map_of_mem inside

/-- What calls are fed that do not heed it makes no difference to a walk. -/
theorem walk_fedApart (tree : ∀ f ∈ all, Bindings.Within all f.bindings)
    (heeds : ∀ f ∈ all, ∀ id, f.Calls id .externalUpdate → heeded f.store id) (known : g ∈ all)
    (of : context.Of g) (within : Bindings.Within all context.bindings) (depth : Nat) :
    Parallel (World.FedApart heeded) (walk depth context g.expression)
      (walk depth context g.expression) := by
  induction depth generalizing g context with
  | zero => exact (Parallel.sequential _).stops .exhausted
  | succ depth ih =>
    refine evaluate_fedApart of (heeds g known) fun name f found => ?_
    have bound : f ∈ all := within.find? found
    exact ih bound ⟨rfl, rfl, rfl⟩ ((tree f bound).overlay within)

theorem Formula.evaluateTo_fedApart (tree : ∀ f ∈ all, Bindings.Within all f.bindings)
    (heeds : ∀ f ∈ all, ∀ id, f.Calls id .externalUpdate → heeded f.store id) (known : g ∈ all)
    (depth : Nat) (clock : Clock) {first second : World} (apart : World.FedApart heeded first second) :
    (g.evaluateTo depth clock first).1 = (g.evaluateTo depth clock second).1 ∧
      World.FedApart heeded (g.evaluateTo depth clock first).2 (g.evaluateTo depth clock second).2 :=
  evaluateTo_parallel (walk_fedApart tree heeds known ⟨rfl, rfl, rfl⟩ (tree g known) depth) apart

end Evaluations

end ClockedFormula
