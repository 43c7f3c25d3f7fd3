import ClockedFormula.Evaluation

namespace ClockedFormula

/-!
# Function calls in the world of a walk

Evaluation reaches what a call remembers through the store of its formula and the table of that store.
This module looks at a world through the memories of single calls instead.  A walk changes them in
three ways only: a call is registered at the clock, a recipe replaces its state, and a result is noted.
Each of these changes the memory of one call and of no other.
-/

namespace World

/-- What a call remembers. -/
def node (world : World) (store : StoreId) (id : NodeId) : NodeState :=
  (world.store store).memory.state id

/-- What a call shows is part of what it remembers. -/
theorem readouts_eq_node (world : World) (store : StoreId) (id : NodeId) :
    world.readouts store id = ⟨(world.node store id).lastValue, (world.node store id).external⟩ := rfl

/-- The random numbers that a store has left. -/
def random (world : World) (store : StoreId) : RandomStream := (world.store store).random

/-- Replace what a call remembers. -/
def setNode (world : World) (store : StoreId) (id : NodeId) (state : NodeState) : World :=
  world.modifyMemory store fun memory => memory.setState id state

@[simp]
theorem node_setNode_self (world : World) (store : StoreId) (id : NodeId) (state : NodeState) :
    (world.setNode store id state).node store id = state := by
  simp only [node, setNode, modifyMemory, store_modifyStore_self,
    NodeMemory.state_setState_self]

theorem node_setNode_of_ne (world : World) (store : StoreId) {id other : NodeId}
    (distinct : other ≠ id) (state : NodeState) :
    (world.setNode store id state).node store other = world.node store other := by
  simp only [node, setNode, modifyMemory, store_modifyStore_self,
    NodeMemory.state_setState_of_ne _ distinct]

@[simp]
theorem random_setNode (world : World) (store : StoreId) (id : NodeId) (state : NodeState) :
    (world.setNode store id state).random store = world.random store := by
  simp only [random, setNode, modifyMemory, store_modifyStore_self]

/-- Replace what a call remembers, and the random numbers of its store. -/
def setWorkspace (world : World) (store : StoreId) (id : NodeId) (workspace : Workspace) : World :=
  world.modifyStore store fun contents =>
    { contents with
      memory := contents.memory.setState id workspace.node
      random := workspace.random }

@[simp]
theorem node_setWorkspace_self (world : World) (store : StoreId) (id : NodeId)
    (workspace : Workspace) :
    (world.setWorkspace store id workspace).node store id = workspace.node := by
  simp only [node, setWorkspace, store_modifyStore_self, NodeMemory.state_setState_self]

theorem node_setWorkspace_of_ne (world : World) (store : StoreId) {id other : NodeId}
    (distinct : other ≠ id) (workspace : Workspace) :
    (world.setWorkspace store id workspace).node store other = world.node store other := by
  simp only [node, setWorkspace, store_modifyStore_self,
    NodeMemory.state_setState_of_ne _ distinct]

@[simp]
theorem random_setWorkspace (world : World) (store : StoreId) (id : NodeId)
    (workspace : Workspace) :
    (world.setWorkspace store id workspace).random store = workspace.random := by
  simp only [random, setWorkspace, store_modifyStore_self]

/-- A node is replaced with the random numbers as they are. -/
theorem setNode_eq_setWorkspace (world : World) (store : StoreId) (id : NodeId) (state : NodeState) :
    world.setNode store id state = world.setWorkspace store id ⟨state, world.random store⟩ := rfl

/-- Stores that are related in two worlds are still so when a store changes in both. -/
theorem related_modifyStore {first second : World} {motive : Store → Store → Prop} {id store : StoreId}
    {change also : Store → Store} (before : motive (first.store id) (second.store id))
    (changed : id = store → motive (change (first.store store)) (also (second.store store))) :
    motive ((first.modifyStore store change).store id) ((second.modifyStore store also).store id) := by
  by_cases itself : id = store
  · have after := changed itself
    subst itself
    rw [store_modifyStore_self, store_modifyStore_self]
    exact after
  · rw [store_modifyStore_of_ne _ itself, store_modifyStore_of_ne _ itself]
    exact before

end World

/-! ## Walks one step at a time -/

namespace Walk

variable {α β : Type}

theorem bind_ok {walk : Walk α} {world after : World} {a : α} (done : walk world = .ok a after)
    (next : α → Walk β) : (walk >>= next) world = next a after := by
  change EStateM.bind walk next world = next a after
  rw [EStateM.bind, done]

theorem bind_error {walk : Walk α} {world after : World} {reason : Interruption}
    (stopped : walk world = .error reason after) (next : α → Walk β) :
    (walk >>= next) world = .error reason after := by
  change EStateM.bind walk next world = .error reason after
  rw [EStateM.bind, stopped]

/-- A walk in sequence comes to a value by a value of its first part. -/
theorem bind_eq_ok {walk : Walk α} {next : α → Walk β} {world after : World} {b : β}
    (done : (walk >>= next) world = .ok b after) :
    ∃ a middle, walk world = .ok a middle ∧ next a middle = .ok b after := by
  cases outcome : walk world with
  | ok a middle => exact ⟨a, middle, rfl, (bind_ok outcome next).symm.trans done⟩
  | error reason middle =>
    rw [bind_error outcome next] at done
    cases done

/-- A walk in sequence is interrupted in its first part, or in what comes after a value of it. -/
theorem bind_eq_error {walk : Walk α} {next : α → Walk β} {world after : World}
    {reason : Interruption} (stopped : (walk >>= next) world = .error reason after) :
    walk world = .error reason after ∨
      ∃ a middle, walk world = .ok a middle ∧ next a middle = .error reason after := by
  cases outcome : walk world with
  | ok a middle => exact .inr ⟨a, middle, rfl, (bind_ok outcome next).symm.trans stopped⟩
  | error earlier middle =>
    rw [bind_error outcome next] at stopped
    cases stopped
    exact .inl rfl

/-- The world that a walk leaves behind, however it ends. -/
def leaves (walk : Walk α) (world : World) : World :=
  match walk world with
  | .ok _ after => after
  | .error _ after => after

theorem leaves_ok {walk : Walk α} {world after : World} {a : α} (done : walk world = .ok a after) :
    walk.leaves world = after := by rw [leaves, done]

theorem leaves_error {walk : Walk α} {world after : World} {reason : Interruption}
    (stopped : walk world = .error reason after) : walk.leaves world = after := by
  rw [leaves, stopped]

theorem leaves_bind (walk : Walk α) (next : α → Walk β) (world : World) :
    (walk >>= next).leaves world =
      match walk world with
      | .ok a after => (next a).leaves after
      | .error _ after => after := by
  cases outcome : walk world with
  | ok a after => rw [leaves, bind_ok outcome]; rfl
  | error reason after => exact leaves_error (bind_error outcome next)

/-- Whoever asks for the outcome of a walk leaves the same world behind. -/
theorem leaves_outcome (walk : Walk α) (world : World) :
    walk.outcome.leaves world = walk.leaves world := by
  unfold leaves outcome
  cases walk world with
  | ok a after => rfl
  | error reason after => cases reason <;> rfl

/-- Whether a walk never changes what a call remembers. -/
def Spares (store : StoreId) (id : NodeId) (walk : Walk α) : Prop :=
  ∀ world, (walk.leaves world).node store id = world.node store id

theorem Spares.of_ok {store : StoreId} {id : NodeId} {walk : Walk α} {world after : World} {a : α}
    (spares : walk.Spares store id) (done : walk world = .ok a after) :
    after.node store id = world.node store id := by
  have same := spares world
  rwa [leaves_ok done] at same

theorem Spares.of_error {store : StoreId} {id : NodeId} {walk : Walk α} {world after : World}
    {reason : Interruption} (spares : walk.Spares store id)
    (stopped : walk world = .error reason after) :
    after.node store id = world.node store id := by
  have same := spares world
  rwa [leaves_error stopped] at same

/-- How a walk ends, without the world that it leaves behind. -/
def ending (walk : Walk α) (world : World) : Except Interruption α :=
  match walk world with
  | .ok a _ => .ok a
  | .error reason _ => .error reason

theorem ending_ok {walk : Walk α} {world after : World} {a : α} (done : walk world = .ok a after) :
    walk.ending world = .ok a := by rw [ending, done]

theorem eq_error_of_ending {walk : Walk α} {world : World} {reason : Interruption}
    (stopped : walk.ending world = .error reason) :
    walk world = .error reason (walk.leaves world) := by
  unfold ending at stopped
  unfold leaves
  cases outcome : walk world with
  | ok a after =>
    rw [outcome] at stopped
    cases stopped
  | error other after =>
    rw [outcome] at stopped
    cases stopped
    rfl

/-- Walks that end in the same way both come to a value, or are both interrupted. -/
theorem cases_of_ending {walk other : Walk α} {first second : World}
    (same : walk.ending first = other.ending second) :
    (∃ a, walk first = .ok a (walk.leaves first) ∧ other second = .ok a (other.leaves second)) ∨
      ∃ reason, walk first = .error reason (walk.leaves first) ∧
        other second = .error reason (other.leaves second) := by
  unfold ending at same
  unfold leaves
  cases here : walk first with
  | ok a after =>
    cases there : other second with
    | ok b last =>
      rw [here, there] at same
      cases same
      exact .inl ⟨a, rfl, rfl⟩
    | error reason last =>
      rw [here, there] at same
      cases same
  | error reason after =>
    cases there : other second with
    | ok b last =>
      rw [here, there] at same
      cases same
    | error also last =>
      rw [here, there] at same
      cases same
      exact .inr ⟨reason, rfl, rfl⟩

/-- The end of a walk with a known outcome. -/
def conclude (outcome : Attempt α) (after : World) : EStateM.Result Interruption World α :=
  match outcome with
  | .ok a => .ok a after
  | .error e => .error (.failed e) after

theorem ending_conclude {walk : Walk α} {world after : World} {outcome : Attempt α}
    (known : walk world = conclude outcome after) :
    walk.ending world = outcome.mapError .failed := by
  rw [ending, known]
  cases outcome <;> rfl

end Walk

/-! ## Changes of single memories -/

theorem beginCall_eq (context : Context) (id : NodeId) (world : World) :
    beginCall context id world =
      let begun := (world.node context.store id).beginCall context.clock.step
        context.options.resetOnNewRun
      .ok begun.1 (world.setNode context.store id begun.2) := rfl

theorem recordResult_eq (store : StoreId) (id : NodeId) (v : Value) (world : World) :
    Walk.modifyMemory store (fun memory => memory.recordResult id v) world =
      .ok () (world.setNode store id { world.node store id with lastValue := some v }) := rfl

theorem Workspace.read_eq (store : StoreId) (id : NodeId) (world : World) :
    Workspace.read store id world = .ok ⟨world.node store id, world.random store⟩ world := rfl

theorem Workspace.write_eq (store : StoreId) (id : NodeId) (workspace : Workspace)
    (world : World) :
    Workspace.write store id workspace world = .ok () (world.setWorkspace store id workspace) := rfl

end ClockedFormula
