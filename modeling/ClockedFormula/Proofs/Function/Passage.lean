import ClockedFormula.Proofs.Function.Repeatable

namespace ClockedFormula

open Recipe Walk TemporalFunction

/-!
# Passing through a call

When it is known what the operands of a call come to, the whole call can be told from what its node
remembers: its value, what the node remembers then, and the operands that were asked for.  This is the
passage through the call.  The module carries the laws of repeatable functions over to passages, and
shows that the walk of a call follows its passage, whatever else the walks to the operands do.
-/

/-- What comes of a call of a built-in function. -/
structure Passage (count : Nat) where
  value : Attempt Value
  /-- What the node remembers then. -/
  node : NodeState
  /-- The positions of the operands that were asked for. -/
  asked : List (Fin count)

variable {count : Nat}

/-- A call that fails before it asks for anything. -/
def Passage.refused (e : EvalError) (node : NodeState) : Passage count := ⟨.error e, node, []⟩

/-- The passage through a function without memory. -/
def Passage.plain (recipe : Recipe Unit count Value) (values : Fin count → Attempt Value)
    (node : NodeState) : Passage count :=
  ⟨(recipe.run values ()).1, node, recipe.asked values ()⟩

/-- The passage through a function with memory. -/
def Passage.temporal (recipe : Setting → Recipe Workspace count Value) (context : Context)
    (values : Fin count → Attempt Value) (node : NodeState) : Passage count :=
  let begun := context.registers node
  let rehearsed := recipe ⟨context.clock, context.options, begun.1⟩
  let workspace : Workspace := ⟨begun.2, ⟨0, 0⟩⟩
  ⟨(rehearsed.run values workspace).1, (rehearsed.run values workspace).2.node,
    rehearsed.asked values workspace⟩

/-- The passage through a call, given what its operands come to and what its node remembers. -/
def passage (context : Context) (name : String) (values : Fin count → Attempt Value)
    (node : NodeState) : Passage count :=
  match Function.resolve name context.options.ignoreCase with
  | .error e => .refused e node
  | .ok (.math f) =>
    match f.recipe? context.options.roundAwayFromZero count with
    | none => .refused ((Function.math f).arityError count) node
    | some recipe => .plain recipe values node
  | .ok (.temporal f) =>
    match f.recipe? count with
    | none => .refused ((Function.temporal f).arityError count) node
    | some recipe => .temporal recipe context values node

/-- Whether a function is not the one that draws random numbers. -/
def Context.Steady (context : Context) (name : String) : Prop :=
  Function.resolve name context.options.ignoreCase ≠ .ok (.temporal .normal)

theorem Context.Steady.ne_normal {context : Context} {name : String} {f : TemporalFunction}
    (steady : context.Steady name)
    (resolved : Function.resolve name context.options.ignoreCase = .ok (.temporal f)) :
    f ≠ .normal := by
  rintro rfl
  exact steady resolved

/-- The forms that calls of a function can have: what a passage through such a call is, and what its
walk is. -/
inductive Form (context : Context) (name : String) (count : Nat) : Prop
  /-- There is no such function, or it does not take so many operands. -/
  | refused (e : EvalError)
    (passes : ∀ values node, passage context name values node = (.refused e node : Passage count))
    (walks : ∀ id operands, callOperands context id name count operands = Walk.fail e)
  /-- The function has no memory. -/
  | plain (recipe : Recipe Unit count Value)
    (passes : ∀ values node, passage context name values node = .plain recipe values node)
    (walks : ∀ id operands,
      callOperands context id name count operands = recipe.followPlain operands)
  | temporal (f : TemporalFunction) (recipe : Setting → Recipe Workspace count Value)
    (resolved : Function.resolve name context.options.ignoreCase = .ok (.temporal f))
    (accepted : f.recipe? count = some recipe)
    (passes : ∀ values node,
      passage context name values node = .temporal recipe context values node)
    (walks : ∀ id operands world,
      callOperands context id name count operands world =
        followAt context.store id operands
          (recipe ⟨context.clock, context.options,
            (context.registers (world.node context.store id)).1⟩)
          (world.setNode context.store id (context.registers (world.node context.store id)).2))

theorem form (context : Context) (name : String) (count : Nat) : Form context name count := by
  cases resolved : Function.resolve name context.options.ignoreCase with
  | error e =>
    refine .refused e (fun values node => ?_) fun id operands => callOperands_unresolved resolved
    simp only [passage, resolved]
  | ok f =>
    cases f with
    | math f =>
      cases accepted : f.recipe? context.options.roundAwayFromZero count with
      | none =>
        refine .refused ((Function.math f).arityError count) (fun values node => ?_)
          fun id operands => ?_
        · rw [passage, resolved]
          dsimp only
          rw [accepted]
        · rw [callOperands_math resolved, accepted]
      | some recipe =>
        refine .plain recipe (fun values node => ?_) fun id operands => ?_
        · simp only [passage, resolved, accepted]
        · rw [callOperands_math resolved, accepted]
    | temporal f =>
      cases accepted : f.recipe? count with
      | none =>
        refine .refused ((Function.temporal f).arityError count) (fun values node => ?_)
          fun id operands => ?_
        · simp only [passage, resolved, accepted]
        · funext world
          rw [callOperands_temporal resolved, accepted]
      | some recipe =>
        refine .temporal f recipe resolved accepted (fun values node => ?_)
          fun id operands world => ?_
        · simp only [passage, resolved, accepted]
        · rw [callOperands_temporal resolved, accepted]
          rfl

/-! ## Laws -/

/-- Two passages that cannot be told apart by later calls. -/
structure Passage.Alike (first second : Passage count) : Prop where
  value : first.value = second.value
  carried : first.node.carried = second.node.carried
  asked : first.asked = second.asked

section Laws

variable {context : Context} {name : String}

/-- Operands that are not asked for play no part in a passage. -/
theorem passage_congr_values {values other : Fin count → Attempt Value} {node : NodeState}
    (agree : ∀ position ∈ (passage context name values node).asked,
      other position = values position) :
    passage context name other node = passage context name values node := by
  cases form context name count with
  | refused e passes walks => rw [passes, passes]
  | plain recipe passes walks =>
    rw [passes] at agree
    rcases recipe.run_congr () agree with ⟨results, positions⟩
    rw [passes, passes, Passage.plain, Passage.plain, results, positions]
  | temporal f recipe resolved accepted passes walks =>
    rw [passes] at agree
    rcases (recipe _).run_congr _ agree with ⟨results, positions⟩
    rw [passes, passes]
    simp only [Passage.temporal, results, positions]

/-- A passage goes by what the node carries. -/
theorem passage_alike (steady : context.Steady name) (values : Fin count → Attempt Value)
    {first second : NodeState} (agree : first.carried = second.carried) :
    (passage context name values first).Alike (passage context name values second) := by
  cases form context name count with
  | refused e passes walks =>
    rw [passes, passes]
    exact ⟨rfl, agree, rfl⟩
  | plain recipe passes walks =>
    rw [passes, passes]
    exact ⟨rfl, agree, rfl⟩
  | temporal f recipe resolved accepted passes walks =>
    rcases (NodeState.Agree.of_carried agree).beginCall context.clock.step
      context.options.resetOnNewRun with ⟨progress, begun⟩
    have progress : (context.registers first).1 = (context.registers second).1 := progress
    rcases run_of_carried accepted (steady.ne_normal resolved)
      ⟨context.clock, context.options, (context.registers second).1⟩ values
      ⟨(context.registers first).2, ⟨0, 0⟩⟩ ⟨(context.registers second).2, ⟨0, 0⟩⟩ begun.carried with
      ⟨value, carried, asked⟩
    rw [passes, passes, Passage.temporal, progress]
    exact ⟨value, carried, asked⟩

/-- A call that is registered at a step of the clock has seen the step. -/
theorem Context.lastStep_registers {now : UInt64} (clocked : context.clock.step = some now)
    (node : NodeState) : (context.registers node).2.lastStep = some now := by
  rw [Context.registers, clocked]
  exact NodeState.lastStep_beginCall node now context.options.resetOnNewRun

/-- Passing through a call a second time at one step of the clock changes nothing any more. -/
theorem passage_again (steady : context.Steady name) {now : UInt64}
    (clocked : context.clock.step = some now) (values : Fin count → Attempt Value)
    (node : NodeState) {again : Passage count}
    (repeated : again = passage context name values (passage context name values node).node) :
    again.value = (passage context name values node).value ∧
      again.node = (passage context name values node).node ∧
      again.asked ⊆ (passage context name values node).asked := by
  subst repeated
  cases form context name count with
  | refused e passes walks =>
    rw [passes, passes]
    exact ⟨rfl, rfl, List.Subset.refl _⟩
  | plain recipe passes walks =>
    rw [passes, passes]
    exact ⟨rfl, rfl, List.Subset.refl _⟩
  | temporal f recipe resolved accepted passes walks =>
    have repeats := repeatable (steady.ne_normal resolved) accepted
    rcases repeats.keeps ⟨context.clock, context.options, (context.registers node).1⟩ values
      ⟨(context.registers node).2, ⟨0, 0⟩⟩ with ⟨spared, called⟩
    rcases repeats.again context.clock context.options
      (context.registers node).1 values ⟨(context.registers node).2, ⟨0, 0⟩⟩ with ⟨results, asks⟩
    have seen := Context.lastStep_registers clocked node
    rw [passes, passes]
    simp only [Passage.temporal]
    generalize (recipe ⟨context.clock, context.options,
      (context.registers node).1⟩).run values ⟨(context.registers node).2, ⟨0, 0⟩⟩ = done
      at spared called results asks ⊢
    have registered : context.registers done.2.node = (.repeated, done.2.node) := by
      rw [Context.registers, clocked]
      exact NodeState.beginCall_repeated (called.trans seen) _
    have spared : done.2.random = ⟨0, 0⟩ := spared
    have whole : (⟨done.2.node, ⟨0, 0⟩⟩ : Workspace) = done.2 := by rw [← spared]
    rw [registered, whole, results]
    exact ⟨rfl, rfl, asks⟩

/-- Whether calls of a function keep a memory, and so are registered at the clock. -/
def Context.Temporal (context : Context) (name : String) (count : Nat) : Prop :=
  ∃ f : TemporalFunction, Function.resolve name context.options.ignoreCase = .ok (.temporal f) ∧
    ∃ recipe, f.recipe? count = some recipe

/-- A call that keeps a memory has seen the step of the clock. -/
theorem passage_lastStep (steady : context.Steady name) {now : UInt64}
    (clocked : context.clock.step = some now) (remembers : context.Temporal name count)
    (values : Fin count → Attempt Value) (node : NodeState) :
    (passage context name values node).node.lastStep = some now := by
  rcases remembers with ⟨f, resolved, recipe, accepted⟩
  have repeats := repeatable (steady.ne_normal resolved) accepted
  rcases repeats.keeps ⟨context.clock, context.options, (context.registers node).1⟩ values
    ⟨(context.registers node).2, ⟨0, 0⟩⟩ with ⟨_, called⟩
  simp only [passage, resolved, accepted]
  exact called.trans (Context.lastStep_registers clocked node)

/-- Whether a call begins without anything that was gathered before. -/
def Context.BeginsEmpty (context : Context) (node : NodeState) : Prop :=
  (context.registers node).2.temporal = .empty

/-- Nodes that begin without a memory are passed through alike, and so are nodes that keep none. -/
theorem passage_anew (steady : context.Steady name) {now : UInt64}
    (clocked : context.clock.step = some now) (values : Fin count → Attempt Value)
    {first second : NodeState} (sameInjected : first.injected = second.injected)
    (empty : context.Temporal name count →
      context.BeginsEmpty first ∧ context.BeginsEmpty second) :
    (passage context name values first).value = (passage context name values second).value ∧
      (passage context name values first).asked = (passage context name values second).asked ∧
      ((passage context name values first).node.carried =
          (passage context name values second).node.carried ∨
        (passage context name values first).node = first ∧
          (passage context name values second).node = second) := by
  cases form context name count with
  | refused e passes walks =>
    rw [passes, passes]
    exact ⟨rfl, rfl, .inr ⟨rfl, rfl⟩⟩
  | plain recipe passes walks =>
    rw [passes, passes]
    exact ⟨rfl, rfl, .inr ⟨rfl, rfl⟩⟩
  | temporal f recipe resolved accepted passes walks =>
    have repeats := repeatable (steady.ne_normal resolved) accepted
    rcases empty ⟨f, resolved, recipe, accepted⟩ with ⟨firstEmpty, secondEmpty⟩
    have agree : (context.registers first).2.carried = (context.registers second).2.carried := by
      refine NodeState.carried_eq_iff.mpr ⟨?_, firstEmpty.trans secondEmpty.symm, ?_⟩
      · rw [Context.lastStep_registers clocked, Context.lastStep_registers clocked]
      · rw [Context.registers, Context.registers, NodeState.injected_beginCall,
          NodeState.injected_beginCall, sameInjected]
    rcases run_of_carried accepted (steady.ne_normal resolved)
      ⟨context.clock, context.options, (context.registers second).1⟩ values
      ⟨(context.registers first).2, ⟨0, 0⟩⟩ ⟨(context.registers second).2, ⟨0, 0⟩⟩ agree with
      ⟨value, carried, asked⟩
    rcases repeats.anew context.clock context.options
      (context.registers first).1 (context.registers second).1 values
      ⟨(context.registers first).2, ⟨0, 0⟩⟩ firstEmpty with ⟨results, asks⟩
    rw [passes, passes]
    simp only [Passage.temporal, results, asks]
    exact ⟨value, asked, .inl carried⟩

end Laws

/-! ## Walks -/

/-- An invariant that accompanies the walk of a call.  The walks to the operands come to what is known
of them, leave the node of the call alone, and spend no random numbers.  The node of the call itself
plays no part in the invariant. -/
structure Attends (store : StoreId) (id : NodeId) (operands : Fin count → Walk Value)
    (values : Fin count → Attempt Value) (invariant : List (Fin count) → World → Prop) : Prop where
  asks : ∀ before position world, invariant before world →
    ∃ after, operands position world = conclude (values position) after ∧
      invariant (before ++ [position]) after ∧
      after.node store id = world.node store id ∧ after.random store = world.random store
  registers : ∀ before state world, invariant before world →
    invariant before (world.setNode store id state)
  writes : ∀ before workspace world, invariant before world →
    invariant before (world.setWorkspace store id workspace)

namespace Attends

variable {store : StoreId} {id : NodeId} {operands : Fin count → Walk Value}
  {values : Fin count → Attempt Value} {invariant : List (Fin count) → World → Prop}

/-- What a call without memory keeps to. -/
theorem plain (attends : Attends store id operands values invariant) (node : NodeState)
    (random : RandomStream) :
    Accompanies operands values (pure () : Walk Unit) (fun _ => pure ()) fun before _ world =>
      invariant before world ∧ world.node store id = node ∧ world.random store = random where
  asks before position _ world holds := by
    rcases attends.asks before position world holds.1 with ⟨after, known, next, kept, spared⟩
    exact ⟨after, known, next, kept.trans holds.2.1, spared.trans holds.2.2⟩
  reads _ _ _ _ := rfl
  writes _ _ _ world holds := ⟨world, rfl, holds⟩

/-- What a call with memory keeps to: its workspace is what the world has of it. -/
theorem temporal (attends : Attends store id operands values invariant) :
    Accompanies operands values (Workspace.read store id) (Workspace.write store id)
      fun before state world =>
        invariant before world ∧ world.node store id = state.node ∧
          world.random store = state.random where
  asks before position state world holds := by
    rcases attends.asks before position world holds.1 with ⟨after, known, next, kept, spared⟩
    exact ⟨after, known, next, kept.trans holds.2.1, spared.trans holds.2.2⟩
  reads before state world holds :=
    (Workspace.read_eq store id world).trans (by rw [holds.2.1, holds.2.2])
  writes before state next world holds :=
    ⟨_, Workspace.write_eq store id next world, attends.writes before next world holds.1,
      World.node_setWorkspace_self _ _ _ _, World.random_setWorkspace _ _ _ _⟩

end Attends

/-- The walk of a call follows its passage, if an invariant attends it. -/
theorem callOperands_passage {context : Context} {name : String} (steady : context.Steady name)
    {id : NodeId} {operands : Fin count → Walk Value} {values : Fin count → Attempt Value}
    {invariant : List (Fin count) → World → Prop}
    (attends : Attends context.store id operands values invariant) {world : World}
    (start : invariant [] world) :
    ∃ after,
      callOperands context id name count operands world =
          conclude (passage context name values (world.node context.store id)).value after ∧
        invariant (passage context name values (world.node context.store id)).asked after ∧
        (after.node context.store id).carried =
          (passage context name values (world.node context.store id)).node.carried ∧
        after.random context.store = world.random context.store := by
  cases form context name count with
  | refused e passes walks =>
    rw [passes, walks]
    exact ⟨world, rfl, start, rfl, rfl⟩
  | plain recipe passes walks =>
    rcases Recipe.follow_eq_run
      (attends.plain (world.node context.store id) (world.random context.store)) recipe [] () world
      ⟨start, rfl, rfl⟩ with ⟨after, followed, holds, kept, spared⟩
    rw [passes, walks]
    exact ⟨after, followed, holds, congrArg NodeState.carried kept, spared⟩
  | temporal f recipe resolved accepted passes walks =>
    have repeats := repeatable (steady.ne_normal resolved) accepted
    rcases Recipe.follow_eq_run attends.temporal (recipe ⟨context.clock, context.options,
        (context.registers (world.node context.store id)).1⟩) []
      ⟨(context.registers (world.node context.store id)).2, world.random context.store⟩ _
      ⟨attends.registers [] (context.registers (world.node context.store id)).2 world start,
        World.node_setNode_self _ _ _ _, World.random_setNode _ _ _ _⟩ with
      ⟨after, followed, holds, kept, spared⟩
    rcases run_of_carried accepted (steady.ne_normal resolved)
      ⟨context.clock, context.options, (context.registers (world.node context.store id)).1⟩ values
      ⟨(context.registers (world.node context.store id)).2, world.random context.store⟩
      ⟨(context.registers (world.node context.store id)).2, ⟨0, 0⟩⟩ rfl with ⟨value, carried, asked⟩
    rcases repeats.keeps
        ⟨context.clock, context.options, (context.registers (world.node context.store id)).1⟩ values
        ⟨(context.registers (world.node context.store id)).2, world.random context.store⟩ with
      ⟨saved, _⟩
    rw [passes, walks]
    rw [value] at followed
    rw [List.nil_append, asked] at holds
    exact ⟨after, followed, holds, (congrArg NodeState.carried kept).trans carried,
      spared.trans saved⟩

end ClockedFormula
