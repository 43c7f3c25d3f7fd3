import ClockedFormula.Proofs.Evaluation.Indifference
import ClockedFormula.Proofs.Evaluation.Occasion
import ClockedFormula.Proofs.Function.Shape

namespace ClockedFormula

open Walk

/-!
# Evaluations keep the shape of memories

The memory of a call belongs to one function if the formulas that keep it in their store agree on what the
call is.  Clones do: they have their expression and their options in common.  An evaluation then keeps the
shape of all memories, whichever of the formulas it opens, and in whatever way handlers reach a call.

While a call is at work its own memory may be out of shape, and so may be what is found there by whoever
follows the recipe.  All other memories are in shape at any time.  Operands are evaluated only when the
memory of the call is in shape too, and so they need not know of the call.
-/

namespace Formula

/-- Whether a call of a formula is a call of a function with memory. -/
def Calls (f : Formula) (id : NodeId) (function : TemporalFunction) : Prop :=
  ∃ name, (id, name) ∈ f.expression.calls ∧
    Function.resolve name f.options.ignoreCase = .ok (.temporal function)

/-- A call of a consistent expression has one name. -/
theorem name_eq_of_mem_calls {f : Formula} (consistent : f.expression.Consistent) {id : NodeId}
    {first second : String} (here : (id, first) ∈ f.expression.calls)
    (there : (id, second) ∈ f.expression.calls) : first = second := by
  rw [Expr.calls_eq_map_applications] at here there
  rcases List.mem_map.mp here with ⟨one, inOne, isOne⟩
  rcases List.mem_map.mp there with ⟨other, inOther, isOther⟩
  have same : one.id = other.id :=
    (congrArg Prod.fst isOne).trans (congrArg Prod.fst isOther).symm
  have whole := consistent one inOne other inOther same
  subst whole
  exact (congrArg Prod.snd isOne).symm.trans (congrArg Prod.snd isOther)

/-- What a call of a consistent expression is called by determines the function. -/
theorem Calls.eq_of_mem {f : Formula} (consistent : f.expression.Consistent) {id : NodeId}
    {name : String} {function : TemporalFunction} (calls : f.Calls id function)
    (member : (id, name) ∈ f.expression.calls) :
    Function.resolve name f.options.ignoreCase = .ok (.temporal function) := by
  rcases calls with ⟨other, present, resolved⟩
  rwa [name_eq_of_mem_calls consistent member present]

/-- Whether formulas that have a store in common are clones, as far as this matters to the memory of calls.
The formulas of some stores have no handlers for calls. -/
structure Sharing (all : List Formula) (unclaimed : StoreId → Prop) : Prop where
  single : ∀ f ∈ all, ∀ g ∈ all, f.store = g.store →
    f.expression = g.expression ∧ f.options = g.options
  consistent : ∀ f ∈ all, f.expression.Consistent
  unhandled : ∀ f ∈ all, unclaimed f.store → f.functionHandlers = []

theorem Sharing.calls_eq {all : List Formula} {unclaimed : StoreId → Prop}
    (sharing : Sharing all unclaimed) {f g : Formula} (known : f ∈ all) (also : g ∈ all)
    (same : f.store = g.store) : f.Calls = g.Calls := by
  rcases sharing.single f known g also same with ⟨expression, options⟩
  funext id function
  rw [Calls, Calls, expression, options]

end Formula

open Formula (Sharing)

namespace World

variable {all : List Formula} {unclaimed : StoreId → Prop} {world : World} {g : Formula} {id : NodeId}

/-- What the recipe of a call finds when it looks at its state. -/
def workspace (world : World) (store : StoreId) (id : NodeId) : Workspace :=
  ⟨world.node store id, world.random store⟩

theorem workspace_setWorkspace (world : World) (store : StoreId) (id : NodeId) (workspace : Workspace) :
    (world.setWorkspace store id workspace).workspace store id = workspace := by
  rw [World.workspace, node_setWorkspace_self, random_setWorkspace]

/-- Whether the memories of the calls of some formulas are in shape. -/
def Shaped (all : List Formula) (unclaimed : StoreId → Prop) (world : World) : Prop :=
  ∀ f ∈ all, ∀ id, (world.node f.store id).Shaped (f.Calls id) (unclaimed f.store)

/-- Whether a workspace is that of a call, and all memories but that of the call are in shape. -/
structure ShapedAround (all : List Formula) (unclaimed : StoreId → Prop) (store : StoreId) (id : NodeId)
    (workspace : Workspace) (world : World) : Prop where
  located : world.workspace store id = workspace
  others : ∀ f ∈ all, ∀ other, ¬ (f.store = store ∧ other = id) →
    (world.node f.store other).Shaped (f.Calls other) (unclaimed f.store)

theorem node_setWorkspace_elsewhere {store place : StoreId} {other : NodeId}
    (elsewhere : ¬ (place = store ∧ other = id)) (workspace : Workspace) (world : World) :
    (world.setWorkspace store id workspace).node place other = world.node place other := by
  by_cases same : place = store
  · subst same
    exact node_setWorkspace_of_ne world place (fun itself => elsewhere ⟨rfl, itself⟩) workspace
  · rw [node, setWorkspace, store_modifyStore_of_ne _ same]
    rfl

theorem Shaped.around (shaped : world.Shaped all unclaimed) (store : StoreId) (id : NodeId) :
    world.ShapedAround all unclaimed store id (world.workspace store id) :=
  ⟨rfl, fun f known other _ => shaped f known other⟩

namespace ShapedAround

variable {workspace : Workspace}

theorem write (around : world.ShapedAround all unclaimed g.store id workspace) (written : Workspace) :
    (world.setWorkspace g.store id written).ShapedAround all unclaimed g.store id written where
  located := workspace_setWorkspace world g.store id written
  others f known other elsewhere := by
    rw [node_setWorkspace_elsewhere elsewhere]
    exact around.others f known other elsewhere

/-- All memories are in shape once that of the call is. -/
theorem shaped (around : world.ShapedAround all unclaimed g.store id workspace)
    (sharing : Sharing all unclaimed) (known : g ∈ all)
    (holds : workspace.node.Shaped (g.Calls id) (unclaimed g.store)) :
    world.Shaped all unclaimed := by
  intro f also other
  by_cases itself : f.store = g.store ∧ other = id
  · rcases itself with ⟨same, rfl⟩
    rw [same, sharing.calls_eq also known same]
    have found : world.node g.store other = workspace.node := congrArg Workspace.node around.located
    rwa [found]
  · exact around.others f also other itself

end ShapedAround

theorem Shaped.setWorkspace (shaped : world.Shaped all unclaimed) (sharing : Sharing all unclaimed)
    (known : g ∈ all) {workspace : Workspace}
    (holds : workspace.node.Shaped (g.Calls id) (unclaimed g.store)) :
    (world.setWorkspace g.store id workspace).Shaped all unclaimed :=
  ((shaped.around g.store id).write workspace).shaped sharing known holds

theorem Shaped.cancelAt (place : Nat) (world : World) (shaped : world.Shaped all unclaimed) :
    (world.cancelAt place).Shaped all unclaimed := by
  unfold World.cancelAt
  cases world.hosted[place]? with
  | none => exact shaped
  | some store =>
    intro f known id
    change ((((world.setCancelled store true).store f.store).memory).state id).Shaped _ _
    rw [← (world.alike_setCancelled store f.store true).memory]
    exact shaped f known id

theorem Shaped.addNote (note : Note) (world : World) (shaped : world.Shaped all unclaimed) :
    (world.addNote note).Shaped all unclaimed := shaped

end World

/-! ## Calls -/

/-- A recipe that is followed in the workspace of a call ends there as its contract says, if the operands keep
what the contract says of the memory of the call. -/
theorem Recipe.Meets.follow_workspace {α : Type} {count : Nat} {operands : Fin count → Walk Value}
    {kept : NodeState → Prop} {after : α → Workspace → Prop} {recipe : Recipe Workspace count α}
    {store : StoreId} {id : NodeId} {world : World}
    (meets : recipe.Meets (Workspace.Remembers kept) after (world.workspace store id))
    (asks : ∀ position world, kept (world.node store id) →
      kept (((operands position).leaves world).node store id)) :
    (recipe.follow operands (Workspace.read store id) (Workspace.write store id)).EndsIn world
      (fun a last => after a (last.workspace store id)) fun last => kept (last.node store id) := by
  have waits : ∀ position workspace world, world.workspace store id = workspace →
      workspace.Remembers kept →
      ∃ other, ((operands position).leaves world).workspace store id = other ∧
        other.Remembers kept := by
    rintro position _ world rfl holds
    exact ⟨_, rfl, asks position world holds⟩
  have reads : ∀ workspace world, world.workspace store id = workspace →
      Workspace.read store id world = .ok workspace world := by
    rintro _ world rfl
    exact Workspace.read_eq store id world
  have writes : ∀ workspace written world, world.workspace store id = workspace →
      ∃ last, Workspace.write store id written world = .ok () last ∧
        last.workspace store id = written :=
    fun _ written world _ => ⟨_, Workspace.write_eq store id written world,
      World.workspace_setWorkspace world store id written⟩
  refine (meets.follow waits reads writes rfl).mono ?_ ?_
  · rintro a last ⟨_, rfl, holds⟩
    exact holds
  · rintro last ⟨_, rfl, holds⟩
    exact holds

/-- Whether a context is that of a formula, as far as this matters to the memory of calls. -/
structure Context.Of (g : Formula) (context : Context) : Prop where
  store : context.store = g.store
  options : context.options = g.options
  functionHandlers : context.functionHandlers = g.functionHandlers

section Calls

variable {all : List Formula} {unclaimed : StoreId → Prop} {g : Formula} {context : Context}
  {id : NodeId} {name : String} {count : Nat} {operands : Fin count → Walk Value} {world : World}

/-- Whether all memories are in shape once a result of a call is noted. -/
def World.ShapedByNoting (all : List Formula) (unclaimed : StoreId → Prop) (store : StoreId)
    (id : NodeId) (v : Value) (world : World) : Prop :=
  (world.setNode store id ((world.node store id).record v)).Shaped all unclaimed

theorem World.Shaped.byNoting (shaped : world.Shaped all unclaimed) (sharing : Sharing all unclaimed)
    (known : g ∈ all)
    (hides : unclaimed g.store → ¬ g.Calls id .value ∧ ¬ g.Calls id .externalUpdate) (v : Value) :
    world.ShapedByNoting all unclaimed g.store id v := by
  rw [World.ShapedByNoting, World.setNode_eq_setWorkspace]
  exact shaped.setWorkspace sharing known ((shaped g known id).record hides v)

/-- A function with memory leaves its own memory in shape once its result is noted. -/
theorem followWorkspace_endsIn (sharing : Sharing all unclaimed) (known : g ∈ all)
    (asks : ∀ position, (operands position).Preserves (World.Shaped all unclaimed))
    {recipe : Recipe Workspace count Value} 
    (meets : recipe.Meets (Workspace.Remembers (NodeState.Shaped (g.Calls id) (unclaimed g.store)))
      (fun v other => (other.node.record v).Shaped (g.Calls id) (unclaimed g.store))
      (world.workspace g.store id))
    (shaped : world.Shaped all unclaimed) :
    (recipe.follow operands (Workspace.read g.store id) (Workspace.write g.store id)).EndsIn world
      (World.ShapedByNoting all unclaimed g.store id) (World.Shaped all unclaimed) := by
  have waits : ∀ position workspace world,
      World.ShapedAround all unclaimed g.store id workspace world →
      workspace.Remembers (NodeState.Shaped (g.Calls id) (unclaimed g.store)) →
      ∃ other, World.ShapedAround all unclaimed g.store id other ((operands position).leaves world) ∧
        other.Remembers (NodeState.Shaped (g.Calls id) (unclaimed g.store)) := by
    intro position workspace world around holds
    have kept := asks position world (around.shaped sharing known holds)
    exact ⟨_, kept.around g.store id, kept g known id⟩
  have reads : ∀ workspace world, World.ShapedAround all unclaimed g.store id workspace world →
      Workspace.read g.store id world = .ok workspace world := by
    intro workspace world around
    rw [← around.located]
    exact Workspace.read_eq g.store id world
  have writes : ∀ workspace written world,
      World.ShapedAround all unclaimed g.store id workspace world →
      ∃ last, Workspace.write g.store id written world = .ok () last ∧
        World.ShapedAround all unclaimed g.store id written last :=
    fun _ written world around =>
      ⟨_, Workspace.write_eq g.store id written world, around.write written⟩
  refine (meets.follow waits reads writes (shaped.around g.store id)).mono ?_ ?_
  · rintro v after ⟨workspace, around, noted⟩
    have found : after.node g.store id = workspace.node := congrArg Workspace.node around.located
    rw [World.ShapedByNoting, World.setNode_eq_setWorkspace, found]
    exact (around.write _).shaped sharing known noted
  · rintro after ⟨workspace, around, holds⟩
    exact around.shaped sharing known holds

/-- A call of a built-in function leaves all memories in shape once its result is noted. -/
theorem callOperands_endsIn (sharing : Sharing all unclaimed) (known : g ∈ all) (of : context.Of g)
    (member : (id, name) ∈ g.expression.calls)
    (asks : ∀ position, (operands position).Preserves (World.Shaped all unclaimed))
    (shaped : world.Shaped all unclaimed) :
    (callOperands context id name count operands).EndsIn world
      (World.ShapedByNoting all unclaimed g.store id) (World.Shaped all unclaimed) := by
  have fails : ∀ e, (Walk.fail e : Walk Value).EndsIn world
      (World.ShapedByNoting all unclaimed g.store id) (World.Shaped all unclaimed) := fun _ => shaped
  have single : ∀ f, g.Calls id f →
      Function.resolve name context.options.ignoreCase = .ok (.temporal f) := by
    intro f called
    rw [of.options]
    exact called.eq_of_mem (sharing.consistent g known) member
  cases resolved : Function.resolve name context.options.ignoreCase with
  | error e =>
    rw [callOperands_unresolved resolved]
    exact fails e
  | ok f =>
    rw [resolved] at single
    cases f with
    | math f =>
      rw [callOperands_math resolved]
      cases f.recipe? context.options.roundAwayFromZero count with
      | none => exact fails _
      | some recipe =>
        refine ((Preserves.followPlain asks recipe).endsIn shaped).mono (fun v after still => ?_) fun _ still => still
        have hides : ¬ g.Calls id .value ∧ ¬ g.Calls id .externalUpdate :=
          ⟨fun also => (nomatch single _ also), fun also => (nomatch single _ also)⟩
        exact still.byNoting sharing known (fun _ => hides) v
    | temporal f =>
      have called : g.Calls id f := ⟨name, member, of.options ▸ resolved⟩
      rw [callOperands_registered resolved]
      cases accepted : f.recipe? count with
      | none => exact fails _
      | some recipe =>
        have begun : (beginCall context id).EndsIn world (fun _ => World.Shaped all unclaimed)
            (World.Shaped all unclaimed) := by
          refine .of_ok (beginCall_eq context id world) ?_
          rw [World.setNode_eq_setWorkspace, of.store]
          exact shaped.setWorkspace sharing known ((shaped g known id).beginCall called _ _)
        refine begun.bind fun progress after still => ?_
        have alone : ∀ other, g.Calls id other → other = f := fun other also =>
          (Function.temporal.inj (Except.ok.inj (single other also))).symm
        rw [of.store]
        exact followWorkspace_endsIn sharing known asks
          (TemporalFunction.recipe_meets accepted called (fun _ => alone) _ (still g known id)) still

/-- A call that smooths comes to the last of the stages that it leaves in its memory, and there is one. -/
theorem callFunction_smoothing {arguments : List Argument} {f : TemporalFunction}
    (resolved : Function.resolve name context.options.ignoreCase = .ok (.temporal f))
    (smoothing : f = .smooth1 ∨ f = .smooth3 ∨ f = .smoothN) {after : World} {v : Value}
    (done : callFunction context id name arguments world = .ok v after) :
    ∃ levels last, (after.node context.store id).temporal = .stages levels ∧
      levels.getLast? = some last ∧ v = .float last := by
  rw [callFunction_eq_callOperands rfl, callOperands_registered resolved] at done
  cases accepted : f.recipe? arguments.length with
  | none =>
    rw [accepted] at done
    cases done
  | some recipe =>
    rw [accepted] at done
    rcases bind_eq_ok done with ⟨progress, middle, _, followed⟩
    have meets := TemporalFunction.smoothing_meets smoothing accepted
      ⟨context.clock, context.options, progress⟩ (middle.workspace context.store id)
    rcases (meets.follow_workspace fun _ _ _ => trivial).ok followed with
      ⟨levels, last, temporal, _, behind, value⟩
    exact ⟨levels, last, temporal, behind, value⟩

/-- Handlers that claim a call leave the memory of the call in shape, if handlers may claim it. -/
theorem evaluateCall_preserves (sharing : Sharing all unclaimed) (known : g ∈ all)
    (of : context.Of g) {arguments : List Argument} (member : (id, name) ∈ g.expression.calls)
    (asks : ∀ argument ∈ arguments, argument.value.Preserves (World.Shaped all unclaimed)) :
    (evaluateCall context id name arguments).Preserves (World.Shaped all unclaimed) := by
  have notes : ∀ v world, world.ShapedByNoting all unclaimed g.store id v →
      (Walk.modifyMemory context.store (fun memory => memory.recordResult id v) >>= fun _ =>
        (pure v : Walk Value)).EndsIn world (fun _ => World.Shaped all unclaimed)
        (World.Shaped all unclaimed) := by
    intro v world noted
    rw [of.store]
    exact noted
  have called : ∀ world, world.Shaped all unclaimed →
      (callFunction context id name arguments >>= fun v =>
        Walk.modifyMemory context.store (fun memory => memory.recordResult id v) >>= fun _ =>
          pure v).EndsIn world (fun _ => World.Shaped all unclaimed) (World.Shaped all unclaimed) := by
    intro world shaped
    rw [callFunction_eq_callOperands rfl]
    exact (callOperands_endsIn sharing known of member
      (fun position => asks _ (List.get_mem arguments position)) shaped).bind notes
  intro world shaped
  apply EndsIn.leaves
  unfold evaluateCall
  by_cases alone : unclaimed g.store
  · have nobody : context.functionHandlers = [] :=
      of.functionHandlers.trans (sharing.unhandled g known alone)
    rw [nobody]
    exact called world shaped
  · have consulted := Preserves.consult World.Shaped.cancelAt World.Shaped.addNote asks context
      context.functionHandlers (context.foldName name)
    refine (consulted.endsIn shaped).bind fun claimed after still => ?_
    cases claimed with
    | some v => exact notes v after (still.byNoting sharing known (fun also => absurd also alone) v)
    | none => exact called after still

end Calls

/-! ## Expressions and formulas -/

section Evaluations

variable {all : List Formula} {unclaimed : StoreId → Prop} {g : Formula} {context : Context}

theorem evaluate_preserves {enter : Context → Formula → Walk Value} (sharing : Sharing all unclaimed)
    (known : g ∈ all) (of : context.Of g)
    (enters : ∀ name f, context.find? name = some (.formula f) →
      (enter context f).Preserves (World.Shaped all unclaimed)) {e : Expr}
    (own : e.applications ⊆ g.expression.applications) :
    (evaluate enter context e).Preserves (World.Shaped all unclaimed) := by
  have sequential := Preserves.sequential (World.Shaped all unclaimed)
  refine sequential.evaluate ?names ?calls
  case names =>
    intro name
    refine Preserves.evaluateIdentifier (enters name) ?_
    exact Preserves.consult World.Shaped.cancelAt World.Shaped.addNote
      (fun _ member => absurd member List.not_mem_nil) _ _ _
  case calls =>
    intro application inside arguments
    refine evaluateCall_preserves sharing known of ?_ ?_
    · rw [Expr.calls_eq_map_applications]
      exact List.mem_map_of_mem (own inside)
    · intro argument member
      rw [delay_eq_map] at member
      rcases List.mem_map.mp member with ⟨e, present, rfl⟩
      exact arguments e present

/-- An evaluation keeps the shape of all memories, as long as it opens no other formulas. -/
theorem walk_preserves (sharing : Sharing all unclaimed)
    (tree : ∀ f ∈ all, Bindings.Within all f.bindings) (known : g ∈ all) (of : context.Of g)
    (within : Bindings.Within all context.bindings) (depth : Nat) :
    (walk depth context g.expression).Preserves (World.Shaped all unclaimed) := by
  induction depth generalizing g context with
  | zero => exact (Preserves.sequential (World.Shaped all unclaimed)).stops .exhausted
  | succ depth ih =>
    refine evaluate_preserves sharing known of (fun name f found => ?_) (List.Subset.refl _)
    have bound : f ∈ all := within.find? found
    exact ih bound ⟨rfl, rfl, rfl⟩ ((tree f bound).overlay within)

theorem Formula.evaluateTo_shaped (sharing : Sharing all unclaimed)
    (tree : ∀ f ∈ all, Bindings.Within all f.bindings) (known : g ∈ all) (depth : Nat)
    (clock : Clock) {world : World} (shaped : world.Shaped all unclaimed) :
    (g.evaluateTo depth clock world).2.Shaped all unclaimed := by
  rw [evaluateTo_snd]
  exact walk_preserves sharing tree known ⟨rfl, rfl, rfl⟩ (tree g known) depth world shaped

end Evaluations

end ClockedFormula
