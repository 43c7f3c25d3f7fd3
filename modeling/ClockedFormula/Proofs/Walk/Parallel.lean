import ClockedFormula.Proofs.Walk.Congruence

namespace ClockedFormula

open Walk

/-!
# Walks in two worlds

Two walks run in parallel, each in a world of its own, if they end in the same way from all worlds that are
related and leave worlds behind that are related again.  Which worlds are related is up to whoever compares
walks: those that differ in flags or memories that should not count, or those that keep the memory of one
formula in different places.

Whatever the relation is, sequences of parallel walks are parallel, and so are the outcomes for which
handlers ask.
-/

/-- Whether two walks end in the same way from related worlds, and leave related worlds behind. -/
def Walk.Parallel (related : World → World → Prop) {α : Type} (walk other : Walk α) : Prop :=
  ∀ first second, related first second →
    walk.ending first = other.ending second ∧ related (walk.leaves first) (other.leaves second)

namespace Walk.Parallel

variable {related : World → World → Prop} {α β : Type} {walk other : Walk α}

/-- Two single steps. -/
theorem of_ok {a b : World → α} {after last : World → World}
    (done : ∀ world, walk world = .ok (a world) (after world))
    (alsoDone : ∀ world, other world = .ok (b world) (last world))
    (same : ∀ first second, related first second →
      a first = b second ∧ related (after first) (last second)) :
    Parallel related walk other := by
  intro first second alike
  rw [ending_ok (done first), ending_ok (alsoDone second), leaves_ok (done first),
    leaves_ok (alsoDone second)]
  exact ⟨congrArg Except.ok (same first second alike).1, (same first second alike).2⟩

/-- Walks that end as they begin, for any reason. -/
theorem of_conclude {outcome : Attempt α} (known : ∀ world, walk world = conclude outcome world)
    (alsoKnown : ∀ world, other world = conclude outcome world) : Parallel related walk other := by
  intro first second alike
  unfold ending leaves
  rw [known, alsoKnown]
  cases outcome <;> exact ⟨rfl, alike⟩

/-- What two walks come to from related worlds. -/
theorem cases (parallel : Parallel related walk other) {first second : World}
    (alike : related first second) :
    (∃ a after last, walk first = .ok a after ∧ other second = .ok a last ∧ related after last) ∨
      ∃ reason after last, walk first = .error reason after ∧ other second = .error reason last ∧
        related after last := by
  rcases parallel first second alike with ⟨same, kept⟩
  rcases cases_of_ending same with ⟨a, here, there⟩ | ⟨reason, here, there⟩
  · exact .inl ⟨a, _, _, here, there, kept⟩
  · exact .inr ⟨reason, _, _, here, there, kept⟩

theorem bind {next later : α → Walk β} (parallel : Parallel related walk other)
    (rest : ∀ a, Parallel related (next a) (later a)) :
    Parallel related (walk >>= next) (other >>= later) := by
  intro first second alike
  unfold ending leaves
  rcases parallel.cases alike with ⟨a, after, last, here, there, kept⟩ |
    ⟨reason, after, last, here, there, kept⟩
  · rw [bind_ok here, bind_ok there]
    exact rest a after last kept
  · rw [bind_error here, bind_error there]
    exact ⟨rfl, kept⟩

theorem sequential (related : World → World → Prop) : Sequential (Parallel related) where
  yields _ _ _ alike := ⟨rfl, alike⟩
  stops _ _ _ alike := ⟨rfl, alike⟩
  sequences := .bind

theorem catches (related : World → World → Prop) : Relation.Catches (Parallel related) := by
  intro α walk other parallel first second alike
  unfold ending leaves Walk.outcome
  rcases parallel.cases alike with ⟨a, after, last, here, there, kept⟩ |
    ⟨reason, after, last, here, there, kept⟩
  · rw [here, there]
    exact ⟨rfl, kept⟩
  · rw [here, there]
    cases reason <;> exact ⟨rfl, kept⟩

end Walk.Parallel

/-! ## Worlds with the same memories -/

/-- Whether related worlds hold the same memories and random numbers, and are related after the same change
of them. -/
structure World.SharesMemory (related : World → World → Prop) : Prop where
  node : ∀ {first second}, related first second →
    ∀ store id, first.node store id = second.node store id
  random : ∀ {first second}, related first second → ∀ store, first.random store = second.random store
  setWorkspace : ∀ {first second}, related first second → ∀ store id workspace,
    related (first.setWorkspace store id workspace) (second.setWorkspace store id workspace)

namespace World.SharesMemory

variable {related : World → World → Prop} {first second : World}

theorem setNode (shares : SharesMemory related) (alike : related first second) (store : StoreId)
    (id : NodeId) (state : NodeState) :
    related (first.setNode store id state) (second.setNode store id state) := by
  rw [setNode_eq_setWorkspace, setNode_eq_setWorkspace, ← shares.random alike store]
  exact shares.setWorkspace alike store id ⟨state, first.random store⟩

theorem begins (shares : SharesMemory related) (context : Context) (id : NodeId) :
    Parallel related (beginCall context id) (beginCall context id) := by
  apply Parallel.of_ok (beginCall_eq context id) (beginCall_eq context id)
  intro first second alike
  rw [shares.node alike context.store id]
  exact ⟨rfl, shares.setNode alike context.store id _⟩

theorem reads (shares : SharesMemory related) (store : StoreId) (id : NodeId) :
    Parallel related (Workspace.read store id) (Workspace.read store id) := by
  apply Parallel.of_ok (Workspace.read_eq store id) (Workspace.read_eq store id)
  intro first second alike
  rw [shares.node alike store id, shares.random alike store]
  exact ⟨rfl, alike⟩

theorem writes (shares : SharesMemory related) (store : StoreId) (id : NodeId)
    (workspace : Workspace) :
    Parallel related (Workspace.write store id workspace) (Workspace.write store id workspace) :=
  .of_ok (Workspace.write_eq store id workspace) (Workspace.write_eq store id workspace)
    fun _ _ alike => ⟨rfl, shares.setWorkspace alike store id workspace⟩

theorem shows (shares : SharesMemory related) : Relation.Shows (Parallel related) := by
  intro store id
  apply Parallel.of_ok (readouts_eq store id) (readouts_eq store id)
  intro first second alike
  rw [World.readouts_eq_node, World.readouts_eq_node, shares.node alike store id]
  exact ⟨rfl, alike⟩

theorem records (shares : SharesMemory related) (store : StoreId) (id : NodeId) (v : Value) :
    Parallel related (Walk.modifyMemory store fun memory => memory.recordResult id v)
      (Walk.modifyMemory store fun memory => memory.recordResult id v) := by
  apply Parallel.of_ok (recordResult_eq store id v) (recordResult_eq store id v)
  intro first second alike
  rw [shares.node alike store id]
  exact ⟨rfl, shares.setNode alike store id _⟩

end World.SharesMemory

/-! ## Worlds with related memories -/

/-- Whether two worlds are the same but for the memories of calls, which are related call by call. -/
structure World.Alongside (alike : StoreId → NodeId → NodeState → NodeState → Prop)
    (first second : World) : Prop where
  nodes : ∀ store id, alike store id (first.node store id) (second.node store id)
  random : ∀ store, first.random store = second.random store
  cancelled : ∀ store, first.isCancelled store = second.isCancelled store
  hosted : first.hosted = second.hosted
  journal : first.journal = second.journal

namespace World.Alongside

variable {alike : StoreId → NodeId → NodeState → NodeState → Prop} {first second : World}

/-- A change of a store in both worlds, after which its memories are still related. -/
theorem modifyStore (alongside : Alongside alike first second) (store : StoreId)
    {change also : Store → Store}
    (nodes : ∀ id, alike store id ((change (first.store store)).memory.state id)
      ((also (second.store store)).memory.state id))
    (random : (change (first.store store)).random = (also (second.store store)).random)
    (cancelled : (change (first.store store)).cancelled = (also (second.store store)).cancelled) :
    Alongside alike (first.modifyStore store change) (second.modifyStore store also) where
  nodes other id :=
    related_modifyStore
      (motive := fun one two => alike other id (one.memory.state id) (two.memory.state id))
      (alongside.nodes other id) fun itself => itself ▸ nodes id
  random other :=
    related_modifyStore (motive := fun one two => one.random = two.random) (alongside.random other)
      fun _ => random
  cancelled other :=
    related_modifyStore (motive := fun one two => one.cancelled = two.cancelled)
      (alongside.cancelled other) fun _ => cancelled
  hosted := alongside.hosted
  journal := alongside.journal

theorem modifyMemory (alongside : Alongside alike first second) (store : StoreId)
    {change also : NodeMemory → NodeMemory}
    (nodes : ∀ id, alike store id ((change (first.store store).memory).state id)
      ((also (second.store store).memory).state id)) :
    Alongside alike (first.modifyMemory store change) (second.modifyMemory store also) :=
  alongside.modifyStore store nodes (alongside.random store) (alongside.cancelled store)

/-- A call replaces its memory in both worlds. -/
theorem setWorkspace (alongside : Alongside alike first second) (store : StoreId) (id : NodeId)
    {workspace also : Workspace} (node : alike store id workspace.node also.node)
    (random : workspace.random = also.random) :
    Alongside alike (first.setWorkspace store id workspace) (second.setWorkspace store id also) := by
  refine alongside.modifyStore store (fun call => ?_) random (alongside.cancelled store)
  by_cases itself : call = id
  · subst itself
    rw [NodeMemory.state_setState_self, NodeMemory.state_setState_self]
    exact node
  · rw [NodeMemory.state_setState_of_ne _ itself, NodeMemory.state_setState_of_ne _ itself]
    exact alongside.nodes store call

theorem setCancelled (alongside : Alongside alike first second) (store : StoreId) (cancelled : Bool) :
    Alongside alike (first.setCancelled store cancelled) (second.setCancelled store cancelled) :=
  alongside.modifyStore store (alongside.nodes store) (alongside.random store) rfl

theorem cancelAt (alongside : Alongside alike first second) (place : Nat) :
    Alongside alike (first.cancelAt place) (second.cancelAt place) := by
  unfold World.cancelAt
  rw [alongside.hosted]
  cases second.hosted[place]? with
  | none => exact alongside
  | some store => exact alongside.setCancelled store true

theorem addNote (alongside : Alongside alike first second) (note : Note) :
    Alongside alike (first.addNote note) (second.addNote note) :=
  { alongside with journal := congrArg (· ++ [note]) alongside.journal }

theorem host (alongside : Alongside alike first second) (store : StoreId) :
    Alongside alike (first.host store) (second.host store) :=
  { alongside with hosted := congrArg (· ++ [store]) alongside.hosted }

/-- The memory of one call is changed in one of the worlds. -/
theorem of_setNode (same : ∀ store id state, alike store id state state) (world : World)
    {store : StoreId} {id : NodeId} {state : NodeState}
    (changed : alike store id (world.node store id) state) :
    Alongside alike world (world.setNode store id state) where
  nodes other call := by
    by_cases itself : other = store
    · subst itself
      by_cases also : call = id
      · subst also
        rw [World.node_setNode_self]
        exact changed
      · rw [World.node_setNode_of_ne _ _ also]
        exact same _ _ _
    · have elsewhere : (world.setNode store id state).node other call = world.node other call := by
        unfold World.node World.setNode World.modifyMemory
        rw [store_modifyStore_of_ne _ itself]
      rw [elsewhere]
      exact same _ _ _
  random other := by
    by_cases itself : other = store
    · subst itself
      rw [World.random_setNode]
    · unfold World.random World.setNode World.modifyMemory
      rw [store_modifyStore_of_ne _ itself]
  cancelled other := by rw [World.setNode_eq_setWorkspace, World.isCancelled_setWorkspace]
  hosted := rfl
  journal := rfl

/-- What handlers do on their own account is the same in both worlds. -/
theorem asking (root : StoreId) : Asking root (Parallel (Alongside alike)) where
  toSequential := Parallel.sequential _
  checks := .of_ok (isCancelled_eq root) (isCancelled_eq root) fun _ _ alongside =>
    ⟨alongside.cancelled root, alongside⟩
  cancels place := .of_ok (cancel_eq place) (cancel_eq place) fun _ _ alongside =>
    ⟨rfl, alongside.cancelAt place⟩
  notes entry := .of_ok (note_eq entry) (note_eq entry) fun _ _ alongside =>
    ⟨rfl, alongside.addNote entry⟩
  counts label := .of_ok (timesAsked_eq label) (timesAsked_eq label) fun _ _ alongside =>
    ⟨congrArg (List.countP (Note.saysAsked label)) alongside.journal, alongside⟩

/-- Calls show the same in both worlds, if this is so of related memories. -/
theorem shows (same : ∀ {store id one other}, alike store id one other →
      one.lastValue = other.lastValue ∧ one.external = other.external) :
    Relation.Shows (Parallel (Alongside alike)) := by
  intro store id
  apply Parallel.of_ok (readouts_eq store id) (readouts_eq store id)
  intro first second alongside
  obtain ⟨lastValue, external⟩ := same (alongside.nodes store id)
  rw [World.readouts_eq_node, World.readouts_eq_node, lastValue, external]
  exact ⟨rfl, alongside⟩

end World.Alongside

namespace Formula

/-- Parallel walks are parallel evaluations. -/
theorem evaluateTo_parallel {related : World → World → Prop} {depth : Nat} {f g : Formula}
    {clock : Clock}
    (parallel : Parallel related (walk depth (Context.ofFormula f clock) f.expression)
      (walk depth (Context.ofFormula g clock) g.expression))
    {first second : World} (alike : related first second) :
    (f.evaluateTo depth clock first).1 = (g.evaluateTo depth clock second).1 ∧
      related (f.evaluateTo depth clock first).2 (g.evaluateTo depth clock second).2 := by
  unfold evaluateTo
  rcases parallel.cases alike with ⟨v, after, last, here, there, kept⟩ |
    ⟨reason, after, last, here, there, kept⟩
  · rw [here, there]
    exact ⟨rfl, kept⟩
  · rw [here, there]
    cases reason <;> exact ⟨rfl, kept⟩

end Formula

end ClockedFormula
