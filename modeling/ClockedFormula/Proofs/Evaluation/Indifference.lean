import ClockedFormula.Proofs.Walk.Parallel

namespace ClockedFormula

open Walk

/-!
# Flags that a walk does not look at

Every formula has a cancel flag, which it shares with its clones, but a walk looks at one flag only: that
of the formula at which it has begun.  Two worlds that differ in other flags are alike for the walk.  So
are two worlds of which one host keeps a formula at a place and the other does not, unless it is that
formula: then a handler sets a flag in one world that it does not set in the other.

A walk from one of two such worlds ends as from the other, and leaves worlds behind that are alike again.
-/

/-- Whether two stores hold the same memories and random numbers. -/
structure Store.Alike (first second : Store) : Prop where
  memory : first.memory = second.memory
  random : first.random = second.random

namespace Store.Alike

variable {first second third : Store}

theorem refl (store : Store) : store.Alike store := ⟨rfl, rfl⟩

theorem symm (alike : first.Alike second) : second.Alike first :=
  ⟨alike.memory.symm, alike.random.symm⟩

theorem trans (here : first.Alike second) (there : second.Alike third) : first.Alike third :=
  ⟨here.memory.trans there.memory, here.random.trans there.random⟩

end Store.Alike

/-- A flag does not belong to what a store holds. -/
theorem World.alike_setCancelled (world : World) (id store : StoreId) (cancelled : Bool) :
    (world.store store).Alike ((world.setCancelled id cancelled).store store) := by
  unfold setCancelled
  by_cases itself : store = id
  · subst itself
    rw [store_modifyStore_self]
    exact ⟨rfl, rfl⟩
  · rw [store_modifyStore_of_ne _ itself]
    exact .refl _

/-- Whether two worlds are the same but for the cancel flags of other stores, and for the places where
the host keeps formulas of other stores. -/
structure World.AlikeFor (root : StoreId) (first second : World) : Prop where
  stores : ∀ id, (first.store id).Alike (second.store id)
  cancelled : first.isCancelled root = second.isCancelled root
  hosted : ∀ place : Nat, first.hosted[place]? = some root ↔ second.hosted[place]? = some root
  journal : first.journal = second.journal

namespace World.AlikeFor

variable {root : StoreId} {first second third : World}

theorem refl (root : StoreId) (world : World) : AlikeFor root world world :=
  ⟨fun _ => .refl _, rfl, fun _ => .rfl, rfl⟩

theorem symm (alike : AlikeFor root first second) : AlikeFor root second first where
  stores id := (alike.stores id).symm
  cancelled := alike.cancelled.symm
  hosted place := (alike.hosted place).symm
  journal := alike.journal.symm

theorem trans (here : AlikeFor root first second) (there : AlikeFor root second third) :
    AlikeFor root first third where
  stores id := (here.stores id).trans (there.stores id)
  cancelled := here.cancelled.trans there.cancelled
  hosted place := (here.hosted place).trans (there.hosted place)
  journal := here.journal.trans there.journal

theorem node (alike : AlikeFor root first second) (store : StoreId) (id : NodeId) :
    first.node store id = second.node store id := by
  rw [World.node, World.node, (alike.stores store).memory]

theorem random (alike : AlikeFor root first second) (store : StoreId) :
    first.random store = second.random store :=
  (alike.stores store).random

/-- The same change of a store in both worlds. -/
theorem modifyStore (alike : AlikeFor root first second) (store : StoreId) {change : Store → Store}
    (same : ∀ {one other : Store}, one.Alike other → (change one).Alike (change other))
    (flag : ∀ {one other : Store}, one.cancelled = other.cancelled →
      (change one).cancelled = (change other).cancelled) :
    AlikeFor root (first.modifyStore store change) (second.modifyStore store change) where
  stores id :=
    related_modifyStore (motive := Store.Alike) (alike.stores id) fun _ => same (alike.stores store)
  cancelled := by
    refine related_modifyStore (motive := fun one other => one.cancelled = other.cancelled)
      alike.cancelled fun itself => flag ?_
    rw [← itself]
    exact alike.cancelled
  hosted := alike.hosted
  journal := alike.journal

/-- A flag of another store changes nothing that counts. -/
theorem setCancelled_of_ne (world : World) {id : StoreId} (other : id ≠ root) (cancelled : Bool) :
    AlikeFor root (world.setCancelled id cancelled) world where
  stores store := (world.alike_setCancelled id store cancelled).symm
  cancelled := by
    unfold World.setCancelled isCancelled
    rw [store_modifyStore_of_ne _ other.symm]
  hosted _ := .rfl
  journal := rfl

/-- Cancelling at a place where the host does not keep the formula changes nothing that counts. -/
theorem cancelAt_of_ne (world : World) {place : Nat} (other : world.hosted[place]? ≠ some root) :
    AlikeFor root (world.cancelAt place) world := by
  unfold World.cancelAt
  cases kept : world.hosted[place]? with
  | none => exact refl root world
  | some id =>
    rw [kept] at other
    exact setCancelled_of_ne world (fun same => other (congrArg some same)) true

theorem cancelAt (alike : AlikeFor root first second) (place : Nat) :
    AlikeFor root (first.cancelAt place) (second.cancelAt place) := by
  by_cases itself : first.hosted[place]? = some root
  · have also := (alike.hosted place).mp itself
    unfold World.cancelAt
    rw [itself, also]
    exact alike.modifyStore root (fun same => ⟨same.memory, same.random⟩) fun _ => rfl
  · -- Neither host keeps the root there, so whatever is cancelled does not count.
    have also : second.hosted[place]? ≠ some root := fun kept => itself ((alike.hosted place).mpr kept)
    exact ((cancelAt_of_ne first itself).trans alike).trans (cancelAt_of_ne second also).symm

theorem addNote (alike : AlikeFor root first second) (note : Note) :
    AlikeFor root (first.addNote note) (second.addNote note) where
  stores := alike.stores
  cancelled := alike.cancelled
  hosted := alike.hosted
  journal := by
    unfold World.addNote
    rw [alike.journal]

theorem setWorkspace (alike : AlikeFor root first second) (store : StoreId) (id : NodeId)
    (workspace : Workspace) :
    AlikeFor root (first.setWorkspace store id workspace) (second.setWorkspace store id workspace) := by
  refine alike.modifyStore store (fun same => ?_) fun same => same
  exact ⟨congrArg (fun memory => memory.setState id workspace.node) same.memory, rfl⟩

theorem sharesMemory (root : StoreId) : SharesMemory (AlikeFor root) where
  node := node
  random := random
  setWorkspace := setWorkspace

end World.AlikeFor

/-! ## Walks in worlds that are alike -/

namespace Walk.AlikeFor

/-- No single step looks at a flag that is not that of the root. -/
theorem congruence (root : StoreId) : Congruence root (Parallel (World.AlikeFor root)) where
  toSequential := Parallel.sequential _
  calls asks context id name :=
    (Parallel.sequential _).callOperands asks context id name
      ((World.AlikeFor.sharesMemory root).begins context id)
      ((World.AlikeFor.sharesMemory root).reads context.store id)
      ((World.AlikeFor.sharesMemory root).writes context.store id)
  records := (World.AlikeFor.sharesMemory root).records
  checks := .of_ok (isCancelled_eq root) (isCancelled_eq root) fun _ _ alike =>
    ⟨alike.cancelled, alike⟩
  cancels place := .of_ok (cancel_eq place) (cancel_eq place) fun _ _ alike =>
    ⟨rfl, alike.cancelAt place⟩
  notes entry := .of_ok (note_eq entry) (note_eq entry) fun _ _ alike => ⟨rfl, alike.addNote entry⟩
  counts label := .of_ok (timesAsked_eq label) (timesAsked_eq label) fun _ _ alike =>
    ⟨congrArg (List.countP (Note.saysAsked label)) alike.journal, alike⟩
  shows := (World.AlikeFor.sharesMemory root).shows

end Walk.AlikeFor

/-- A walk looks at no cancel flag but that of its root. -/
theorem walk_alike (depth : Nat) (context : Context) (e : Expr) :
    Parallel (World.AlikeFor context.root) (walk depth context e) (walk depth context e) :=
  (AlikeFor.congruence context.root).walk (Parallel.catches _) rfl depth e

end ClockedFormula
