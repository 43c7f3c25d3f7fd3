import ClockedFormula.Proofs.Evaluation.Indifference
import ClockedFormula.Proofs.Evaluation.Occasion
import ClockedFormula.Proofs.Evaluation.Tracing

namespace ClockedFormula

open Walk

/-!
# Calls that a walk can touch

A walk meets the calls of the formula at which it has begun and of the formulas in its tree of bindings.
Each of them is registered, and notes its result, in the store of the formula in which it stands: that is
where its arguments are evaluated too, even if it is a handler that asks for them.  So no other entry of a
store changes, and a store of other formulas does not change at all.  The same call may stand in several
formulas, and then it has a memory of its own for each of them.

Cancel flags are not confined in this way.  A handler can cancel any formula that the host keeps.
-/

/-- Whether a call of a formula keeps its memory in a store. -/
def Formula.Owns (f : Formula) (store : StoreId) (id : NodeId) : Prop :=
  f.store = store ∧ id ∈ f.expression.calls.map Prod.fst

/-- Whether a formula or one in its tree of bindings keeps the memory of a call in a store. -/
def Formula.Touches (f : Formula) (store : StoreId) (id : NodeId) : Prop :=
  ∃ g ∈ f :: f.inner, g.Owns store id

/-- Whether nothing has changed from one world to another but the memories of the calls that can be
touched, and the random numbers of their stores. -/
structure World.ChangesOnly (touches : StoreId → NodeId → Prop) (first last : World) : Prop where
  entries : ∀ store id, ¬ touches store id →
    (last.store store).memory.get? id = (first.store store).memory.get? id
  stores : ∀ store, (∀ id, ¬ touches store id) → (first.store store).Alike (last.store store)

namespace World.ChangesOnly

variable {touches : StoreId → NodeId → Prop} {first second third : World}

theorem of_alike (alike : ∀ store, (first.store store).Alike (second.store store)) :
    ChangesOnly touches first second where
  entries store id _ := by rw [(alike store).memory]
  stores store _ := alike store

theorem refl (world : World) : ChangesOnly touches world world :=
  of_alike fun _ => .refl _

theorem trans (here : ChangesOnly touches first second) (there : ChangesOnly touches second third) :
    ChangesOnly touches first third where
  entries store id spared := (there.entries store id spared).trans (here.entries store id spared)
  stores store spared := (here.stores store spared).trans (there.stores store spared)

theorem setWorkspace {store : StoreId} {id : NodeId} (own : touches store id) (workspace : Workspace)
    (world : World) : ChangesOnly touches world (world.setWorkspace store id workspace) where
  entries other call spared := by
    unfold World.setWorkspace
    by_cases itself : other = store
    · subst itself
      have distinct : call ≠ id := fun same => spared (same ▸ own)
      rw [store_modifyStore_self]
      exact NodeMemory.get?_setState_of_ne _ distinct _
    · rw [store_modifyStore_of_ne _ itself]
  stores other spared := by
    have distinct : other ≠ store := fun same => spared id (same ▸ own)
    unfold World.setWorkspace
    rw [store_modifyStore_of_ne _ distinct]
    exact .refl _

theorem cancelAt (place : Nat) (world : World) :
    ChangesOnly touches world (world.cancelAt place) := by
  unfold World.cancelAt
  cases world.hosted[place]? with
  | none => exact refl world
  | some id => exact of_alike fun store => world.alike_setCancelled id store true

theorem addNote (note : Note) (world : World) : ChangesOnly touches world (world.addNote note) :=
  of_alike fun _ => .refl _

/-- Handlers change flags and the journal, and nothing else by themselves. -/
theorem handling (root : StoreId) (touches : StoreId → NodeId → Prop) :
    Law.Handling root fun first _ _ last => ChangesOnly touches first last where
  idle := refl
  fails _ := refl
  compose := trans
  cancels := cancelAt
  notes := addNote
  asks handler name world _ := addNote (.asked handler name) world
  declines world _ := refl world
  drops world _ := refl world
  resumes world _ := refl world
  catches kept := kept

end World.ChangesOnly

/-- An evaluation changes only the memories of calls of the formula and of those in its tree of bindings,
each in the store of its formula, and the random numbers of these stores. -/
theorem Formula.evaluateTo_changesOnly (depth : Nat) (f : Formula) (clock : Clock) (world : World) :
    World.ChangesOnly f.Touches world (f.evaluateTo depth clock world).2 := by
  rw [evaluateTo_snd]
  have changes := (World.ChangesOnly.handling f.store f.Touches).closed
    fun _ _ workspace world own => World.ChangesOnly.setWorkspace own workspace world
  refine changes.evaluateTo World.ChangesOnly.refl (fun _ {_ _} kept => kept) ?permitted depth clock
    world
  intro g member application inside
  refine ⟨g, member, rfl, ?_⟩
  rw [Expr.calls_eq_map_applications, List.map_map]
  exact List.mem_map_of_mem inside

/-- An evaluation changes no store but those of the formula and of the formulas in its tree of bindings. -/
theorem Formula.evaluateTo_alike_of_ne (depth : Nat) (f : Formula) (clock : Clock) (world : World)
    {store : StoreId} (others : ∀ g ∈ f :: f.inner, g.store ≠ store) :
    (world.store store).Alike ((f.evaluateTo depth clock world).2.store store) := by
  refine (evaluateTo_changesOnly depth f clock world).stores store fun id => ?_
  rintro ⟨g, member, same, _⟩
  exact others g member same

end ClockedFormula
