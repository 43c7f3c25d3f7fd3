import ClockedFormula.Proofs.Evaluation.Account
import ClockedFormula.Proofs.Session.Shape

namespace ClockedFormula

/-!
# The course of a session

A host takes one step after the other: it defines formulas and gives them handlers, evaluates, binds, feeds
and resets.  The course of a session is the row of all turns that its steps have brought about so far, of
all calls, the last turn first.

An account that is right about single turns is right about every course.  It begins with the formula: when a
formula is defined, its store comes into use with an empty memory, and before that no call has kept its memory
there.
-/

namespace Session

/-- What a host can do in one step, while formulas in some stores get no handlers for calls, and the turns
that the step brings about. -/
inductive Step (unclaimed : StoreId → Prop) (session : Session) : List Turn → Session → Prop
  | defines {expression : Expr} {draft : FormulaDraft} {defined : Session}
    (consistent : expression.Consistent)
    (unhandled : unclaimed ⟨session.formulas.length⟩ → draft.functionScripts = [])
    (done : session.define? expression draft = some defined) :
    Step unclaimed session [.founds ⟨session.formulas.length⟩] defined
  | handles {index : Nat} {f : Formula} (identifierHandlers functionHandlers : List Handler)
    (found : session.formulas[index]? = some f) (unhandled : unclaimed f.store → functionHandlers = []) :
    Step unclaimed session [] (session.replace index
      { f with identifierHandlers := identifierHandlers, functionHandlers := functionHandlers })
  | rebinds {index : Nat} {f : Formula} (bindings : Bindings)
    (found : session.formulas[index]? = some f)
    (inside : { f with bindings := bindings }.inner ⊆ session.all) :
    Step unclaimed session [] (session.replace index { f with bindings := bindings })
  | clones {f : Formula} (known : f ∈ session.all) :
    Step unclaimed session [] ⟨session.formulas ++ [f], session.world.host f.store⟩
  | evaluates {f : Formula} (depth : Nat) (clock : Clock) (known : f ∈ session.all) :
    Step unclaimed session (f.turnsTo depth clock session.world)
      { session with world := (f.evaluateTo depth clock session.world).2 }
  | feeds {f : Formula} (id : NodeId) (v : Value) (known : f ∈ session.all) :
    Step unclaimed session [.feeds f.store id v]
      (session.modifyMemory f fun memory => memory.inject id v)
  | resets {f : Formula} (id : NodeId) (known : f ∈ session.all) :
    Step unclaimed session [.resets f.store id]
      (session.modifyMemory f fun memory => memory.reset id)
  | resetsAll {f : Formula} (known : f ∈ session.all) :
    Step unclaimed session [.resetsAll f.store] (session.modifyMemory f NodeMemory.resetAll)
  | flags (f : Formula) (cancelled : Bool) :
    Step unclaimed session [] (session.setCancelled f cancelled)
  | collects : Step unclaimed session [] session.collectNotes.2
  /-- The host only looks at something. -/
  | looks : Step unclaimed session [] session

/-- Whether some turns, the last one first, are the course by which a host has come to a session. -/
inductive Course (unclaimed : StoreId → Prop) : List Turn → Session → Prop
  | empty : Course unclaimed [] empty
  | step {past turns : List Turn} {session after : Session} :
      Course unclaimed past session → Step unclaimed session turns after →
        Course unclaimed (turns.reverse ++ past) after

variable {unclaimed : StoreId → Prop} {session after : Session} {past turns : List Turn}

theorem Step.shaped (step : Step unclaimed session turns after) (shaped : session.Shaped unclaimed) :
    after.Shaped unclaimed := by
  cases step with
  | defines consistent unhandled done => exact shaped.define consistent unhandled done
  | @handles index f identifierHandlers functionHandlers found unhandled =>
    have known := mem_all_of_mem (List.mem_of_getElem? found)
    refine shaped.replace known index rfl rfl rfl unhandled ?_
    rw [Formula.inner_eq_innerOfTable]
    exact f.inner_eq_innerOfTable ▸ inner_subset_all known
  | @rebinds index f bindings found inside =>
    have known := mem_all_of_mem (List.mem_of_getElem? found)
    exact shaped.replace known index rfl rfl rfl (shaped.sharing.unhandled f known) inside
  | clones known => exact shaped.clone known
  | evaluates depth clock known => exact shaped.evaluateTo known depth clock
  | feeds id v known => exact shaped.inject known id v
  | resets id known => exact shaped.resetCall known id
  | resetsAll known => exact shaped.resetAll known
  | flags f cancelled => exact shaped.setCancelled f cancelled
  | collects => exact shaped.onWorld shaped.memories
  | looks => exact shaped

theorem Course.shaped (course : Course unclaimed past session) : session.Shaped unclaimed := by
  induction course with
  | empty => exact .empty
  | step _ step shaped => exact step.shaped shaped

/-- Every command is a step. -/
theorem exists_step_of_perform? {index : Nat} {command : Command} {reply : Reply}
    (done : session.perform? index command = some (reply, after)) :
    ∃ turns, Step unclaimed session turns after := by
  rcases effect_of_perform? done with ⟨f, found, effect⟩
  have known := mem_all_of_mem (List.mem_of_getElem? found)
  cases effect with
  | evaluates clock => exact ⟨_, .evaluates depthLimit clock known⟩
  | rebinds bindings inside => exact ⟨_, .rebinds bindings found inside⟩
  | clones => exact ⟨_, .clones known⟩
  | injects id v _ => exact ⟨_, .feeds id v known⟩
  | resets => exact ⟨_, .resetsAll known⟩
  | resetsCall id => exact ⟨_, .resets id known⟩
  | flags cancelled => exact ⟨_, .flags f cancelled⟩
  | nothing => exact ⟨_, .looks⟩

/-- A step brings in no formulas but clones, and one whose store is the next. -/
theorem Step.origin (step : Step unclaimed session turns after) :
    session.formulas.length ≤ after.formulas.length ∧
      ∀ g ∈ after.all, g.store = ⟨session.formulas.length⟩ ∨ ∃ f ∈ session.all,
        g.store = f.store ∧ g.expression = f.expression ∧ g.options = f.options := by
  have same : ∀ g ∈ session.all, g.store = ⟨session.formulas.length⟩ ∨ ∃ f ∈ session.all,
      g.store = f.store ∧ g.expression = f.expression ∧ g.options = f.options :=
    fun g member => .inr ⟨g, member, rfl, rfl, rfl⟩
  cases step with
  | defines consistent unhandled done =>
    rcases define?_eq_some done with ⟨f, store, _, _, _, inside, rfl⟩
    refine ⟨by simp, fun g member => ?_⟩
    rcases mem_all_add inside member with rfl | before
    · exact .inl store
    · exact same g before
  | @handles index f identifierHandlers functionHandlers found unhandled =>
    have known := mem_all_of_mem (List.mem_of_getElem? found)
    refine ⟨Nat.le_of_eq List.length_set.symm, fun g member => ?_⟩
    have inside : Formula.inner { f with
        identifierHandlers := identifierHandlers
        functionHandlers := functionHandlers } ⊆ session.all := by
      rw [Formula.inner_eq_innerOfTable]
      exact f.inner_eq_innerOfTable ▸ inner_subset_all known
    rcases mem_all_replace inside member with rfl | before
    · exact .inr ⟨f, known, rfl, rfl, rfl⟩
    · exact same g before
  | @rebinds index f bindings found inside =>
    refine ⟨Nat.le_of_eq List.length_set.symm, fun g member => ?_⟩
    rcases mem_all_replace inside member with rfl | before
    · exact .inr ⟨f, mem_all_of_mem (List.mem_of_getElem? found), rfl, rfl, rfl⟩
    · exact same g before
  | @clones f known =>
    refine ⟨by simp, fun g member => ?_⟩
    rcases mem_all_add (inner_subset_all known) member with rfl | before
    · exact same g known
    · exact same g before
  | evaluates | feeds | resets | resetsAll | flags | collects | looks => exact ⟨Nat.le_refl _, same⟩

/-! ## Accounts of a course -/

section Accounts

variable {σ : Type} {account : Account σ} {node : SingleCall}

/-- Whether a formula of a session has a call, or the store of the call is not yet in use. -/
def Awaits (session : Session) (node : SingleCall) : Prop :=
  (∃ f ∈ session.all, f.Has node) ∨ session.formulas.length ≤ node.store.number

theorem Awaits.fits (awaits : session.Awaits node) (shaped : session.Shaped unclaimed) :
    ∀ g ∈ session.all, g.store = node.store → g.Has node := by
  intro g known same
  rcases awaits with ⟨f, also, has⟩ | unused
  · exact has.of_sharing shaped.sharing also known same
  · have below := shaped.numbered g known
    rw [same] at below
    exact absurd below (Nat.not_lt.mpr unused)

theorem Step.awaits (step : Step unclaimed session turns after) (awaits : after.Awaits node) :
    session.Awaits node := by
  rcases step.origin with ⟨longer, origin⟩
  rcases awaits with ⟨g, member, has⟩ | unused
  · rcases origin g member with next | ⟨f, known, store, expression, options⟩
    · right
      rw [← has.store, next]
    · exact .inl ⟨f, known, store ▸ has.store, options ▸ has.options, expression ▸ has.member⟩
  · exact .inr (Nat.le_trans longer unused)

/-- Every step continues an account of a call that the session has, or is still to have. -/
theorem Step.continues (right : account.Right node) (step : Step unclaimed session turns after)
    (shaped : session.Shaped unclaimed) (alone : unclaimed node.store) (awaits : session.Awaits node)
    (told : account.TellsUpTo node past session.world) :
    account.TellsUpTo node (turns.reverse ++ past) after.world := by
  cases step with
  | defines consistent unhandled done =>
    rcases define?_eq_some done with ⟨f, _, _, _, _, _, rfl⟩
    refine told.changes (fun _ => Turn.noConfusion) (fun concerns => ?_) fun elsewhere => ?_
    · have here : ⟨session.formulas.length⟩ = node.store := concerns
      rw [World.node, World.node, World.store_host, here, World.store_setStore_self]
      exact right.founds _
    · rw [World.node, World.store_host, World.store_setStore_of_ne _ (Ne.symm elsewhere)]
      rfl
  | handles | rebinds | collects | looks => exact told.of_same rfl
  | clones known => exact told.of_same rfl
  | evaluates depth clock known =>
    have tree : ∀ g ∈ session.all, Bindings.Within session.all g.bindings :=
      fun g member => g.bindings_within.of_subset (inner_subset_all member)
    exact told.evaluateTo right shaped.sharing alone (awaits.fits shaped) tree known depth clock
  | @feeds f id v known =>
    have fed : (session.modifyMemory f fun memory => memory.inject id v).world =
      session.world.setNode f.store id { session.world.node f.store id with injected := some v } := rfl
    rw [fed]
    refine told.changes (fun _ => Turn.noConfusion) (fun concerns => ?_) fun elsewhere => ?_
    · rcases concerns with ⟨store, rfl⟩
      rw [store, World.node_setNode_self]
      exact right.feeds v _
    · rw [World.setNode_eq_setWorkspace]
      exact World.node_setWorkspace_elsewhere (fun same => elsewhere ⟨same.1.symm, same.2.symm⟩) _ _
  | @resets f id known =>
    refine told.changes (fun _ => Turn.noConfusion) (fun concerns => ?_) fun elsewhere => ?_
    · rcases concerns with ⟨store, rfl⟩
      rw [store, World.node, World.node, modifyMemory, World.modifyMemory, store,
        World.store_modifyStore_self, NodeMemory.state_reset_self]
      exact right.resets _
    · rw [World.node, modifyMemory, World.modifyMemory]
      by_cases store : node.store = f.store
      · have distinct : node.id ≠ id := fun same => elsewhere ⟨store.symm, same.symm⟩
        rw [store, World.store_modifyStore_self, NodeMemory.state_reset_of_ne _ distinct]
        rfl
      · rw [World.store_modifyStore_of_ne _ store]
        rfl
  | @resetsAll f known =>
    refine told.changes (fun _ => Turn.noConfusion) (fun concerns => ?_) fun elsewhere => ?_
    · have store : f.store = node.store := concerns
      rw [store, World.node, World.node, modifyMemory, World.modifyMemory, store,
        World.store_modifyStore_self, NodeMemory.state_resetAll]
      exact right.resetsAll _
    · rw [World.node, modifyMemory, World.modifyMemory,
        World.store_modifyStore_of_ne _ (Ne.symm elsewhere)]
      rfl
  | flags f cancelled =>
    refine told.of_same ?_
    have same := (session.world.alike_setCancelled f.store node.store cancelled).memory.symm
    exact congrArg (fun memory => memory.state node.id) same

/-- The course of a session tells the memory of a call that no handler can claim. -/
theorem Course.told (right : account.Right node) (course : Course unclaimed past session)
    (alone : unclaimed node.store) (awaits : session.Awaits node) :
    account.TellsUpTo node past session.world := by
  induction course with
  | empty => exact ⟨rfl, trivial⟩
  | step course step ih =>
    have before := step.awaits awaits
    exact step.continues right course.shaped alone before (ih before)

/-- At every beginning of a call of a formula, the turns up to then tell the memory with which it begins. -/
theorem Course.told_of_begins (right : account.Right node) (course : Course unclaimed past session)
    {f : Formula} (known : f ∈ session.all) (alone : unclaimed f.store) (has : f.Has node)
    {call : Moment} {later earlier : List Turn} (moment : past = later ++ .begins call :: earlier)
    (place : call.At node.store node.id) :
    node.Is call ∧ account.reads call.begun = account.after node (.begins call :: earlier) := by
  subst moment
  rcases (course.told right (has.store ▸ alone) (.inl ⟨f, known, has⟩)).calls.of_mem place with
    ⟨is, memory⟩
  have concerns : Turn.Concerns node.store node.id (.begins call) := place
  refine ⟨is, ?_⟩
  rw [Account.after_of_concerns concerns, ← memory, right.begins is, Moment.begun, place.1, place.2]

/-- An account that tells what the memory of a call holds tells whether the call asks for its argument. -/
theorem Course.gives (right : account.Right node) {held : σ → Option Value}
    (tells : ∀ state, held (account.reads state) = node.function.held? state)
    (course : Course unclaimed past session) {f : Formula} (known : f ∈ session.all)
    (alone : unclaimed f.store) (has : f.Has node) {call : Moment} {later earlier : List Turn}
    (moment : past = later ++ .begins call :: earlier) (place : call.At node.store node.id) :
    match held (account.after node (.begins call :: earlier)) with
    | some v => node.GivesAtOnce call v
    | none => node.GivesArgument call := by
  rcases course.told_of_begins right known alone has moment place with ⟨is, told⟩
  rw [← told, tells]
  exact is.gives

end Accounts

end Session

end ClockedFormula
