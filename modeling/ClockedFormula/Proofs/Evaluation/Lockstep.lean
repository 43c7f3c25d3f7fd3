import ClockedFormula.Proofs.Evaluation.Indifference
import ClockedFormula.Proofs.Evaluation.Occasion
import ClockedFormula.Proofs.Evaluation.Tracing

namespace ClockedFormula

open Walk

/-!
# Walks up to the first handler

A walk that is cancelled before it begins does the same as if it were not, until a handler is to be asked.
The flag is looked at nowhere else.  So a cancelled walk in which no handler would be asked comes to its
value, and any other one fails there and then: it leaves the memories and the random numbers as the walk
would have them if it were going on, at the moment at which it asks its first handler.

The two walks are compared step by step, in two worlds that hold the same memories and random numbers.  In
one of them the flag of the walk is set, in the other one it is not.
-/

/-- Whether something happens without any handler. -/
def Happening.isQuiet : Happening → Bool
  | opens _ => true
  | asks _ _ => false
  | declines => true
  | suspends => false
  | resumes => false
  | notes _ => false

/-- Whether a handler is asked. -/
def Event.asksHandler (event : Event) : Bool :=
  match event.happening with
  | .asks _ _ => true
  | _ => false

/-- Whether two worlds hold the same memories and random numbers, but a flag is set only in the second. -/
structure World.FlagApart (root : StoreId) (first second : World) : Prop where
  stores : ∀ id, (first.store id).Alike (second.store id)
  going : first.isCancelled root = false
  cancelled : second.isCancelled root = true

namespace World.FlagApart

variable {root : StoreId} {first second : World}

theorem node (apart : FlagApart root first second) (store : StoreId) (id : NodeId) :
    first.node store id = second.node store id := by
  rw [World.node, World.node, (apart.stores store).memory]

theorem random (apart : FlagApart root first second) (store : StoreId) :
    first.random store = second.random store :=
  (apart.stores store).random

/-- The same change of a call in both worlds. -/
theorem setWorkspace (apart : FlagApart root first second) (store : StoreId) (id : NodeId)
    (workspace : Workspace) :
    FlagApart root (first.setWorkspace store id workspace)
      (second.setWorkspace store id workspace) where
  stores other := by
    refine related_modifyStore (motive := Store.Alike) (apart.stores other) fun _ => ⟨?_, rfl⟩
    exact congrArg (fun memory => memory.setState id workspace.node) (apart.stores store).memory
  going := (isCancelled_setWorkspace first store id workspace).trans apart.going
  cancelled := (isCancelled_setWorkspace second store id workspace).trans apart.cancelled

theorem sharesMemory (root : StoreId) : SharesMemory (FlagApart root) where
  node := node
  random := random
  setWorkspace := setWorkspace

end World.FlagApart

/-! ## Two walks in lockstep -/

/-- What can be said of a walk in two such worlds: in the cancelled one no handler takes part, and it goes on
like the other one up to the first handler. -/
structure Walk.Lockstep (root : StoreId) {α : Type} (walk : Walk α) (events : World → List Event)
    (first second : World) : Prop where
  quiet : ∀ event ∈ events second, event.happening.isQuiet = true
  unasked : (events first).find? Event.asksHandler = none →
    walk.ending first = walk.ending second ∧
      (walk.leaves first).FlagApart root (walk.leaves second)
  asked : ∀ event, (events first).find? Event.asksHandler = some event →
    walk.ending second = .error (.failed .cancelled) ∧
      ∀ id, (event.world.store id).Alike ((walk.leaves second).store id)

/-- The same from all pairs of worlds. -/
def Walk.Lockstepped (root : StoreId) : Tracing := fun walk events =>
  ∀ first second, World.FlagApart root first second → Lockstep root walk events first second

namespace Walk.Lockstepped

variable {root : StoreId} {α β : Type} {walk : Walk α} {events : World → List Event}

/-- A walk without events that does the same in both worlds. -/
theorem of_parallel (parallel : Parallel (World.FlagApart root) walk walk) :
    Lockstepped root walk fun _ => [] := by
  intro first second apart
  refine ⟨fun event member => absurd member List.not_mem_nil, fun _ => parallel first second apart,
    fun event asked => ?_⟩
  cases asked

theorem bind (lockstepped : Lockstepped root walk events) {next : α → Walk β}
    {later : α → World → List Event} (rest : ∀ a, Lockstepped root (next a) (later a)) :
    Lockstepped root (walk >>= next) (inSequence walk events later) := by
  intro first second apart
  have here := lockstepped first second apart
  cases found : (events first).find? Event.asksHandler with
  | some event =>
    rcases here.asked event found with ⟨cancelled, stores⟩
    have stopped := eq_error_of_ending cancelled
    have ended := bind_error stopped next
    refine ⟨fun other member => ?_, fun unasked => ?_, fun other asked => ?_⟩
    · simp only [inSequence, stopped, List.append_nil] at member
      exact here.quiet other member
    · rw [inSequence, List.find?_append, found] at unasked
      cases unasked
    · rw [inSequence, List.find?_append, found] at asked
      cases asked
      unfold ending leaves
      rw [ended]
      exact ⟨rfl, stores⟩
  | none =>
    rcases here.unasked found with ⟨same, apartAfter⟩
    rcases cases_of_ending same with ⟨a, done, alsoDone⟩ | ⟨reason, stopped, alsoStopped⟩
    · have there := rest a _ _ apartAfter
      have asks : (inSequence walk events later first).find? Event.asksHandler =
          (later a (walk.leaves first)).find? Event.asksHandler := by
        rw [inSequence, List.find?_append, found, done]
        rfl
      refine ⟨fun event member => ?_, fun unasked => ?_, fun event asked => ?_⟩
      · rw [inSequence, alsoDone] at member
        rcases List.mem_append.mp member with early | late
        · exact here.quiet event early
        · exact there.quiet event late
      · unfold ending leaves
        rw [bind_ok done next, bind_ok alsoDone next]
        exact there.unasked (asks.symm.trans unasked)
      · unfold ending leaves
        rw [bind_ok alsoDone next]
        exact there.asked event (asks.symm.trans asked)
    · have asks : (inSequence walk events later first).find? Event.asksHandler = none := by
        rw [inSequence, List.find?_append, found, stopped]
        rfl
      refine ⟨fun event member => ?_, fun _ => ?_, fun event asked => ?_⟩
      · rw [inSequence, alsoStopped, List.append_nil] at member
        exact here.quiet event member
      · unfold ending
        rw [leaves_error (bind_error stopped next), leaves_error (bind_error alsoStopped next),
          bind_error stopped next, bind_error alsoStopped next]
        exact ⟨rfl, apartAfter⟩
      · rw [asks] at asked
        cases asked

/-- No handler is asked in the cancelled world, and the first one is asked at once in the other. -/
theorem consults (context : Context) (handlers : List Handler) (name : String)
    (arguments : List Argument) (inner : Nat → World → List Event) :
    Lockstepped context.root (consult context handlers name arguments)
      (consultEvents context name arguments inner handlers none) := by
  cases handlers with
  | nil => exact of_parallel ((Parallel.sequential _).yields none)
  | cons handler rest =>
    intro first second apart
    have declined : consult context (handler :: rest) name arguments second =
        .error (.failed .cancelled) second :=
      consult.ask_of_cancelled apart.cancelled handler rest none
    refine ⟨fun event member => ?_, fun unasked => ?_, fun event asked => ?_⟩
    · rw [consultEvents, if_pos apart.cancelled] at member
      rw [List.mem_singleton.mp member]
      rfl
    · rw [consultEvents, apart.going] at unasked
      cases unasked
    · rw [consultEvents, apart.going] at asked
      cases asked
      unfold ending leaves
      rw [declined]
      exact ⟨rfl, apart.stores⟩

/-- Opening a formula is not asking a handler. -/
theorem opens (lockstepped : Lockstepped root walk events) (f : Formula) :
    Lockstepped root walk fun world =>
      .outside world (.opens f) :: (events world).map (.insideFormula f) := by
  intro first second apart
  have here := lockstepped first second apart
  have opening : ¬ (Event.outside first (.opens f)).asksHandler = true := nofun
  have asks : ((.outside first (.opens f) :: (events first).map (.insideFormula f)) :
        List Event).find? Event.asksHandler =
      ((events first).find? Event.asksHandler).map (.insideFormula f) := by
    rw [List.find?_cons_of_neg opening, List.find?_map]
    rfl
  refine ⟨fun event member => ?_, fun unasked => ?_, fun event asked => ?_⟩
  · rcases List.mem_cons.mp member with rfl | inside
    · rfl
    · rcases List.mem_map.mp inside with ⟨inner, innerMember, rfl⟩
      exact here.quiet inner innerMember
  · exact here.unasked (Option.map_eq_none_iff.mp (asks.symm.trans unasked))
  · rcases Option.map_eq_some_iff.mp (asks.symm.trans asked) with ⟨inner, found, rfl⟩
    exact here.asked inner found

/-- Every step of an evaluation does the same in both worlds, until a handler is to be asked. -/
theorem closed (root : StoreId) : Tracing.Closed root (fun _ _ => True) (Lockstepped root) where
  yields a := of_parallel ((Parallel.sequential _).yields a)
  fails e := of_parallel ((Parallel.sequential _).stops (.failed e))
  sequences kept rest := bind kept rest
  begins context id _ := of_parallel ((World.FlagApart.sharesMemory root).begins context id)
  reads store id := of_parallel ((World.FlagApart.sharesMemory root).reads store id)
  writes store id workspace _ :=
    of_parallel ((World.FlagApart.sharesMemory root).writes store id workspace)
  records store id v _ := of_parallel ((World.FlagApart.sharesMemory root).records store id v)
  consults context handlers name arguments inner obeys _ := by
    subst obeys
    exact consults context handlers name arguments inner

end Walk.Lockstepped

/-- Setting the flag of a formula, or clearing it, makes no other difference. -/
theorem World.FlagApart.setCancelled (root : StoreId) (world : World) :
    FlagApart root (world.setCancelled root false) (world.setCancelled root true) where
  stores id :=
    (world.alike_setCancelled root id false).symm.trans (world.alike_setCancelled root id true)
  going := by
    unfold World.setCancelled World.isCancelled
    rw [store_modifyStore_self]
  cancelled := by
    unfold World.setCancelled World.isCancelled
    rw [store_modifyStore_self]

namespace Formula

theorem walk_lockstep (depth : Nat) (f : Formula) (clock : Clock) {first second : World}
    (apart : first.FlagApart f.store second) :
    Lockstep f.store (walk depth (Context.ofFormula f clock) f.expression)
      (f.eventsTo depth clock) first second := by
  refine (Lockstepped.closed f.store).evaluateTo ?exhausts (fun g {_ _} kept => kept.opens g)
    (fun _ _ _ _ => trivial) depth clock first second apart
  exact Lockstepped.of_parallel ((Parallel.sequential _).stops .exhausted)

/-- An evaluation that is cancelled from the beginning goes as far as the first handler.  No handler takes
part in it.  If the evaluation would ask none, it comes to the same outcome and leaves the same memories and
random numbers.  Otherwise it is cancelled, and leaves the memories and random numbers as the evaluation
would have them at the moment at which it asks its first handler. -/
theorem cancelled_agrees_up_to_first_handler (depth : Nat) (f : Formula) (clock : Clock)
    (world : World) :
    let going := world.setCancelled f.store false
    let cancelled := world.setCancelled f.store true
    (∀ event ∈ f.eventsTo depth clock cancelled, event.happening.isQuiet = true) ∧
    ((f.eventsTo depth clock going).find? Event.asksHandler = none →
      (f.evaluateTo depth clock cancelled).1 = (f.evaluateTo depth clock going).1 ∧
        ∀ id, ((f.evaluateTo depth clock going).2.store id).Alike
          ((f.evaluateTo depth clock cancelled).2.store id)) ∧
    ∀ event, (f.eventsTo depth clock going).find? Event.asksHandler = some event →
      (f.evaluateTo depth clock cancelled).1 = .finished (.error .cancelled) ∧
        ∀ id, (event.world.store id).Alike ((f.evaluateTo depth clock cancelled).2.store id) := by
  intro going cancelled
  have lockstep := walk_lockstep depth f clock (World.FlagApart.setCancelled f.store world)
  refine ⟨lockstep.quiet, fun unasked => ?_, fun event asked => ?_⟩
  · rcases lockstep.unasked unasked with ⟨same, apart⟩
    rw [evaluateTo_snd, evaluateTo_snd]
    refine ⟨?_, apart.stores⟩
    rw [evaluateTo_eq, evaluateTo_eq]
    rcases cases_of_ending same with ⟨v, here, there⟩ | ⟨reason, here, there⟩
    · rw [here, there]
      rfl
    · rw [here, there]
      cases reason <;> rfl
  · rcases lockstep.asked event asked with ⟨stopped, stores⟩
    rw [evaluateTo_snd]
    refine ⟨?_, stores⟩
    rw [evaluateTo_eq, eq_error_of_ending stopped]
    rfl

/-- A formula that freezes a value before it asks a handler. -/
def metered : Formula :=
  { Formula.ofExpr
      (.binary .plus (.call ⟨0⟩ "init" [.literal (.integer 3)]) (.identifier "rate")) .default
      ⟨0⟩ with
    identifierHandlers := [⟨"rates", fun _ => .claim (.integer 2) .done⟩] }

/-- The first handler is asked when the value is frozen, and so the cancelled evaluation has frozen it as
well. -/
theorem metered_cancelled :
    ∃ event, (metered.eventsTo 1 .blank (World.empty.setCancelled metered.store false)).find?
        Event.asksHandler = some event ∧
      (event.world.node metered.store ⟨0⟩).temporal = .frozen (.integer 3) ∧
      (metered.evaluateTo 1 .blank (World.empty.setCancelled metered.store true)).1 =
        .finished (.error .cancelled) ∧
      ∀ id, (event.world.store id).Alike
        ((metered.evaluateTo 1 .blank (World.empty.setCancelled metered.store true)).2.store id) := by
  rcases cancelled_agrees_up_to_first_handler 1 metered .blank World.empty with ⟨_, _, asked⟩
  exact ⟨_, rfl, rfl, asked _ rfl⟩

end Formula

end ClockedFormula
