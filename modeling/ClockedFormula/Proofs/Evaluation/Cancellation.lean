import ClockedFormula.Proofs.Evaluation.Indifference
import ClockedFormula.Proofs.Evaluation.Occasion
import ClockedFormula.Proofs.Evaluation.Tracing

namespace ClockedFormula

open Walk

/-!
# Cancelled walks

A walk obeys the cancel flag of the formula at which it has begun, and is cancelled from the moment at
which this flag is set, be it before the walk or by a handler on the way.  From then on no handler is
asked, and none goes on that has given back control, however deep formulas and handlers are nested.  A
handler that gives back control takes the whole walk with it, and so does a handler that would be asked
while no other is at work.  Only a handler at work may still meet the failure of an argument, and go on.

Three laws of walks say this, each of single steps: what the journal holds, that a flag once set stays
set, and what a cancelled walk allows.  The flags of other formulas do not count.
-/

/-- What an event leaves in the journal. -/
def Happening.note? : Happening → Option Note
  | asks handler name => some (.asked handler name)
  | notes note => some note
  | _ => none

namespace Law

variable {root : StoreId} {first second third : World} {es later : List Event}
  {stop : Option Interruption}

/-! ## What the journal holds -/

/-- The journal grows by what the events leave in it. -/
def Journaled : Law := fun first events _ last =>
  last.journal = first.journal ++ events.filterMap fun event => event.happening.note?

theorem journaled_basic (root : StoreId) : Journaled.Basic root where
  idle world := (List.append_nil _).symm
  fails e world := (List.append_nil _).symm
  compose here there := by
    unfold Journaled at here there ⊢
    rw [there, here, List.filterMap_append, List.append_assoc]
  changes store change world spares := (List.append_nil _).symm
  cancels place world := by
    unfold Journaled World.cancelAt
    cases world.hosted[place]? <;> exact (List.append_nil _).symm
  notes note world := rfl
  asks handler name world going := rfl
  declines world cancelled := (List.append_nil _).symm
  drops world cancelled := (List.append_nil _).symm
  resumes world going := (List.append_nil _).symm
  catches kept := by
    unfold Journaled at kept ⊢
    rw [kept, List.filterMap_map]
    rfl

/-- A formula that is opened leaves nothing in the journal by itself. -/
theorem Journaled.opening (kept : Journaled first es stop second) (f : Formula) :
    Journaled first (.outside first (.opens f) :: es.map (.insideFormula f)) stop second := by
  unfold Journaled at kept ⊢
  rw [kept, List.filterMap_cons, List.filterMap_map]
  rfl

/-! ## How long a flag is set -/

/-- A flag that is set stays set: from the beginning of a walk to its events and its end, from its events
to its end, and from one event to the next. -/
structure FlagStays (root : StoreId) (first : World) (events : List Event)
    (_ : Option Interruption) (last : World) : Prop where
  throughout : first.isCancelled root = true → last.isCancelled root = true
  reaches : first.isCancelled root = true → ∀ event ∈ events, event.world.isCancelled root = true
  remains : ∀ event ∈ events, event.world.isCancelled root = true → last.isCancelled root = true
  between : events.Pairwise fun earlier later =>
    earlier.world.isCancelled root = true → later.world.isCancelled root = true

namespace FlagStays

/-- In a single step, all events are in the world before it. -/
theorem step (before : ∀ event ∈ es, event.world = first)
    (stays : first.isCancelled root = true → second.isCancelled root = true) :
    FlagStays root first es stop second where
  throughout := stays
  reaches cancelled event member := by
    rw [before event member]
    exact cancelled
  remains event member cancelled := by
    rw [before event member] at cancelled
    exact stays cancelled
  between := by
    apply List.pairwise_of_forall_mem_list
    intro earlier earlierMember other otherMember cancelled
    rw [before other otherMember, ← before earlier earlierMember]
    exact cancelled

theorem append (here : FlagStays root first es none second)
    (there : FlagStays root second later stop third) :
    FlagStays root first (es ++ later) stop third where
  throughout := there.throughout ∘ here.throughout
  reaches cancelled event member := by
    rcases List.mem_append.mp member with early | late
    · exact here.reaches cancelled event early
    · exact there.reaches (here.throughout cancelled) event late
  remains event member cancelled := by
    rcases List.mem_append.mp member with early | late
    · exact there.throughout (here.remains event early cancelled)
    · exact there.remains event late cancelled
  between := by
    refine List.pairwise_append.mpr ⟨here.between, there.between, ?_⟩
    -- A flag that is set at an early event is set where the second walk begins.
    intro early earlyMember late lateMember cancelled
    exact there.reaches (here.remains early earlyMember cancelled) late lateMember

/-- Whoever surrounds a walk moves its events to other places, not to other worlds. -/
theorem map (kept : FlagStays root first es stop second) (place : Event → Event)
    (same : ∀ event, (place event).world = event.world) (stop' : Option Interruption) :
    FlagStays root first (es.map place) stop' second where
  throughout := kept.throughout
  reaches cancelled := by
    refine List.forall_mem_map.mpr fun event member => ?_
    rw [same]
    exact kept.reaches cancelled event member
  remains := by
    refine List.forall_mem_map.mpr fun event member => ?_
    rw [same]
    exact kept.remains event member
  between := by
    rw [List.pairwise_map]
    simpa only [same] using kept.between

end FlagStays

theorem flagStays_basic (root : StoreId) : Law.Basic root (FlagStays root) where
  idle world := .step (by simp) id
  fails e world := .step (by simp) id
  compose := .append
  changes store change world spares := by
    refine .step (by simp) fun cancelled => ?_
    rw [World.isCancelled_modifyStore store spares]
    exact cancelled
  cancels place world := .step (by simp) fun cancelled => World.isCancelled_cancelAt cancelled place
  notes note world := .step (by simp [Event.byHandler]) id
  asks handler name world going := .step (by simp [Event.outside]) id
  declines world cancelled := .step (by simp [Event.outside]) id
  drops world cancelled := .step (by simp [Event.byHandler]) id
  resumes world going := .step (by simp [Event.byHandler]) id
  catches kept := kept.map .underHandler (fun _ => rfl) _

/-! ## What a cancelled walk allows -/

/-- What may happen in a cancelled walk, with so many handlers at work, if the walk is then interrupted or
not. -/
def Allows (handlers : Nat) (stop : Option Interruption) : Happening → Prop
  | .opens _ => True
  | .asks _ _ => False
  | .declines => handlers = 0 → stop = some (.failed .cancelled)
  | .suspends => stop = some .dropped
  | .resumes => False
  | .notes _ => True

/-- What happens while the flag is set is allowed. -/
def Obeyed (root : StoreId) : Law := fun _ events stop _ =>
  ∀ event ∈ events, event.world.isCancelled root = true →
    Allows event.handlers stop event.happening

section Allowed

variable {handlers : Nat} {happening : Happening}

/-- What is allowed in a walk that is not interrupted is allowed anyway. -/
theorem allows_of_none (allowed : Allows handlers none happening) (stop : Option Interruption) :
    Allows handlers stop happening := by
  cases happening with
  | opens f => exact trivial
  | asks handler name => exact allowed
  | declines =>
    intro outside
    cases allowed outside
  | suspends => cases allowed
  | resumes => exact allowed
  | notes note => exact trivial

/-- A handler at work meets the failure of an argument, but no other interruption. -/
theorem allows_underHandler (allowed : Allows handlers stop happening) :
    Allows (handlers + 1) (stop.bind Interruption.uncaught?) happening := by
  cases happening with
  | opens f => exact trivial
  | asks handler name => exact allowed
  | declines =>
    -- A handler is at work, and the failure need not be that of the whole walk.
    intro outside
    cases outside
  | suspends =>
    cases allowed
    rfl
  | resumes => exact allowed
  | notes note => exact trivial

end Allowed

theorem obeyed_basic (root : StoreId) : (Obeyed root).Basic root where
  idle world := by simp [Obeyed]
  fails e world := by simp [Obeyed]
  compose here there := by
    intro event member cancelled
    rcases List.mem_append.mp member with early | late
    · exact allows_of_none (here event early cancelled) _
    · exact there event late cancelled
  changes store change world spares := by simp [Obeyed]
  cancels place world := by simp [Obeyed]
  notes note world := by simp [Obeyed, Allows, Event.byHandler]
  asks handler name world going := by simp [Obeyed, Event.outside, going]
  declines world cancelled := by simp [Obeyed, Allows, Event.outside]
  drops world cancelled := by simp [Obeyed, Allows, Event.byHandler]
  resumes world going := by simp [Obeyed, Event.byHandler, going]
  catches kept := by
    refine List.forall_mem_map.mpr fun event member cancelled => ?_
    exact allows_underHandler (kept event member cancelled)

end Law

namespace Formula

/-- A law that does not care how deep formulas are nested holds of the evaluations of a formula. -/
theorem evaluateTo_keeps {law : Law} {f : Formula} (basic : law.Basic f.store)
    (exhausts : ∀ world, law world [] (some .exhausted) world)
    (opens : ∀ f {first events stop last}, law first events stop last →
      law first (.outside first (.opens f) :: events.map (.insideFormula f)) stop last)
    (depth : Nat) (clock : Clock) (world : World) :
    law world (f.eventsTo depth clock world)
      ((walk depth (Context.ofFormula f clock) f.expression).interruption? world)
      (f.evaluateTo depth clock world).2 := by
  rw [evaluateTo_snd]
  exact basic.closed.evaluateTo exhausts (fun g {_ _} kept world => opens g (kept world))
    (fun _ _ _ _ => trivial) depth clock world

theorem evaluateTo_journaled (depth : Nat) (f : Formula) (clock : Clock) (world : World) :
    (f.evaluateTo depth clock world).2.journal = world.journal ++
      (f.eventsTo depth clock world).filterMap fun event => event.happening.note? := by
  exact evaluateTo_keeps (Law.journaled_basic f.store) (fun world => (List.append_nil _).symm)
    (fun g {_ _ _ _} kept => kept.opening g) depth clock world

theorem evaluateTo_flagStays (depth : Nat) (f : Formula) (clock : Clock) (world : World) :
    Law.FlagStays f.store world (f.eventsTo depth clock world)
      ((walk depth (Context.ofFormula f clock) f.expression).interruption? world)
      (f.evaluateTo depth clock world).2 := by
  refine evaluateTo_keeps (Law.flagStays_basic f.store) (fun world => .step (by simp) id) ?_
    depth clock world
  intro g first events stop last kept
  have opening : Law.FlagStays f.store first [.outside first (.opens g)] none first :=
    .step (by simp [Event.outside]) id
  exact opening.append (kept.map (.insideFormula g) (fun _ => rfl) stop)

theorem evaluateTo_obeyed (depth : Nat) (f : Formula) (clock : Clock) (world : World) :
    Law.Obeyed f.store world (f.eventsTo depth clock world)
      ((walk depth (Context.ofFormula f clock) f.expression).interruption? world)
      (f.evaluateTo depth clock world).2 := by
  refine evaluateTo_keeps (Law.obeyed_basic f.store) (fun world => by simp [Law.Obeyed]) ?_
    depth clock world
  intro g first events stop last kept event member cancelled
  rcases List.mem_cons.mp member with rfl | inside
  · exact trivial
  · rcases List.mem_map.mp inside with ⟨inner, innerMember, rfl⟩
    exact kept inner innerMember cancelled

/-- A walk that was dropped or failed as cancelled is a cancelled evaluation. -/
theorem evaluateTo_cancelled {depth : Nat} {f : Formula} {clock : Clock} {world : World}
    (stopped : (walk depth (Context.ofFormula f clock) f.expression).interruption? world =
        some .dropped ∨
      (walk depth (Context.ofFormula f clock) f.expression).interruption? world =
        some (.failed .cancelled)) :
    (f.evaluateTo depth clock world).1 = .finished (.error .cancelled) := by
  rw [evaluateTo_eq]
  unfold interruption? at stopped
  cases outcome : walk depth (Context.ofFormula f clock) f.expression world with
  | ok v after =>
    rw [outcome] at stopped
    rcases stopped with stopped | stopped <;> cases stopped
  | error reason after =>
    rw [outcome] at stopped
    rcases stopped with stopped | stopped <;> cases stopped <;> rfl

/-- An evaluation looks at no cancel flag but that of its formula. -/
theorem evaluateTo_alike {f : Formula} {first second : World} (alike : first.AlikeFor f.store second)
    (depth : Nat) (clock : Clock) :
    (f.evaluateTo depth clock first).1 = (f.evaluateTo depth clock second).1 ∧
      (f.evaluateTo depth clock first).2.AlikeFor f.store (f.evaluateTo depth clock second).2 :=
  evaluateTo_parallel (walk_alike depth (Context.ofFormula f clock) f.expression) alike

/-- Nothing of a walk runs after its cancellation.  The journal tells which handlers have been asked and
what they have noted.  The flag of the formula, once set, is set at all later events.  While it is set,
no handler is asked and none resumes; if one gives back control, or if one would be asked while none is
at work, then the evaluation is cancelled.

Flags of other formulas change neither the outcome nor the journal.  They may be set before the walk, or
by handlers on the way: worlds whose hosts keep other formulas at the places that a handler cancels are
alike as well. -/
theorem nothing_runs_after_cancellation (depth : Nat) (f : Formula) (clock : Clock) (world : World) :
    ((f.evaluateTo depth clock world).2.journal = world.journal ++
      (f.eventsTo depth clock world).filterMap fun event => event.happening.note?) ∧
    (world.isCancelled f.store = true →
      ∀ event ∈ f.eventsTo depth clock world, event.world.isCancelled f.store = true) ∧
    ((f.eventsTo depth clock world).Pairwise fun earlier later =>
      earlier.world.isCancelled f.store = true → later.world.isCancelled f.store = true) ∧
    (∀ event ∈ f.eventsTo depth clock world, event.world.isCancelled f.store = true →
      (∀ handler name, event.happening ≠ .asks handler name) ∧
      event.happening ≠ .resumes ∧
      (event.happening = .suspends →
        (f.evaluateTo depth clock world).1 = .finished (.error .cancelled)) ∧
      (event.happening = .declines → event.handlers = 0 →
        (f.evaluateTo depth clock world).1 = .finished (.error .cancelled))) ∧
    (∀ id cancelled, id ≠ f.store → world.AlikeFor f.store (world.setCancelled id cancelled)) ∧
    (∀ other, world.AlikeFor f.store other →
      (f.evaluateTo depth clock world).1 = (f.evaluateTo depth clock other).1 ∧
      (f.evaluateTo depth clock world).2.journal = (f.evaluateTo depth clock other).2.journal) := by
  have stays := evaluateTo_flagStays depth f clock world
  refine ⟨evaluateTo_journaled depth f clock world, stays.reaches, stays.between, ?_, ?_, ?_⟩
  · intro event member cancelled
    have allowed := evaluateTo_obeyed depth f clock world event member cancelled
    refine ⟨?_, ?_, ?_, ?_⟩
    · intro handler name happened
      rw [happened] at allowed
      exact allowed
    · intro happened
      rw [happened] at allowed
      exact allowed
    · intro happened
      rw [happened] at allowed
      exact evaluateTo_cancelled (.inl allowed)
    · intro happened outside
      rw [happened] at allowed
      exact evaluateTo_cancelled (.inr (allowed outside))
  · intro id cancelled other
    exact (World.AlikeFor.setCancelled_of_ne world other cancelled).symm
  · intro other alike
    have same := evaluateTo_alike alike depth clock
    exact ⟨same.1, same.2.journal⟩

/-- A handler of sums cancels its formula, meets the failure of an argument, and gives back control. -/
def summing : Handler where
  label := "summing"
  respond request :=
    if request.name = "sum" then .cancel 0 (.evaluate 0 fun _ => .suspend .done) else .done

/-- A sum with one part. -/
def summed : Formula where
  expression := .call ⟨0⟩ "sum" [.call ⟨1⟩ "part" []]
  options := .default
  bindings := .empty
  identifierHandlers := []
  functionHandlers := [summing]
  store := ⟨0⟩

/-- The world of a host that keeps the sum only. -/
def summedWorld : World := World.empty.host ⟨0⟩

/-- The handler is asked about the sum and not about its part, and the walk ends where it gives back
control. -/
theorem summed_is_cancelled :
    (summed.eventsTo 1 .blank summedWorld).map
        (fun event => (event.handlers, event.world.isCancelled ⟨0⟩)) =
      [(0, false), (1, true), (1, true)] ∧
    (summed.evaluateTo 1 .blank summedWorld).1 = .finished (.error .cancelled) := by
  have told := nothing_runs_after_cancellation 1 summed .blank summedWorld
  have last : ∃ event ∈ summed.eventsTo 1 .blank summedWorld,
      event.world.isCancelled summed.store = true ∧ event.happening = .suspends :=
    ⟨_, List.mem_cons_of_mem _ (List.mem_cons_of_mem _ List.mem_cons_self), rfl, rfl⟩
  rcases last with ⟨event, member, cancelled, suspends⟩
  exact ⟨rfl, (told.2.2.2.1 event member cancelled).2.2.1 suspends⟩

end Formula

end ClockedFormula
