import ClockedFormula.Proofs.Walk.Handler

namespace ClockedFormula

open Walk

/-!
# Events of a walk

Values and memories do not tell what a walk does on its way: which formulas it opens, which handlers it
asks and in which order, and where a handler gives back control.  These are the events of the walk.
This module lists the events of handlers, on which those of evaluations are built.

A law says something about how a walk goes from a world: about its events, about the interruption if it
is interrupted, and about the world that it leaves behind.  If a law holds of the single steps and of
walks in sequence, then it holds of all walks.  Every statement about events is such a law.
-/

/-- What can happen in a walk. -/
inductive Happening where
  /-- A formula is opened under a name. -/
  | opens (f : Formula)
  /-- A handler is asked about a name. -/
  | asks (handler name : String)
  /-- A handler would be asked next, but the walk is cancelled. -/
  | declines
  /-- A handler gives back control. -/
  | suspends
  /-- A handler goes on that has given back control. -/
  | resumes
  /-- A handler takes a note. -/
  | notes (note : Note)

/-- Something that happens in a walk, and where. -/
structure Event where
  happening : Happening
  /-- The world in which it happens. -/
  world : World
  /-- How many handlers are at work. -/
  handlers : Nat
  /-- The formulas that are open, besides the one at which the walk has begun; the innermost first. -/
  opened : List Formula

namespace Event

/-- An event while no handler is at work. -/
def outside (world : World) (happening : Happening) : Event := ⟨happening, world, 0, []⟩

/-- An event of a handler at work. -/
def byHandler (world : World) (happening : Happening) : Event := ⟨happening, world, 1, []⟩

/-- An event on the way to an argument for which a handler has asked. -/
def underHandler (event : Event) : Event := { event with handlers := event.handlers + 1 }

/-- An event inside a formula that has been opened. -/
def insideFormula (f : Formula) (event : Event) : Event := { event with opened := event.opened ++ [f] }

end Event

/-- What happens in two walks, one after the other. -/
def inSequence {α μ : Type} (walk : Walk α) (events : World → List μ)
    (later : α → World → List μ) (world : World) : List μ :=
  events world ++
    match walk world with
    | .ok a after => later a after
    | .error _ _ => []

/-- What happens while a program runs, given what happens on the way to each argument. -/
def Program.events (root : StoreId) (arguments : List Argument)
    (inner : Nat → World → List Event) : Program → Option Value → World → List Event
  | done, _, _ => []
  | fail _, _, _ => []
  | claim v next, claimed, world => next.events root arguments inner (claimed.or (some v)) world
  | look next, claimed, world => (next claimed).events root arguments inner claimed world
  | evaluate position next, claimed, world =>
    inSequence (answerAt arguments position)
      (fun world => (inner position world).map .underHandler)
      (fun result => (next result).events root arguments inner claimed) world
  | peek store id next, claimed, world =>
    (next (world.readouts store id)).events root arguments inner claimed world
  | suspend next, claimed, world =>
    .byHandler world .suspends ::
      if world.isCancelled root then []
      else .byHandler world .resumes :: next.events root arguments inner claimed world
  | cancel place next, claimed, world =>
    next.events root arguments inner claimed (world.cancelAt place)
  | note entry next, claimed, world =>
    .byHandler world (.notes entry) ::
      next.events root arguments inner claimed (world.addNote entry)

/-- What happens while handlers are asked about a name. -/
def consultEvents (context : Context) (name : String) (arguments : List Argument)
    (inner : Nat → World → List Event) : List Handler → Option Value → World → List Event
  | [], _, _ => []
  | handler :: rest, claimed, world =>
    if world.isCancelled context.root then [.outside world .declines]
    else
      let program := consult.response context name arguments handler world
      .outside world (.asks handler.label name) ::
        inSequence (program.run context.root arguments claimed)
          (program.events context.root arguments inner claimed)
          (consultEvents context name arguments inner rest)
          (world.addNote (.asked handler.label name))

/-! ## Laws -/

/-- The interruption of a walk, if it is interrupted. -/
def Walk.interruption? {α : Type} (walk : Walk α) (world : World) : Option Interruption :=
  match walk world with
  | .ok _ _ => none
  | .error reason _ => some reason

/-- The interruption that is left when a handler asks for an outcome. -/
def Interruption.uncaught? : Interruption → Option Interruption
  | failed _ => none
  | dropped => some .dropped
  | exhausted => some .exhausted

/-- What a walk can satisfy: from a world, it leads by some events and perhaps an interruption to a
world. -/
abbrev Law : Type := World → List Event → Option Interruption → World → Prop

/-- Whether a walk with its events keeps a law. -/
def Keeps {α : Type} (law : Law) (walk : Walk α) (events : World → List Event) : Prop :=
  ∀ world, law world (events world) (walk.interruption? world) (walk.leaves world)

/-- Whether a law holds of the single steps of handlers, and of walks in sequence. -/
structure Law.Handling (root : StoreId) (law : Law) : Prop where
  idle : ∀ world, law world [] none world
  fails : ∀ e world, law world [] (some (.failed e)) world
  compose : ∀ {first second third events later stop}, law first events none second →
    law second later stop third → law first (events ++ later) stop third
  cancels : ∀ place world, law world [] none (world.cancelAt place)
  notes : ∀ note world,
    law world [.byHandler world (.notes note)] none (world.addNote note)
  asks : ∀ handler name world, world.isCancelled root = false →
    law world [.outside world (.asks handler name)] none (world.addNote (.asked handler name))
  declines : ∀ world, world.isCancelled root = true →
    law world [.outside world .declines] (some (.failed .cancelled)) world
  drops : ∀ world, world.isCancelled root = true →
    law world [.byHandler world .suspends] (some .dropped) world
  resumes : ∀ world, world.isCancelled root = false →
    law world [.byHandler world .suspends, .byHandler world .resumes] none world
  /-- A handler asks for an argument. -/
  catches : ∀ {first events stop last}, law first events stop last →
    law first (events.map .underHandler) (stop.bind Interruption.uncaught?) last

/-- Whether a law holds of all single steps, and of walks in sequence. -/
structure Law.Basic (root : StoreId) (law : Law) : Prop extends Law.Handling root law where
  /-- Memories and random numbers change. -/
  changes : ∀ (store : StoreId) (change : Store → Store) (world : World),
    (∀ contents, (change contents).cancelled = contents.cancelled) →
      law world [] none (world.modifyStore store change)

section Keeping

variable {root : StoreId} {law : Law} {α β : Type} {walk : Walk α} {events : World → List Event}

theorem Keeps.of_ok (keeps : Keeps law walk events) {world after : World} {a : α}
    (done : walk world = .ok a after) : law world (events world) none after := by
  have kept := keeps world
  rwa [interruption?, leaves, done] at kept

theorem Keeps.of_error (keeps : Keeps law walk events) {world after : World} {reason : Interruption}
    (stopped : walk world = .error reason after) : law world (events world) (some reason) after := by
  have kept := keeps world
  rwa [interruption?, leaves, stopped] at kept

namespace Law.Handling

/-- A step without events that comes to a value. -/
theorem keeps_of_ok {a : World → α} {after : World → World}
    (done : ∀ world, walk world = .ok (a world) (after world))
    (kept : ∀ world, law world [] none (after world)) : Keeps law walk fun _ => [] := by
  intro world
  rw [interruption?, leaves, done]
  exact kept world

theorem keeps_pure (handling : law.Handling root) (a : α) : Keeps law (pure a : Walk α) fun _ => [] :=
  keeps_of_ok (fun _ => rfl) handling.idle

theorem keeps_fail (handling : law.Handling root) (e : EvalError) :
    Keeps law (Walk.fail e : Walk α) fun _ => [] :=
  handling.fails e

theorem keeps_bind (handling : law.Handling root) (keeps : Keeps law walk events)
    {next : α → Walk β} {later : α → World → List Event}
    (rest : ∀ a, Keeps law (next a) (later a)) :
    Keeps law (walk >>= next) (inSequence walk events later) := by
  intro world
  cases outcome : walk world with
  | ok a middle =>
    have whole : (walk >>= next) world = next a middle := bind_ok outcome next
    have kept := handling.compose (keeps.of_ok outcome) (rest a middle)
    simp only [inSequence, outcome]
    rwa [interruption?, leaves, whole]
  | error reason after =>
    have whole : (walk >>= next) world = .error reason after := bind_error outcome next
    have kept := keeps.of_error outcome
    simp only [inSequence, outcome, List.append_nil]
    rwa [interruption?, leaves, whole]

theorem keeps_outcome (handling : law.Handling root) (keeps : Keeps law walk events) :
    Keeps law walk.outcome fun world => (events world).map .underHandler := by
  intro world
  have kept := handling.catches (keeps world)
  unfold interruption? leaves at kept ⊢
  unfold Walk.outcome
  cases outcome : walk world with
  | ok a after =>
    rw [outcome] at kept
    exact kept
  | error reason after =>
    rw [outcome] at kept
    cases reason <;> exact kept

/-! ## Handlers -/

variable {context : Context} {arguments : List Argument} {inner : Nat → World → List Event}

theorem keeps_run (handling : law.Handling root)
    (answers : ∀ position, Keeps law (answerAt arguments position)
      fun world => (inner position world).map .underHandler)
    (program : Program) (claimed : Option Value) :
    Keeps law (program.run root arguments claimed) (program.events root arguments inner claimed) := by
  induction program generalizing claimed with
  | done => exact handling.keeps_pure claimed
  | fail e => exact handling.keeps_fail e
  | claim v next ih => exact ih (claimed.or (some v))
  | look next ih => exact ih claimed claimed
  | evaluate position next ih =>
    rw [Program.run_evaluate]
    exact handling.keeps_bind (answers position) fun result => ih result claimed
  | peek store id next ih => exact fun world => ih (world.readouts store id) claimed world
  | suspend next ih =>
    intro world
    cases going : world.isCancelled root with
    | true =>
      simp only [Program.events, going, if_true]
      rw [interruption?, leaves, Program.run_suspend_of_cancelled going]
      exact handling.drops world going
    | false =>
      have kept := handling.compose (handling.resumes world going) (ih claimed world)
      simp only [Program.events, going, Bool.false_eq_true, if_false]
      rw [interruption?, leaves, Program.run_suspend_of_not going]
      exact kept
  | cancel place next ih =>
    intro world
    exact handling.compose (handling.cancels place world) (ih claimed (world.cancelAt place))
  | note entry next ih =>
    intro world
    exact handling.compose (handling.notes entry world) (ih claimed (world.addNote entry))

theorem keeps_ask (handling : law.Handling context.root)
    (answers : ∀ position, Keeps law (answerAt arguments position)
      fun world => (inner position world).map .underHandler)
    (name : String) (handlers : List Handler) (claimed : Option Value) :
    Keeps law (consult.ask context name arguments handlers claimed)
      (consultEvents context name arguments inner handlers claimed) := by
  induction handlers generalizing claimed with
  | nil => exact handling.keeps_pure claimed
  | cons handler rest ih =>
    intro world
    cases going : world.isCancelled context.root with
    | true =>
      simp only [consultEvents, going, if_true]
      rw [interruption?, leaves, consult.ask_of_cancelled going]
      exact handling.declines world going
    | false =>
      have asked := handling.asks handler.label name world going
      have kept := handling.compose asked
        (handling.keeps_bind (handling.keeps_run answers (consult.response context name arguments handler world)
          claimed) ih (world.addNote (.asked handler.label name)))
      simp only [consultEvents, going, Bool.false_eq_true, if_false]
      rw [interruption?, leaves, consult.ask_of_not going]
      exact kept

end Law.Handling

end Keeping

end ClockedFormula
