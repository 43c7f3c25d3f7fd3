import ClockedFormula.Proofs.Walk.Event

namespace ClockedFormula

open Walk

/-!
# What handlers come across

A handler evaluates arguments on its own account, perhaps several times, and so a call can be reached while
a handler is at work.  The trail of a handler is whatever happens on the way to the arguments for which it
asks.  Unlike the events of a walk it can be anything, for instance the calls that are made.

What joins the world before a trail to the world after it, and can be composed, joins the worlds around a
handler if it joins the worlds around the arguments.
-/

variable {μ : Type}

/-- What is passed while a program runs, given what is passed on the way to each argument. -/
def Program.trail (root : StoreId) (arguments : List Argument) (inner : Nat → World → List μ) :
    Program → Option Value → World → List μ
  | done, _, _ => []
  | fail _, _, _ => []
  | claim v next, claimed, world => next.trail root arguments inner (claimed.or (some v)) world
  | look next, claimed, world => (next claimed).trail root arguments inner claimed world
  | evaluate position next, claimed, world =>
    inSequence (answerAt arguments position) (inner position)
      (fun result => (next result).trail root arguments inner claimed) world
  | peek store id next, claimed, world =>
    (next (world.readouts store id)).trail root arguments inner claimed world
  | suspend next, claimed, world =>
    if world.isCancelled root then [] else next.trail root arguments inner claimed world
  | cancel place next, claimed, world =>
    next.trail root arguments inner claimed (world.cancelAt place)
  | note entry next, claimed, world =>
    next.trail root arguments inner claimed (world.addNote entry)

/-- What is passed while handlers are asked about a name. -/
def consultTrail (context : Context) (name : String) (arguments : List Argument)
    (inner : Nat → World → List μ) : List Handler → Option Value → World → List μ
  | [], _, _ => []
  | handler :: rest, claimed, world =>
    if world.isCancelled context.root then []
    else
      let program := consult.response context name arguments handler world
      inSequence (program.run context.root arguments claimed)
        (program.trail context.root arguments inner claimed)
        (consultTrail context name arguments inner rest)
        (world.addNote (.asked handler.label name))

namespace Walk

/-- Whether something joins worlds by way of trails: it can be composed, and neither flags nor notes are in
its way. -/
structure Joins (joins : World → List μ → World → Prop) : Prop where
  stay : ∀ world, joins world [] world
  compose : ∀ {first second third : World} {trail later : List μ}, joins first trail second →
    joins second later third → joins first (trail ++ later) third
  cancels : ∀ place world, joins world [] (world.cancelAt place)
  notes : ∀ note world, joins world [] (world.addNote note)

namespace Joins

variable {joins : World → List μ → World → Prop} {α β : Type} {walk : Walk α}
  {trail : World → List μ} {world : World}

theorem bind (joining : Joins joins) (first : joins world (trail world) (walk.leaves world))
    {next : α → Walk β} {later : α → World → List μ}
    (rest : ∀ a world, joins world (later a world) ((next a).leaves world)) :
    joins world (inSequence walk trail later world) ((walk >>= next).leaves world) := by
  rw [leaves_bind, inSequence]
  cases outcome : walk world with
  | ok a after =>
    rw [leaves_ok outcome] at first
    exact joining.compose first (rest a after)
  | error reason after =>
    rw [leaves_error outcome] at first
    rw [List.append_nil]
    exact first

/-- What comes after a walk without passing anything does not add to its trail. -/
theorem bind_quiet (joining : Joins joins) {trail : List μ}
    (first : joins world trail (walk.leaves world)) {next : α → Walk β}
    (rest : ∀ a world, joins world [] ((next a).leaves world)) :
    joins world trail ((walk >>= next).leaves world) := by
  rw [leaves_bind]
  cases outcome : walk world with
  | ok a after =>
    rw [leaves_ok outcome] at first
    have whole := joining.compose first (rest a after)
    rwa [List.append_nil] at whole
  | error reason after => rwa [leaves_error outcome] at first

/-- Whether something joins the worlds around each of some arguments, given what is passed on the way to
them. -/
structure OfArguments (joins : World → List μ → World → Prop) (arguments : List Argument)
    (inner : Nat → World → List μ) : Prop where
  inside : ∀ {position : Nat} {argument : Argument}, arguments[position]? = some argument →
    ∀ world, joins world (inner position world) (argument.value.leaves world)
  outside : ∀ {position : Nat}, arguments[position]? = none → inner position = fun _ => []

variable {arguments : List Argument} {inner : Nat → World → List μ}

/-- What joins the worlds around the arguments joins those around what a handler is answered. -/
theorem answerAt (joining : Joins joins) (known : OfArguments joins arguments inner) (position : Nat)
    (world : World) :
    joins world (inner position world) ((ClockedFormula.answerAt arguments position).leaves world) := by
  rw [ClockedFormula.answerAt]
  cases located : arguments[position]? with
  | none =>
    rw [known.outside located]
    exact joining.stay world
  | some argument =>
    have reached := known.inside located world
    rwa [← leaves_outcome argument.value world] at reached

theorem run (joining : Joins joins) (known : OfArguments joins arguments inner) (root : StoreId)
    (program : Program) (claimed : Option Value) (world : World) :
    joins world (program.trail root arguments inner claimed world)
      ((program.run root arguments claimed).leaves world) := by
  induction program generalizing claimed world with
  | done => exact joining.stay world
  | fail e => exact joining.stay world
  | claim v next ih => exact ih (claimed.or (some v)) world
  | look next ih => exact ih claimed claimed world
  | evaluate position next ih =>
    rw [Program.run_evaluate]
    exact joining.bind (joining.answerAt known position world) fun result => ih result claimed
  | peek store id next ih => exact ih (world.readouts store id) claimed world
  | suspend next ih =>
    rw [Program.trail]
    cases going : world.isCancelled root with
    | true =>
      rw [leaves_error (Program.run_suspend_of_cancelled going next), if_pos rfl]
      exact joining.stay world
    | false =>
      rw [leaves, Program.run_suspend_of_not going, if_neg Bool.false_ne_true]
      exact ih claimed world
  | cancel place next ih =>
    exact joining.compose (joining.cancels place world) (ih claimed (world.cancelAt place))
  | note entry next ih =>
    exact joining.compose (joining.notes entry world) (ih claimed (world.addNote entry))

theorem consult (joining : Joins joins) (known : OfArguments joins arguments inner) (context : Context)
    (handlers : List Handler) (name : String) (world : World) :
    joins world (consultTrail context name arguments inner handlers none world)
      ((ClockedFormula.consult context handlers name arguments).leaves world) := by
  have asked : ∀ handlers claimed world,
      joins world (consultTrail context name arguments inner handlers claimed world)
        ((consult.ask context name arguments handlers claimed).leaves world) := by
    intro handlers
    induction handlers with
    | nil => exact fun _ world => joining.stay world
    | cons handler rest ih =>
      intro claimed world
      rw [consultTrail]
      cases going : world.isCancelled context.root with
      | true =>
        rw [leaves_error (consult.ask_of_cancelled going handler rest claimed), if_pos rfl]
        exact joining.stay world
      | false =>
        have noted := joining.notes (.asked handler.label name) world
        have program := joining.run known context.root
          (consult.response context name arguments handler world) claimed
          (world.addNote (.asked handler.label name))
        have whole := joining.compose noted (joining.bind program ih)
        rw [leaves, consult.ask_of_not going, if_neg Bool.false_ne_true]
        exact whole
  exact asked handlers none world

end Joins

end Walk

end ClockedFormula
