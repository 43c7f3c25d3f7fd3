import ClockedFormula.Proofs.Evaluation.Indifference
import ClockedFormula.Proofs.Walk.Trail

namespace ClockedFormula

open Walk

/-!
# Chains of handlers

All handlers of a chain share one slot.  A handler may look at the slot and may try to write it as often as it
likes, but only the first write of the whole chain counts.  To say so, it does not suffice to say what is in
the slot: what the later writes have tried does not show there.  So this module records, for each handler that
is visited, everything that it tries to write and whether it comes to its end.  What the chain comes to is then
read off the record, without following the chain.

Handlers also evaluate arguments, and set flags and take notes, but they change no memory except in these
evaluations.
-/

/-! ## The record of a chain -/

/-- All that a program tries to write into the slot, given what has been tried before. -/
def Program.writes (root : StoreId) (arguments : List Argument) :
    Program → (earlier : List Value) → World → List Value
  | done, _, _ => []
  | fail _, _, _ => []
  | claim v next, earlier, world => v :: next.writes root arguments (earlier ++ [v]) world
  | look next, earlier, world => (next earlier.head?).writes root arguments earlier world
  | evaluate position next, earlier, world =>
    match answerAt arguments position world with
    | .ok result after => (next result).writes root arguments earlier after
    | .error _ _ => []
  | peek store id next, earlier, world =>
    (next (world.readouts store id)).writes root arguments earlier world
  | suspend next, earlier, world =>
    if world.isCancelled root then [] else next.writes root arguments earlier world
  | cancel place next, earlier, world =>
    next.writes root arguments earlier (world.cancelAt place)
  | note entry next, earlier, world => next.writes root arguments earlier (world.addNote entry)

/-- A handler that is asked. -/
structure Visit where
  handler : Handler
  /-- The world in which it is asked. -/
  world : World
  /-- What it tries to write into the slot. -/
  writes : List Value
  /-- Why it does not come to its end, if it does not. -/
  stop : Option Interruption

/-- The handlers that are asked about a name one after the other, up to the first one that does not come to
its end. -/
def visits (context : Context) (name : String) (arguments : List Argument) :
    List Handler → (earlier : List Value) → World → List Visit
  | [], _, _ => []
  | handler :: rest, earlier, world =>
    let program := consult.response context name arguments handler world
    let asked := world.addNote (.asked handler.label name)
    let writes := program.writes context.root arguments earlier asked
    match program.run context.root arguments earlier.head? asked with
    | .ok _ after =>
      ⟨handler, world, writes, none⟩ ::
        visits context name arguments rest (earlier ++ writes) after
    | .error reason _ => [⟨handler, world, writes, some reason⟩]

/-- What a chain comes to: the first interruption, or else the first write. -/
def verdict (earlier : List Value) (visits : List Visit) : Except Interruption (Option Value) :=
  match visits.findSome? Visit.stop with
  | some reason => .error reason
  | none => .ok (earlier ++ visits.flatMap Visit.writes).head?

/-- Whether the walk is cancelled at no visit. -/
def Uncancelled (root : StoreId) (visits : List Visit) : Prop :=
  ∀ visit ∈ visits, visit.world.isCancelled root = false

instance (root : StoreId) (visits : List Visit) : Decidable (Uncancelled root visits) :=
  inferInstanceAs (Decidable (∀ visit ∈ visits, visit.world.isCancelled root = false))

/-- A program leaves in the slot what was written there first. -/
theorem Program.run_eq_head? {root : StoreId} {arguments : List Argument} {program : Program}
    {earlier : List Value} {claimed : Option Value} {world after : World}
    (done : program.run root arguments earlier.head? world = .ok claimed after) :
    claimed = (earlier ++ program.writes root arguments earlier world).head? := by
  induction program generalizing earlier world with
  | done =>
    cases done
    rw [writes, List.append_nil]
  | fail e => cases done
  | claim v next ih =>
    have slot : (earlier ++ [v]).head? = earlier.head?.or (some v) := by simp
    rw [run, ← slot] at done
    rw [ih done, writes, List.append_assoc, List.singleton_append]
  | look next ih => exact ih _ done
  | evaluate position next ih =>
    rw [run_evaluate] at done
    rcases bind_eq_ok done with ⟨result, middle, answered, goesOn⟩
    rw [ih result goesOn, writes, answered]
  | peek store id next ih => exact ih (world.readouts store id) done
  | suspend next ih =>
    cases going : world.isCancelled root with
    | true =>
      rw [run_suspend_of_cancelled going] at done
      cases done
    | false =>
      rw [run_suspend_of_not going] at done
      rw [ih done, writes, going, if_neg Bool.false_ne_true]
  | cancel place next ih => exact ih done
  | note entry next ih => exact ih done

/-! ## One handler after the other -/

/-- The handler, the name and the world, if a handler of the chain itself is asked. -/
def Event.ask? (event : Event) : Option (String × String × World) :=
  match event.handlers, event.happening with
  | 0, .asks handler name => some (handler, name, event.world)
  | _, _ => none

theorem Event.ask?_underHandler (event : Event) : event.underHandler.ask? = none := rfl

theorem filterMap_ask?_underHandler (es : List Event) :
    (es.map Event.underHandler).filterMap Event.ask? = [] := by
  rw [List.filterMap_map, List.filterMap_eq_nil_iff]
  exact fun event _ => event.ask?_underHandler

/-- No handler of the chain is asked while another one is at work. -/
theorem Program.filterMap_ask?_events (root : StoreId) (arguments : List Argument)
    (inner : Nat → World → List Event) (program : Program) (claimed : Option Value) (world : World) :
    (program.events root arguments inner claimed world).filterMap Event.ask? = [] := by
  induction program generalizing claimed world with
  | done => rfl
  | fail e => rfl
  | claim v next ih => exact ih (claimed.or (some v)) world
  | look next ih => exact ih claimed claimed world
  | evaluate position next ih =>
    rw [events, inSequence, List.filterMap_append, filterMap_ask?_underHandler, List.nil_append]
    cases answerAt arguments position world with
    | ok result after => exact ih result claimed after
    | error reason after => rfl
  | peek store id next ih => exact ih (world.readouts store id) claimed world
  | suspend next ih =>
    rw [events]
    cases world.isCancelled root with
    | true => rfl
    | false => exact ih claimed world
  | cancel place next ih => exact ih claimed (world.cancelAt place)
  | note entry next ih => exact ih claimed (world.addNote entry)

section Chain

variable {context : Context} {name : String} {arguments : List Argument} {handler : Handler}
  {rest handlers : List Handler} {earlier : List Value} {world : World}

/-- A handler comes to its end, and the chain goes on with what it has tried to write, or it is the last one
that is asked. -/
theorem consult.ask_cons (going : world.isCancelled context.root = false) :
    (∃ writes after,
      visits context name arguments (handler :: rest) earlier world =
          ⟨handler, world, writes, none⟩ ::
            visits context name arguments rest (earlier ++ writes) after ∧
        ask context name arguments (handler :: rest) earlier.head? world =
          ask context name arguments rest (earlier ++ writes).head? after ∧
        ∀ inner,
          (consultEvents context name arguments inner (handler :: rest) earlier.head? world).filterMap
              Event.ask? =
            (handler.label, name, world) ::
              (consultEvents context name arguments inner rest (earlier ++ writes).head?
                after).filterMap Event.ask?) ∨
    ∃ writes reason after,
      visits context name arguments (handler :: rest) earlier world =
          [⟨handler, world, writes, some reason⟩] ∧
        ask context name arguments (handler :: rest) earlier.head? world = .error reason after ∧
        ∀ inner,
          (consultEvents context name arguments inner (handler :: rest) earlier.head? world).filterMap
              Event.ask? =
            [(handler.label, name, world)] := by
  have asks : (Event.outside world (.asks handler.label name)).ask? =
      some (handler.label, name, world) := rfl
  rw [ask_of_not going, visits]
  cases outcome : (response context name arguments handler world).run context.root arguments earlier.head?
      (world.addNote (.asked handler.label name)) with
  | ok claimed after =>
    refine .inl ⟨_, after, rfl, ?_, fun inner => ?_⟩
    · rw [bind_ok outcome, Program.run_eq_head? outcome]
    · simp only [consultEvents, going, Bool.false_eq_true, if_false, inSequence, outcome]
      rw [List.filterMap_cons_some asks, List.filterMap_append, Program.filterMap_ask?_events,
        List.nil_append, ← Program.run_eq_head? outcome]
  | error reason after =>
    refine .inr ⟨_, reason, after, rfl, bind_error outcome _, fun inner => ?_⟩
    simp only [consultEvents, going, Bool.false_eq_true, if_false, inSequence, outcome]
    rw [List.filterMap_cons_some asks, List.filterMap_append, Program.filterMap_ask?_events]
    rfl

/-- A chain is asked in the world of its first visit. -/
theorem Uncancelled.first {root : StoreId}
    (uncancelled : Uncancelled root (visits context name arguments (handler :: rest) earlier world)) :
    world.isCancelled root = false := by
  rw [visits] at uncancelled
  cases outcome : (consult.response context name arguments handler world).run context.root arguments
      earlier.head? (world.addNote (.asked handler.label name)) with
  | ok claimed after =>
    rw [outcome] at uncancelled
    exact uncancelled _ List.mem_cons_self
  | error reason after =>
    rw [outcome] at uncancelled
    exact uncancelled _ List.mem_cons_self

/-- A handler that comes to its end leaves the verdict to those behind it. -/
theorem verdict_cons_of_none (handler : Handler) (world : World) (earlier writes : List Value)
    (later : List Visit) :
    verdict earlier (⟨handler, world, writes, none⟩ :: later) = verdict (earlier ++ writes) later := by
  simp only [verdict, List.findSome?_cons, List.flatMap_cons, List.append_assoc]

/-- What a chain comes to is read off its record. -/
theorem consult.ending_ask (uncancelled :
      Uncancelled context.root (visits context name arguments handlers earlier world)) :
    (ask context name arguments handlers earlier.head?).ending world =
      verdict earlier (visits context name arguments handlers earlier world) := by
  induction handlers generalizing earlier world with
  | nil =>
    rw [visits, verdict, List.flatMap_nil, List.append_nil]
    rfl
  | cons handler rest ih =>
    rcases ask_cons uncancelled.first with
      ⟨writes, after, record, goesOn, -⟩ | ⟨writes, reason, after, record, stopped, -⟩
    · rw [record] at uncancelled ⊢
      have later := ih fun visit member => uncancelled visit (List.mem_cons_of_mem _ member)
      rw [ending, goesOn, verdict_cons_of_none]
      exact later
    · rw [record, ending, stopped]
      rfl

/-- The handlers of the chain that are asked are those on the record, in the worlds in which they are
visited. -/
theorem filterMap_ask?_consultEvents (inner : Nat → World → List Event) (uncancelled :
      Uncancelled context.root (visits context name arguments handlers earlier world)) :
    (consultEvents context name arguments inner handlers earlier.head? world).filterMap Event.ask? =
      (visits context name arguments handlers earlier world).map fun visit =>
        (visit.handler.label, name, visit.world) := by
  induction handlers generalizing earlier world with
  | nil => rfl
  | cons handler rest ih =>
    rcases consult.ask_cons uncancelled.first with
      ⟨writes, after, record, -, asked⟩ | ⟨writes, reason, after, record, -, asked⟩
    · rw [record] at uncancelled ⊢
      have later := ih fun visit member => uncancelled visit (List.mem_cons_of_mem _ member)
      rw [asked inner, later, List.map_cons]
    · rw [asked inner, record]
      rfl

/-- No handler is passed over. -/
theorem map_handler_visits_prefix :
    (visits context name arguments handlers earlier world).map Visit.handler <+: handlers := by
  induction handlers generalizing earlier world with
  | nil => exact List.prefix_refl []
  | cons handler rest ih =>
    rw [visits]
    cases (consult.response context name arguments handler world).run context.root arguments earlier.head?
        (world.addNote (.asked handler.label name)) with
    | ok claimed after => exact (List.prefix_cons_inj handler).mpr ih
    | error reason after => exact (List.prefix_cons_inj handler).mpr List.nil_prefix

/-- None is asked after one that does not come to its end. -/
theorem pairwise_visits :
    (visits context name arguments handlers earlier world).Pairwise fun visit _ =>
      visit.stop = none := by
  induction handlers generalizing earlier world with
  | nil => exact .nil
  | cons handler rest ih =>
    rw [visits]
    cases (consult.response context name arguments handler world).run context.root arguments earlier.head?
        (world.addNote (.asked handler.label name)) with
    | ok claimed after => exact .cons (fun _ _ => rfl) ih
    | error reason after => exact .cons nofun .nil

/-- All are asked if all come to their end. -/
theorem map_handler_visits_of_complete
    (complete : ∀ visit ∈ visits context name arguments handlers earlier world, visit.stop = none) :
    (visits context name arguments handlers earlier world).map Visit.handler = handlers := by
  induction handlers generalizing earlier world with
  | nil => rfl
  | cons handler rest ih =>
    rw [visits] at complete ⊢
    cases outcome : (consult.response context name arguments handler world).run context.root arguments
        earlier.head? (world.addNote (.asked handler.label name)) with
    | ok claimed after =>
      rw [outcome] at complete
      rw [List.map_cons, ih fun visit member => complete visit (List.mem_cons_of_mem _ member)]
    | error reason after =>
      rw [outcome] at complete
      exact nomatch complete _ List.mem_cons_self

end Chain

/-! ## What handlers change -/

/-- Whether memories and random numbers have changed from one world to another only where arguments were
evaluated, each of them in the world that is listed with it. -/
def World.ChangesIn : World → List (Argument × World) → World → Prop
  | first, [], last => ∀ store, (first.store store).Alike (last.store store)
  | first, (argument, before) :: rest, last =>
    (∀ store, (first.store store).Alike (before.store store)) ∧
      ChangesIn (argument.value.leaves before) rest last

namespace World.ChangesIn

variable {first second third : World} {here there : List (Argument × World)}

theorem of_alike (alike : ∀ store, (first.store store).Alike (second.store store))
    (changes : ChangesIn second there third) : ChangesIn first there third := by
  cases there with
  | nil => exact fun store => (alike store).trans (changes store)
  | cons evaluation rest => exact ⟨fun store => (alike store).trans (changes.1 store), changes.2⟩

theorem append (before : ChangesIn first here second) (after : ChangesIn second there third) :
    ChangesIn first (here ++ there) third := by
  induction here generalizing first with
  | nil => exact of_alike before after
  | cons evaluation rest ih => exact ⟨before.1, ih before.2⟩

theorem joins : Joins ChangesIn where
  stay _ _ := .refl _
  compose := append
  cancels place world := by
    unfold World.cancelAt
    cases world.hosted[place]? with
    | none => exact fun _ => .refl _
    | some id => exact fun store => world.alike_setCancelled id store true
  notes _ _ _ := .refl _

end World.ChangesIn

/-- The argument that a handler asks for, if there is one, and the world in which it does so. -/
def evaluationAt (arguments : List Argument) (position : Nat) (world : World) :
    List (Argument × World) :=
  (arguments[position]?.map fun argument => (argument, world)).toList

/-- Handlers change memories and random numbers only by evaluating arguments. -/
theorem consult_changesIn (context : Context) (handlers : List Handler) (name : String)
    (arguments : List Argument) (world : World) :
    World.ChangesIn world
      (consultTrail context name arguments (evaluationAt arguments) handlers none world)
      ((consult context handlers name arguments).leaves world) := by
  have known : Joins.OfArguments World.ChangesIn arguments (evaluationAt arguments) := by
    constructor
    · intro position argument located world
      rw [evaluationAt, located]
      exact ⟨fun _ => .refl _, fun _ => .refl _⟩
    · intro position missing
      funext world
      rw [evaluationAt, missing]
      rfl
  exact World.ChangesIn.joins.consult known context handlers name world

end ClockedFormula
