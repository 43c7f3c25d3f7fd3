import ClockedFormula.Handler.Script
import ClockedFormula.Proofs.Evaluation.Occasion
import ClockedFormula.Proofs.Walk.Consultation

namespace ClockedFormula

open Walk

/-!
# Claims of handlers

What the handlers of a call or of a name come to decides about all the rest.  A claim is the value of the call,
and it is noted as its last result; the function need not exist, and it is not asked how many arguments it
takes.  Without a claim the call goes on as if it had no handlers, in the world that the handlers leave
behind.  That world is not the one in which they were asked, but its memories and random numbers have changed
only where handlers have evaluated arguments of the call.
-/

/-- The record of the handlers that are asked about a name. -/
def record (context : Context) (handlers : List Handler) (name : String) (arguments : List Argument)
    (world : World) : List Visit :=
  visits context name arguments handlers [] world

/-- Whether handlers are asked in their order, each of them once, until the first one that does not come to
its end; and the chain comes to the interruption of that one, or to the first write of all.  Memories and random
numbers change only where the handlers evaluate arguments. -/
structure Broadcasts (context : Context) (handlers : List Handler) (name : String)
    (arguments : List Argument) (world : World) : Prop where
  inOrder : (record context handlers name arguments world).map Visit.handler <+: handlers
  untilStop : (record context handlers name arguments world).Pairwise fun visit _ => visit.stop = none
  complete : (∀ visit ∈ record context handlers name arguments world, visit.stop = none) →
    (record context handlers name arguments world).map Visit.handler = handlers
  asked : ∀ inner,
    (consultEvents context name arguments inner handlers none world).filterMap Event.ask? =
      (record context handlers name arguments world).map fun visit =>
        (visit.handler.label, name, visit.world)
  comes : (consult context handlers name arguments).ending world =
    verdict [] (record context handlers name arguments world)
  changes : World.ChangesIn world
    (consultTrail context name arguments (evaluationAt arguments) handlers none world)
    ((consult context handlers name arguments).leaves world)

section Chains

variable {context : Context} {handlers : List Handler} {name : String} {arguments : List Argument}
  {world : World}

theorem broadcasts_of_uncancelled
    (uncancelled : Uncancelled context.root (record context handlers name arguments world)) :
    Broadcasts context handlers name arguments world where
  inOrder := map_handler_visits_prefix
  untilStop := pairwise_visits
  complete := map_handler_visits_of_complete
  asked inner := filterMap_ask?_consultEvents inner uncancelled
  comes := consult.ending_ask uncancelled
  changes := consult_changesIn context handlers name arguments world

end Chains

/-! ## Calls -/

section Calls

variable {context : Context} {id : NodeId} {name : String} {arguments : List Argument} {world : World}

theorem evaluateCall_of_error {reason : Interruption} {asked : World}
    (stopped : consult context context.functionHandlers (context.foldName name) arguments world =
      .error reason asked) :
    evaluateCall context id name arguments world = .error reason asked :=
  bind_error stopped _

theorem evaluateCall_of_claim {v : Value} {asked : World}
    (claimed : consult context context.functionHandlers (context.foldName name) arguments world =
      .ok (some v) asked) :
    evaluateCall context id name arguments world =
      .ok v (asked.setNode context.store id
        { asked.node context.store id with lastValue := some v }) :=
  bind_ok claimed _

theorem evaluateCall_of_no_claim {asked : World}
    (unclaimed : consult context context.functionHandlers (context.foldName name) arguments world =
      .ok none asked) :
    evaluateCall context id name arguments world =
      evaluateCall { context with functionHandlers := [] } id name arguments asked :=
  bind_ok unclaimed _

/-- What becomes of a call by what its handlers come to.  A claim changes nothing in the memory of the call but
its last result. -/
def CallFollows (context : Context) (id : NodeId) (name : String) (arguments : List Argument)
    (world : World) : Except Interruption (Option Value) → Prop :=
  let chain := consult context context.functionHandlers (context.foldName name) arguments
  let asked := chain.leaves world
  fun
    | .error reason => evaluateCall context id name arguments world = .error reason asked
    | .ok (some v) =>
      evaluateCall context id name arguments world =
        .ok v (asked.setNode context.store id
          { asked.node context.store id with lastValue := some v })
    | .ok none =>
      evaluateCall context id name arguments world =
        evaluateCall { context with functionHandlers := [] } id name arguments asked

theorem callFollows_ending :
    CallFollows context id name arguments world
      ((consult context context.functionHandlers (context.foldName name) arguments).ending world) := by
  unfold CallFollows ending leaves
  cases outcome : consult context context.functionHandlers (context.foldName name) arguments world with
  | error reason asked => exact evaluateCall_of_error outcome
  | ok claimed asked =>
    cases claimed with
    | some v => exact evaluateCall_of_claim outcome
    | none => exact evaluateCall_of_no_claim outcome

end Calls

/-! ## Names -/

/-- What becomes of a name without a binding by what its handlers come to. -/
def NameFollows (enter : Context → Formula → Walk Value) (context : Context) (name : String)
    (world : World) : Except Interruption (Option Value) → Prop :=
  let asked := (consult context context.identifierHandlers (context.foldName name) []).leaves world
  fun
    | .error reason => evaluateIdentifier enter context name world = .error reason asked
    | .ok (some v) => evaluateIdentifier enter context name world = .ok v asked
    | .ok none =>
      evaluateIdentifier enter context name world = .error (.failed (.parameterNotDefined name)) asked

theorem nameFollows_ending {enter : Context → Formula → Walk Value} {context : Context}
    {name : String} {world : World} (unbound : context.find? name = none)
    (unread : context.clockReading? name = none) :
    NameFollows enter context name world
      ((consult context context.identifierHandlers (context.foldName name) []).ending world) := by
  unfold NameFollows evaluateIdentifier ending leaves
  rw [unbound]
  dsimp only
  rw [unread]
  cases outcome : consult context context.identifierHandlers (context.foldName name) [] world with
  | error reason asked => exact bind_error outcome _
  | ok claimed asked =>
    cases claimed with
    | some v => exact bind_ok outcome _
    | none => exact bind_ok outcome _

/-- Every chain of handlers in a walk that is not cancelled is a broadcast in which the first write wins, and
calls and names go by what it comes to. -/
theorem first_write_wins (enter : Context → Formula → Walk Value) (context : Context) :
    (∀ handlers name arguments world,
      Uncancelled context.root (record context handlers name arguments world) →
        Broadcasts context handlers name arguments world) ∧
    (∀ id name arguments world,
      let visits := record context context.functionHandlers (context.foldName name) arguments world
      Uncancelled context.root visits →
        CallFollows context id name arguments world (verdict [] visits)) ∧
    ∀ name world, context.find? name = none → context.clockReading? name = none →
      let visits := record context context.identifierHandlers (context.foldName name) [] world
      Uncancelled context.root visits → NameFollows enter context name world (verdict [] visits) := by
  refine ⟨fun _ _ _ _ => broadcasts_of_uncancelled, ?calls, ?names⟩
  case calls =>
    intro id name arguments world visits uncancelled
    rw [← (broadcasts_of_uncancelled uncancelled).comes]
    exact callFollows_ending
  case names =>
    intro name world unbound unread visits uncancelled
    rw [← (broadcasts_of_uncancelled uncancelled).comes]
    exact nameFollows_ending unbound unread

/-- One handler looks into the slot, the next one writes null and then a number, and the last one looks and
writes in the end. -/
def claiming : List Handler :=
  [(Script.mk [⟨Script.anyName, [.noteClaim]⟩] false).handler "looking",
    (Script.mk [⟨Script.anyName, [.answer .null, .answer (.integer 5)]⟩] false).handler "eager",
    (Script.mk [⟨Script.anyName, [.noteClaim, .answer (.integer 7)]⟩] true).handler "late"]

/-- The context of a formula that has these handlers for calls, and the first of them for names too. -/
def claimingContext : Context where
  options := .default
  bindings := .empty
  identifierHandlers := claiming.take 1
  functionHandlers := claiming
  store := ⟨0⟩
  clock := .blank
  root := ⟨0⟩

/-- The call of a function that does not exist comes to null, and the name is not defined. -/
theorem claiming_comes_to_null :
    (record claimingContext claiming "nothing" [] World.empty).map Visit.writes =
        [[], [.null, .integer 5], [.integer 7]] ∧
      (consult claimingContext claiming "nothing" []).ending World.empty = .ok (some .null) ∧
      (evaluateCall claimingContext ⟨0⟩ "nothing" []).ending World.empty = .ok .null ∧
      (evaluateIdentifier Formula.entering claimingContext "x").ending World.empty =
        .error (.failed (.parameterNotDefined "x")) := by
  obtain ⟨chains, calls, names⟩ := first_write_wins Formula.entering claimingContext
  have called : Uncancelled ⟨0⟩ (record claimingContext claiming "nothing" [] World.empty) := by
    decide +kernel
  have named : Uncancelled ⟨0⟩
      (record claimingContext (claiming.take 1) "x" [] World.empty) := by decide +kernel
  have claimed : CallFollows claimingContext ⟨0⟩ "nothing" [] World.empty (.ok (some .null)) :=
    calls ⟨0⟩ "nothing" [] World.empty called
  have undefined : NameFollows Formula.entering claimingContext "x" World.empty (.ok none) :=
    names "x" World.empty rfl rfl named
  refine ⟨rfl, (chains claiming "nothing" [] World.empty called).comes, ending_ok claimed, ?_⟩
  rw [ending, undefined]

end ClockedFormula
