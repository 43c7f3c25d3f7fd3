import ClockedFormula.Proofs.Evaluation.Moment

namespace ClockedFormula

open Walk

/-!
# Evaluations by a host

A host evaluates a formula again and again.  From one evaluation to the next it may change the bindings,
move the clock in any direction, and feed values into calls.  All this together is an occasion.

A history follows one call through many occasions: it lists the moments of the call in all of them.
The memory of the call is changed by these moments alone, also across occasions.
-/

/-- The value of an evaluation that has come to one. -/
def Outcome.value? : Outcome → Option Value
  | .finished (.ok v) => some v
  | .finished (.error _) => none
  | .unfinished => none

namespace Formula

/-- A formula without handlers whose names are bound to values. -/
structure Plain (f : Formula) : Prop where
  identifierHandlers : f.identifierHandlers = []
  functionHandlers : f.functionHandlers = []
  onlyValues : Bindings.OnlyValues f.bindings

theorem handlers_eq_nil {f : Formula} (unhandled : f.hasHandlers = false) :
    f.identifierHandlers = [] ∧ f.functionHandlers = [] := by
  rw [hasHandlers, Bool.or_eq_false_iff, Bool.not_eq_false', Bool.not_eq_false'] at unhandled
  exact ⟨List.isEmpty_iff.mp unhandled.1, List.isEmpty_iff.mp unhandled.2⟩

theorem Plain.of_hasHandlers {f : Formula} (unhandled : f.hasHandlers = false)
    (onlyValues : Bindings.OnlyValues f.bindings) : f.Plain :=
  ⟨(handlers_eq_nil unhandled).1, (handlers_eq_nil unhandled).2, onlyValues⟩

theorem Plain.context {f : Formula} (plain : f.Plain) (clock : Clock) :
    (Context.ofFormula f clock).Plain :=
  ⟨plain.identifierHandlers, plain.functionHandlers, plain.onlyValues⟩

/-- How the walk of a formula enters another one. -/
def entering : Context → Formula → Walk Value :=
  fun outer f => walk (depthLimit - 1) (outer.enter f) f.expression

/-- The walk of a formula at a clock. -/
def walkAt (f : Formula) (clock : Clock) : Walk Value :=
  evaluate entering (Context.ofFormula f clock) f.expression

theorem walk_depthLimit (f : Formula) (clock : Clock) :
    walk depthLimit (Context.ofFormula f clock) f.expression = f.walkAt clock := rfl

/-- What an evaluation by a host makes of the end of a walk. -/
def conclusion : EStateM.Result Interruption World Value → Outcome × World
  | .ok v after => (.finished (.ok v), after)
  | .error (.failed e) after => (.finished (.error e), after)
  | .error .dropped after => (.finished (.error .cancelled), after)
  | .error .exhausted after => (.unfinished, after)

theorem evaluateTo_eq (depth : Nat) (f : Formula) (clock : Clock) (world : World) :
    f.evaluateTo depth clock world =
      conclusion (walk depth (Context.ofFormula f clock) f.expression world) := by
  rw [evaluateTo]
  rcases walk depth (Context.ofFormula f clock) f.expression world with
    ⟨v, after⟩ | ⟨_ | _ | _, after⟩ <;> rfl

theorem evaluateTo_snd (depth : Nat) (f : Formula) (clock : Clock) (world : World) :
    (f.evaluateTo depth clock world).2 =
      (walk depth (Context.ofFormula f clock) f.expression).leaves world := by
  rw [evaluateTo_eq, leaves]
  rcases walk depth (Context.ofFormula f clock) f.expression world with
    ⟨v, after⟩ | ⟨_ | _ | _, after⟩ <;> rfl

theorem evaluateAt_eq (f : Formula) (clock : Clock) (world : World) :
    f.evaluateAt clock world = conclusion (f.walkAt clock world) := by
  rw [evaluateAt, evaluateTo_eq, walk_depthLimit]

theorem evaluateAt_conclude {f : Formula} {clock : Clock} {world after : World}
    {outcome : Attempt Value} (known : f.walkAt clock world = conclude outcome after) :
    f.evaluateAt clock world = (.finished outcome, after) := by
  rw [evaluateAt_eq, known]
  cases outcome <;> rfl

theorem evaluateAt_snd (f : Formula) (clock : Clock) (world : World) :
    (f.evaluateAt clock world).2 = (f.walkAt clock).leaves world := by
  rw [evaluateAt, evaluateTo_snd, walk_depthLimit]

/-- The moments in an evaluation of a formula. -/
def momentsAt (f : Formula) (clock : Clock) (world : World) : List Moment :=
  moments entering (Context.ofFormula f clock) f.expression world

/-- In an evaluation of a formula, what a call remembers changes at the moments of the call only. -/
theorem momentsAt_ownedBy {f : Formula} (plain : f.Plain) (consistent : f.expression.Consistent)
    (id : NodeId) (clock : Clock) (world : World) :
    OwnedBy f.store id world (f.momentsAt clock world) (f.evaluateAt clock world).2 := by
  rw [evaluateAt_snd]
  exact evaluate_ownedBy entering (plain.context clock) consistent id world

end Formula

/-! ## Occasions -/

/-- An evaluation of a formula by its host, and what the host does before it. -/
structure Occasion where
  /-- The values that the host feeds into calls. -/
  feeds : List (NodeId × Value)
  bindings : Bindings
  clock : Clock

namespace Occasion

/-- Feed a value into a call of a formula. -/
def feed (store : StoreId) (world : World) (feed : NodeId × Value) : World :=
  world.modifyMemory store fun memory => memory.inject feed.1 feed.2

/-- The world in which an evaluation begins. -/
def prepare (occasion : Occasion) (store : StoreId) (world : World) : World :=
  occasion.feeds.foldl (feed store) world

theorem feed_eq (store : StoreId) (world : World) (id : NodeId) (v : Value) :
    feed store world (id, v) =
      world.setNode store id { world.node store id with injected := some v } := rfl

/-- A host that feeds calls changes nothing but what is fed in. -/
theorem node_prepare (occasion : Occasion) (store : StoreId) (world : World) (id : NodeId) :
    ∃ injected, (occasion.prepare store world).node store id =
      { world.node store id with injected := injected } := by
  rw [prepare]
  induction occasion.feeds generalizing world with
  | nil => exact ⟨_, rfl⟩
  | cons entry rest ih =>
    rcases entry with ⟨other, v⟩
    rcases ih (feed store world (other, v)) with ⟨injected, same⟩
    rw [List.foldl_cons, same, feed_eq]
    by_cases own : id = other
    · subst own
      rw [World.node_setNode_self]
      exact ⟨injected, rfl⟩
    · rw [World.node_setNode_of_ne world store own]
      exact ⟨injected, rfl⟩

end Occasion

namespace Formula

/-- The formula that is evaluated on an occasion. -/
def on (f : Formula) (occasion : Occasion) : Formula := { f with bindings := occasion.bindings }

/-- The outcome of an evaluation on an occasion, and the world after it. -/
def evaluateOn (f : Formula) (occasion : Occasion) (world : World) : Outcome × World :=
  (f.on occasion).evaluateAt occasion.clock (occasion.prepare f.store world)

/-- An evaluation leaves the memory of all calls alone that are not in the formula. -/
theorem evaluateOn_spares {f : Formula} {occasion : Occasion} (plain : (f.on occasion).Plain)
    (consistent : f.expression.Consistent) {id : NodeId}
    (absent : ∀ application ∈ f.expression.applications, application.id ≠ id) (world : World) :
    (f.evaluateOn occasion world).2.node f.store id =
      (occasion.prepare f.store world).node f.store id := by
  have owned : OwnedBy f.store id (occasion.prepare f.store world)
      (moments entering (Context.ofFormula (f.on occasion) occasion.clock) f.expression
        (occasion.prepare f.store world)) (f.evaluateOn occasion world).2 :=
    momentsAt_ownedBy plain consistent id occasion.clock (occasion.prepare f.store world)
  rw [OwnedBy, momentsOf_eq_nil (moments_onlyOf _ _ _ _ world) absent] at owned
  exact owned

/-- The outcomes of the evaluations on several occasions, one after the other. -/
def outcomes (f : Formula) : List Occasion → World → List Outcome
  | [], _ => []
  | occasion :: rest, world =>
    (f.evaluateOn occasion world).1 :: f.outcomes rest (f.evaluateOn occasion world).2

/-- The moments of a call on several occasions. -/
def history (f : Formula) (id : NodeId) : List Occasion → World → List Moment
  | [], _ => []
  | occasion :: rest, world =>
    momentsOf id ((f.on occasion).momentsAt occasion.clock (occasion.prepare f.store world)) ++
      f.history id rest (f.evaluateOn occasion world).2

end Formula

end ClockedFormula
