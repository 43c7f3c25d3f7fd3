import ClockedFormula.Proofs.Evaluation.Tracing
import ClockedFormula.Proofs.Walk.Congruence

namespace ClockedFormula

open Walk

/-!
# What walks keep

An invariant of worlds is kept by a walk if it holds in the world that the walk leaves behind, however the
walk ends.  Walks in sequence keep what their parts keep, and handlers keep whatever the arguments keep for
which they ask, as long as neither flags nor notes matter.

Inside a call the invariant may be broken for a while.  There it takes a statement about one walk from one
world: what holds with its value, and what holds if it is interrupted.
-/

namespace Walk

variable {α β : Type} {walk : Walk α} {world : World}

/-- Whether something holds of the value of a walk from a world and of the world after it, and something
else of the world in which it is interrupted. -/
def EndsIn (walk : Walk α) (world : World) (done : α → World → Prop) (stopped : World → Prop) : Prop :=
  match walk world with
  | .ok a after => done a after
  | .error _ after => stopped after

namespace EndsIn

variable {done : α → World → Prop} {stopped : World → Prop}

theorem of_ok {a : α} {after : World} (outcome : walk world = .ok a after) (holds : done a after) :
    walk.EndsIn world done stopped := by
  rw [EndsIn, outcome]
  exact holds

theorem of_error {reason : Interruption} {after : World} (outcome : walk world = .error reason after)
    (holds : stopped after) : walk.EndsIn world done stopped := by
  rw [EndsIn, outcome]
  exact holds

theorem ok (ends : walk.EndsIn world done stopped) {a : α} {after : World}
    (outcome : walk world = .ok a after) : done a after := by
  rwa [EndsIn, outcome] at ends

theorem error (ends : walk.EndsIn world done stopped) {reason : Interruption} {after : World}
    (outcome : walk world = .error reason after) : stopped after := by
  rwa [EndsIn, outcome] at ends

theorem mono (ends : walk.EndsIn world done stopped) {weaker : α → World → Prop}
    {other : World → Prop} (weaken : ∀ a after, done a after → weaker a after)
    (also : ∀ after, stopped after → other after) : walk.EndsIn world weaker other := by
  cases outcome : walk world with
  | ok a after => exact .of_ok outcome (weaken a after (ends.ok outcome))
  | error reason after => exact .of_error outcome (also after (ends.error outcome))

theorem bind (first : walk.EndsIn world done stopped) {next : α → Walk β}
    {last : β → World → Prop}
    (later : ∀ a after, done a after → (next a).EndsIn after last stopped) :
    (walk >>= next).EndsIn world last stopped := by
  cases outcome : walk world with
  | ok a after =>
    have rest := later a after (first.ok outcome)
    rwa [EndsIn, bind_ok outcome]
  | error reason after => exact .of_error (bind_error outcome next) (first.error outcome)

/-- What holds however a walk ends holds in the world that it leaves behind. -/
theorem leaves {kept : World → Prop} (ends : walk.EndsIn world (fun _ => kept) kept) :
    kept (walk.leaves world) := by
  cases outcome : walk world with
  | ok a after =>
    rw [leaves_ok outcome]
    exact ends.ok outcome
  | error reason after =>
    rw [leaves_error outcome]
    exact ends.error outcome

end EndsIn

/-- Whether an invariant of worlds holds after a walk if it has held before. -/
def Preserves (kept : World → Prop) (walk : Walk α) : Prop :=
  ∀ world, kept world → kept (walk.leaves world)

namespace Preserves

variable {kept : World → Prop}

theorem endsIn (preserves : walk.Preserves kept) (holds : kept world) :
    walk.EndsIn world (fun _ => kept) kept := by
  have left := preserves world holds
  cases outcome : walk world with
  | ok a after =>
    rw [leaves_ok outcome] at left
    exact .of_ok outcome left
  | error reason after =>
    rw [leaves_error outcome] at left
    exact .of_error outcome left

theorem bind (preserves : walk.Preserves kept) {next : α → Walk β}
    (later : ∀ a, (next a).Preserves kept) : (walk >>= next).Preserves kept :=
  fun _ holds => ((preserves.endsIn holds).bind fun a _ still => (later a).endsIn still).leaves

theorem sequential (kept : World → Prop) : Sequential fun first _ => first.Preserves kept where
  yields _ _ holds := holds
  stops _ _ holds := holds
  sequences first later := first.bind later

theorem followPlain {count : Nat} {operands : Fin count → Walk Value}
    (asks : ∀ position, (operands position).Preserves kept) (recipe : Recipe Unit count α) :
    (recipe.followPlain operands).Preserves kept :=
  @Sequential.followPlain _ _ _ operands operands (sequential kept) asks recipe

theorem evaluateIdentifier {enter : Context → Formula → Walk Value} {context : Context} {name : String}
    (opens : ∀ f, context.find? name = some (.formula f) → (enter context f).Preserves kept)
    (consulted : (ClockedFormula.consult context context.identifierHandlers (context.foldName name)
      []).Preserves kept) :
    (ClockedFormula.evaluateIdentifier enter context name).Preserves kept :=
  @Sequential.evaluateIdentifier _ (sequential kept) _ enter enter name opens consulted

theorem evaluateCall {context : Context} {id : NodeId} {name : String} {arguments : List Argument}
    (consulted : (ClockedFormula.consult context context.functionHandlers (context.foldName name)
      arguments).Preserves kept)
    (called : (callFunction context id name arguments).Preserves kept)
    (records : ∀ v,
      (Walk.modifyMemory context.store fun memory => memory.recordResult id v).Preserves kept) :
    (ClockedFormula.evaluateCall context id name arguments).Preserves kept :=
  @Sequential.evaluateCall _ (sequential kept) _ _ _ arguments arguments consulted called records

end Preserves

end Walk

/-- Handlers keep an invariant to which flags and notes do not matter. -/
theorem Law.Handling.of_kept {kept : World → Prop}
    (flags : ∀ place world, kept world → kept (world.cancelAt place))
    (notes : ∀ note world, kept world → kept (world.addNote note)) (root : StoreId) :
    Law.Handling root fun first _ _ last => kept first → kept last where
  idle _ holds := holds
  fails _ _ holds := holds
  compose here there holds := there (here holds)
  cancels := flags
  notes := notes
  asks handler name world _ := notes (.asked handler name) world
  declines _ _ holds := holds
  drops _ _ holds := holds
  resumes _ _ holds := holds
  catches kept := kept

/-- Handlers keep what the arguments keep for which they can ask. -/
theorem Walk.Preserves.consult {kept : World → Prop}
    (flags : ∀ place world, kept world → kept (world.cancelAt place))
    (notes : ∀ note world, kept world → kept (world.addNote note)) {arguments : List Argument}
    (preserves : ∀ argument ∈ arguments, argument.value.Preserves kept) (context : Context)
    (handlers : List Handler) (name : String) :
    (ClockedFormula.consult context handlers name arguments).Preserves kept := by
  have handling := Law.Handling.of_kept flags notes context.root
  have known : Tracing.OfArguments (Keeps fun first _ _ last => kept first → kept last) arguments
      fun _ _ => [] :=
    ⟨fun located => preserves _ (List.mem_of_getElem? located), fun _ => rfl⟩
  exact handling.keeps_ask (handling.keeps_answerAt known) name handlers none

end ClockedFormula
