import ClockedFormula.Proofs.Function.Kind
import ClockedFormula.Proofs.NodeMemory.History
import ClockedFormula.Proofs.Recipe.Contract

namespace ClockedFormula

open Recipe

/-!
# The shape of what a call remembers

The memory of a call has room for everything that any function with memory needs.  What can be in it depends
on the function: only one function freezes a value, only the smoothings have stages, and their number is the
one that the function prescribes, and only two functions show something to the host.

A call shows a value before it notes its result.  In between the two differ, and so it takes the whole call,
with its result noted, to see that a value which is shown is the last result.  A handler that claims a call
changes the last result and shows nothing.
-/

namespace TemporalFunction

/-- Whether a function smooths with so many stages. -/
def KeepsStages : TemporalFunction → Nat → Prop
  | smooth1, count => count = 1
  | smooth3, count => count = 3
  | smoothN, count => 1 ≤ count ∧ count ≤ mostStages
  | _, _ => False

theorem KeepsStages.pos {f : TemporalFunction} {count : Nat} (keeps : f.KeepsStages count) :
    0 < count := by
  cases f with
  | smooth1 => exact Nat.lt_of_lt_of_eq Nat.one_pos keeps.symm
  | smooth3 => exact Nat.lt_of_lt_of_eq (Nat.succ_pos 2) keeps.symm
  | smoothN => exact keeps.1
  | value | init | externalUpdate | ramp | step | pulse | normal => exact keeps.elim

end TemporalFunction

/-- Whether the memory of a call has the shape that belongs to the functions which the call can be of. -/
structure NodeState.Shaped (calls : TemporalFunction → Prop) (unclaimed : Prop) (state : NodeState) :
    Prop where
  frozen : ∀ v, state.temporal = .frozen v → calls .init
  stages : ∀ levels, state.temporal = .stages levels → ∃ f, calls f ∧ f.KeepsStages levels.length
  stepped : ∀ step, state.lastStep = some step → ∃ f, calls f
  shown : ∀ v, state.external = some v → calls .value ∨ calls .externalUpdate
  /-- No handler has claimed the call, and so what it shows is its last result. -/
  noted : unclaimed → ∀ v, state.external = some v → state.lastValue = some v

namespace NodeState

/-- The memory with a result that is noted. -/
def record (state : NodeState) (v : Value) : NodeState := { state with lastValue := some v }

namespace Shaped

variable {calls : TemporalFunction → Prop} {unclaimed : Prop} {state : NodeState}

theorem blank : NodeState.blank.Shaped calls unclaimed :=
  ⟨nofun, nofun, nofun, nofun, fun _ => nofun⟩

theorem startRun (state : NodeState) : state.startRun.Shaped calls unclaimed :=
  ⟨nofun, nofun, nofun, nofun, fun _ => nofun⟩

theorem inject (shaped : state.Shaped calls unclaimed) (injected : Option Value) :
    { state with injected := injected }.Shaped calls unclaimed :=
  ⟨shaped.frozen, shaped.stages, shaped.stepped, shaped.shown, shaped.noted⟩

theorem reset (state : NodeState) : state.reset.Shaped calls unclaimed := (startRun state).inject none

theorem step (shaped : state.Shaped calls unclaimed) {f : TemporalFunction} (called : calls f)
    (step : Option UInt64) : { state with lastStep := step }.Shaped calls unclaimed :=
  ⟨shaped.frozen, shaped.stages, fun _ _ => ⟨f, called⟩, shaped.shown, shaped.noted⟩

theorem beginCall (shaped : state.Shaped calls unclaimed) {f : TemporalFunction} (called : calls f)
    (step : Option UInt64) (resetOnNewRun : Bool) :
    (state.beginCall step resetOnNewRun).2.Shaped calls unclaimed := by
  rw [beginCall_snd]
  cases resetOnNewRun && MemoryOperation.goesBack step state.lastStep with
  | true => exact (startRun state).step called _
  | false => exact shaped.step called _

/-- A result that is noted without being shown. -/
theorem record (shaped : state.Shaped calls unclaimed)
    (hides : unclaimed → ¬ calls .value ∧ ¬ calls .externalUpdate) (v : Value) :
    (state.record v).Shaped calls unclaimed where
  frozen := shaped.frozen
  stages := shaped.stages
  stepped := shaped.stepped
  shown := shaped.shown
  noted alone shown known :=
    ((shaped.shown shown known).elim (hides alone).1 (hides alone).2).elim

/-- A result that is shown and noted. -/
theorem publish (shaped : state.Shaped calls unclaimed)
    (shows : calls .value ∨ calls .externalUpdate) (v : Value) :
    ({ state with external := some v }.record v).Shaped calls unclaimed :=
  ⟨shaped.frozen, shaped.stages, shaped.stepped, fun _ _ => shows, fun _ _ same => same⟩

theorem freeze (shaped : state.Shaped calls unclaimed) (called : calls .init) (v : Value) :
    { state with temporal := .frozen v }.Shaped calls unclaimed :=
  ⟨fun _ _ => called, nofun, shaped.stepped, shaped.shown, shaped.noted⟩

theorem smooth (shaped : state.Shaped calls unclaimed) {f : TemporalFunction} (called : calls f)
    {levels : List Double} (keeps : f.KeepsStages levels.length) :
    { state with temporal := .stages levels }.Shaped calls unclaimed where
  frozen := nofun
  stages := by
    intro other same
    cases same
    exact ⟨f, called, keeps⟩
  stepped := shaped.stepped
  shown := shaped.shown
  noted := shaped.noted

end Shaped

end NodeState

/-- Whether something holds of the memory in a workspace. -/
def Workspace.Remembers (kept : NodeState → Prop) (workspace : Workspace) : Prop := kept workspace.node

namespace TemporalFunction

open Workspace (Remembers)

variable {count : Nat} {kept : NodeState → Prop} {workspace : Workspace}

/-! ## Contracts of the parts of recipes -/

theorem draw_meets (holds : Remembers kept workspace) :
    (draw : Recipe Workspace count Double).Meets (Remembers kept) (fun _ => Remembers kept) workspace := holds

theorem drawNormal_meets (mean deviation : Double) (holds : Remembers kept workspace) :
    (drawNormal mean deviation : Recipe Workspace count Double).Meets (Remembers kept)
      (fun _ => Remembers kept) workspace :=
  (draw_meets holds).bind fun _ _ still => (draw_meets still).bind fun _ _ last => last

theorem order?_eq_ok {order : Int64} {number : Nat} (accepted : order? order = .ok number) :
    1 ≤ number ∧ number ≤ mostStages := by
  unfold order? at accepted
  by_cases inside : 1 ≤ order.toInt ∧ order.toInt ≤ mostStages
  · rw [if_pos inside] at accepted
    cases accepted
    omega
  · rw [if_neg inside] at accepted
    cases accepted

/-- The number of stages that a smoothing comes by is one that it can have. -/
theorem Smooths.order_meets {f : TemporalFunction} {order : Recipe Workspace count Nat}
    {input delay : Fin count} {initial : Option (Fin count)}
    (smooths : Smooths f count order input delay initial) (holds : Remembers kept workspace) :
    order.Meets (Remembers kept) (fun number other => Remembers kept other ∧ f.KeepsStages number)
      workspace := by
  have asked : ∀ {count : Nat} (position : Fin count),
      (askOrder position).Meets (Remembers kept)
        (fun number other => Remembers kept other ∧ KeepsStages .smoothN number) workspace := by
    intro count position
    refine ⟨holds, fun v other still => ?_⟩
    refine Meets.mono (Meets.ofAttempt still) fun number _ known => ⟨known.1, ?_⟩
    cases given : v.toInt64 with
    | error e =>
      rw [given] at known
      exact nomatch known.2
    | ok i =>
      rw [given] at known
      exact order?_eq_ok known.2
  cases smooths with
  | one => exact ⟨holds, rfl⟩
  | oneFrom => exact ⟨holds, rfl⟩
  | three => exact ⟨holds, rfl⟩
  | threeFrom => exact ⟨holds, rfl⟩
  | any => exact asked 2
  | anyFrom => exact asked 2

theorem nextStages_meets (setting : Setting) (number : Nat) (x d : Double)
    (initial : Option (Fin count)) (temporal : Temporal) (holds : Remembers kept workspace) :
    (nextStages setting number x d initial temporal).Meets (Remembers kept)
      (fun levels other => Remembers kept other ∧ levels.length = number) workspace := by
  have restarts : (smooth.restart number x initial).Meets (Remembers kept)
      (fun levels other => Remembers kept other ∧ levels.length = number) workspace := by
    cases initial with
    | none => exact ⟨holds, List.length_replicate⟩
    | some position =>
      exact (Meets.operandDouble position holds).bind fun _ _ still =>
        ⟨still, List.length_replicate⟩
  cases temporal with
  | empty => exact restarts
  | frozen v => exact restarts
  | stages levels =>
    dsimp only [nextStages]
    by_cases same : levels.length = number
    · rw [if_pos same]
      refine ⟨holds, ?_⟩
      cases setting.progress.integrates with
      | true => exact (Smoothing.length_advance _ x levels).trans same
      | false => exact same
    · rw [if_neg same]
      exact restarts

/-- A smoothing writes stages of the right number, and its result is the last of them. -/
theorem smooth_meets (setting : Setting) (number : Nat) (input delay : Fin count)
    (initial : Option (Fin count)) (holds : Remembers kept workspace) :
    (smooth setting number input delay initial).Meets (Remembers kept)
      (fun v other => ∃ state levels x, kept state ∧ levels.length = number ∧
        other.node = { state with temporal := .stages levels } ∧ v = .float (levels.getLastD x))
      workspace := by
  have gathered : (gather setting number input delay initial).Meets (Remembers kept)
      (fun gathered other => Remembers kept other ∧ gathered.2.length = number) workspace := by
    refine (Meets.operandDouble input holds).bind fun x _ still => ?_
    refine (Meets.operandDouble delay still).bind fun d found last => ?_
    exact (nextStages_meets setting number x d initial found.node.temporal last).bind
      fun _ _ next => next
  rw [smooth_eq_gather]
  refine gathered.bind fun gathered other next => ?_
  exact ⟨other.node, gathered.2, gathered.1, next.1, next.2, rfl, rfl⟩

/-! ## Contracts of functions -/

section Functions

variable {f : TemporalFunction} {recipe : Setting → Recipe Workspace count Value}

/-- The functions that show nothing neither freeze nor smooth, or they do so and touch nothing else. -/
theorem hidden_meets {noted : Value → Workspace → Prop}
    (accepted : f.recipe? count = some recipe) (hidden : f ≠ value ∧ f ≠ externalUpdate)
    (notes : ∀ v other, Remembers kept other → noted v other)
    (freezes : f = init → ∀ state v, kept state → kept { state with temporal := .frozen v })
    (smooths : ∀ state levels, f.KeepsStages levels.length → kept state →
      kept { state with temporal := .stages levels })
    (setting : Setting) (holds : Remembers kept workspace) :
    (recipe setting).Meets (Remembers kept) noted workspace := by
  cases kind accepted with
  | publishes position => exact absurd rfl hidden.1
  | publishesInjected position => exact absurd rfl hidden.2
  | freezes position =>
    have asked : ((operand position).bind freeze : Recipe Workspace count Value).Meets
        (Remembers kept) noted workspace :=
      ⟨holds, fun v other still => notes v _ (freezes rfl other.node v still)⟩
    simp only [freezeOperand, Meets]
    cases workspace.node.temporal with
    | frozen v => exact notes v workspace holds
    | empty => exact asked
    | stages levels => exact asked
  | timed f steady next same stateless =>
    refine Meets.bind (Meets.ofAttempt holds) fun x other known => ?_
    exact (Meets.of_stateless (stateless setting x) known.1).mono notes
  | draws mean deviation next stateless =>
    refine (Meets.operandDouble mean holds).bind fun mean _ still => ?_
    refine (Meets.operandDouble deviation still).bind fun deviation _ again => ?_
    refine (drawNormal_meets mean deviation again).bind fun sample _ drawn => ?_
    exact (Meets.of_stateless (stateless sample) drawn).mono notes
  | smooths f order input delay initial smoothing =>
    refine (smoothing.order_meets holds).bind fun number _ known => ?_
    refine (smooth_meets setting number input delay initial known.1).mono ?_
    rintro v other ⟨state, levels, x, still, length, same, rfl⟩
    refine notes _ other ?_
    rw [Remembers, same]
    exact smooths state levels (length ▸ known.2) still

/-- A smoothing comes to the last of the stages that it leaves, and it leaves some. -/
theorem smoothing_meets (smoothing : f = smooth1 ∨ f = smooth3 ∨ f = smoothN)
    (accepted : f.recipe? count = some recipe) (setting : Setting) (workspace : Workspace) :
    (recipe setting).Meets (Remembers fun _ => True)
      (fun v other => ∃ levels last, other.node.temporal = .stages levels ∧
        f.KeepsStages levels.length ∧ levels.getLast? = some last ∧ v = .float last) workspace := by
  rcases Smooths.exists_of_recipe? smoothing (Option.isSome_of_eq_some accepted) with
    ⟨order, input, delay, initial, smooths⟩
  rw [Option.some.inj (accepted.symm.trans smooths.recipe?_eq)]
  have nothing : Remembers (fun _ => True) workspace := trivial
  refine (smooths.order_meets nothing).bind fun number _ known => ?_
  refine (smooth_meets setting number input delay initial known.1).mono ?_
  rintro v other ⟨state, levels, x, _, length, same, rfl⟩
  have keeps : f.KeepsStages levels.length := length ▸ known.2
  have last := List.getLast?_eq_some_getLast (List.ne_nil_of_length_pos keeps.pos)
  refine ⟨levels, _, by rw [same], keeps, last, ?_⟩
  rw [List.getLastD_eq_getLast?, last]
  rfl

end Functions

section Shapes

variable {calls : TemporalFunction → Prop} {unclaimed : Prop}

theorem publish_meets (shows : calls value ∨ calls externalUpdate) (v : Value)
    (shaped : Remembers (NodeState.Shaped calls unclaimed) workspace) :
    (publish v : Recipe Workspace count Value).Meets (Remembers (NodeState.Shaped calls unclaimed))
      (fun v other => (other.node.record v).Shaped calls unclaimed) workspace :=
  shaped.publish shows v

/-- A call of a function keeps the shape of its memory until it notes its result, and then again. -/
theorem recipe_meets {f : TemporalFunction} {recipe : Setting → Recipe Workspace count Value}
    (accepted : f.recipe? count = some recipe) (called : calls f)
    (single : unclaimed → ∀ g, calls g → g = f) (setting : Setting)
    (shaped : Remembers (NodeState.Shaped calls unclaimed) workspace) :
    (recipe setting).Meets (Remembers (NodeState.Shaped calls unclaimed))
      (fun v other => (other.node.record v).Shaped calls unclaimed) workspace := by
  by_cases first : f = value
  · subst first
    match count, recipe, accepted with
    | 1, _, accepted =>
      cases accepted
      exact ⟨shaped, fun v _ still => publish_meets (.inl called) v still⟩
  · by_cases second : f = externalUpdate
    · subst second
      match count, recipe, accepted with
      | 1, _, accepted =>
        cases accepted
        change (readState _).Meets _ _ workspace
        simp only [Meets, Recipe.bind]
        cases workspace.node.injected with
        | some v => exact publish_meets (.inr called) v shaped
        | none => exact ⟨shaped, fun v _ still => publish_meets (.inr called) v still⟩
    · have hides : unclaimed → ¬ calls value ∧ ¬ calls externalUpdate := fun alone =>
        ⟨fun also => first (single alone _ also).symm, fun also => second (single alone _ also).symm⟩
      refine hidden_meets accepted ⟨first, second⟩ (fun v _ still => still.record hides v) ?freezes
        ?smooths setting shaped
      case freezes =>
        rintro rfl state v still
        exact still.freeze called v
      case smooths => exact fun state levels keeps still => still.smooth called keeps

end Shapes

end TemporalFunction

end ClockedFormula
