import ClockedFormula.Proofs.Evaluation.Occasion
import ClockedFormula.Proofs.Smoothing.Call

namespace ClockedFormula

open Walk

namespace Smoothing

/-!
# Smoothing as a recurrence

On paper, a smoothing of some order is a recurrence over the calls of one node.  The stages start level
in the first call and whenever the clock step goes back; they stay in a call at the same step; and they
all move at once when the step goes on.  Calls know nothing of such a recurrence: each of them reads
what the node remembers, and compares the clock with the last step that the node has seen.

The main statement is that both come to the same, over any number of evaluations, in whatever order the
steps come and however often the node is reached in one of them.  The invariant is that the node
remembers the last step and the stages of the recurrence.
-/

/-! ## The recurrence -/

/-- What one call goes by. -/
structure Sample where
  step : UInt64
  deltaTime : Double
  input : Double
  delay : Double
  initial : Option Double

/-- The level of every stage. -/
abbrev Stages (order : Nat) : Type := Fin order → Double

namespace Stages

variable {order : Nat}

/-- Stages that are all level. -/
def flat (x : Double) : Stages order := fun _ => x

/-- What every stage moves towards. -/
def ahead (input : Double) (stages : Stages order) : Stages order
  | ⟨0, _⟩ => input
  | ⟨position + 1, inside⟩ => stages ⟨position, Nat.lt_of_succ_lt inside⟩

/-- All stages move at once by a share of their way. -/
def move (share input : Double) (stages : Stages order) : Stages order :=
  fun position => stages position + share * (ahead input stages position - stages position)

theorem ofFn_flat (x : Double) : List.ofFn (flat x : Stages order) = List.replicate order x := by
  apply List.ext_getElem
  · rw [List.length_ofFn, List.length_replicate]
  · intro position _ _
    rw [List.getElem_ofFn, List.getElem_replicate, flat]

/-- The stages move in place as they move at once. -/
theorem ofFn_move (share input : Double) (stages : Stages order) :
    List.ofFn (move share input stages) = advance share input (List.ofFn stages) := by
  apply List.ext_getElem?
  intro position
  rw [getElem?_advance, List.getElem?_ofFn, List.getElem?_ofFn]
  by_cases inside : position < order
  · rw [dif_pos inside, dif_pos inside, Option.map_some]
    cases position with
    | zero => rfl
    | succ before =>
      have earlier : before < order := Nat.lt_of_succ_lt inside
      have same : upstream input (List.ofFn stages) (before + 1) = stages ⟨before, earlier⟩ := by
        rw [upstream, List.getD_eq_getElem?_getD, List.getElem?_ofFn, dif_pos earlier,
          Option.getD_some]
      rw [same]
      rfl
  · rw [dif_neg inside, dif_neg inside, Option.map_none]

theorem getLastD_ofFn {last : Nat} (stages : Stages (last + 1)) (x : Double) :
    (List.ofFn stages).getLastD x = stages (Fin.last last) := by
  rw [List.ofFn_succ_last, List.getLastD_concat]

end Stages

/-- The last step of the clock and the stages at it, if there is one. -/
abbrev Past (order : Nat) : Type := Option (UInt64 × Stages order)

variable {order : Nat}

/-- The stages after a call. -/
def next (past : Past order) (sample : Sample) : Stages order :=
  match past with
  | none => .flat (sample.initial.getD sample.input)
  | some (step, stages) =>
    if sample.step < step then .flat (sample.initial.getD sample.input)
    else if sample.step = step then stages
    else stages.move (share sample.deltaTime sample.delay order) sample.input

/-- The past of the call after a call. -/
def elapse (past : Past order) (sample : Sample) : Past order :=
  some (sample.step, next past sample)

/-- The stages after each of several calls. -/
def recurrence : Past order → List Sample → List (Stages order)
  | _, [] => []
  | past, sample :: rest => next past sample :: recurrence (elapse past sample) rest

theorem recurrence_append (past : Past order) (first later : List Sample) :
    recurrence past (first ++ later) =
      recurrence past first ++ recurrence (first.foldl elapse past) later := by
  induction first generalizing past with
  | nil => rfl
  | cons sample rest ih =>
    rw [List.cons_append, recurrence, ih, recurrence, List.cons_append, List.foldl_cons]

/-! ## The invariant -/

/-- Whether a node remembers the past. -/
def Remembers (past : Past order) (node : NodeState) : Prop :=
  match past with
  | none => node.lastStep = none ∧ node.temporal = .empty
  | some (step, stages) =>
    node.lastStep = some step ∧ node.temporal = .stages (List.ofFn stages)

theorem Remembers.inject {past : Past order} {node : NodeState} (remembers : Remembers past node)
    (injected : Option Value) : Remembers past { node with injected := injected } := by
  cases past with
  | none => exact remembers
  | some before => exact remembers

/-- Registering a call and finding the stages for it is one step of the recurrence. -/
theorem Remembers.stagesAfter {past : Past order} {node : NodeState}
    (remembers : Remembers past node) {context : Context} {sample : Sample}
    (resets : context.options.resetOnNewRun = true)
    (clocked : context.clock.step = some sample.step)
    (deltaTime : context.deltaTime = sample.deltaTime) :
    Supply.stagesAfter ⟨order, sample.input, sample.delay, sample.initial⟩ context node =
        List.ofFn (next past sample) ∧
      (context.registers node).2.lastStep = some sample.step := by
  have level : List.replicate order (sample.initial.getD sample.input) =
      List.ofFn (Stages.flat (sample.initial.getD sample.input) : Stages order) :=
    (Stages.ofFn_flat _).symm
  rw [Supply.stagesAfter, Context.registers, deltaTime, clocked, resets]
  cases past with
  | none =>
    rcases remembers with ⟨first, empty⟩
    rw [NodeState.beginCall_first first, empty]
    exact ⟨level, rfl⟩
  | some before =>
    rcases before with ⟨step, stages⟩
    rcases remembers with ⟨called, known⟩
    rw [next]
    by_cases back : sample.step < step
    · rw [NodeState.beginCall_back called back, if_pos back]
      exact ⟨level, rfl⟩
    · rw [if_neg back]
      by_cases same : sample.step = step
      · subst same
        rw [NodeState.beginCall_repeated called, if_pos rfl, known, Supply.stages,
          List.length_ofFn, if_pos rfl]
        exact ⟨rfl, called⟩
      · have advanced : step < sample.step :=
          UInt64.lt_of_le_of_ne (UInt64.not_lt.mp back) (Ne.symm same)
        rw [NodeState.beginCall_advanced called advanced, if_neg same, known, Supply.stages,
          List.length_ofFn, if_pos rfl, Stages.ofFn_move]
        exact ⟨rfl, rfl⟩

/-! ## The calls of a node -/

namespace Node

/-- Whether a sample is what a call goes by: what the clock shows at its moment, and what its operands
come to there.  The initial value is asked for at every moment, although the call does not need it at
every moment. -/
structure Supplies (node : Node) (order : Nat) (moment : Moment) (sample : Sample) : Prop where
  step : moment.context.clock.step = some sample.step
  deltaTime : moment.context.deltaTime = sample.deltaTime
  operands : ∃ after, node.supplying Formula.entering moment.context moment.world =
    .ok ⟨order, sample.input, sample.delay, sample.initial⟩ after

/-- Whether samples are what the calls at several moments go by. -/
inductive SuppliesAll (node : Node) (order : Nat) : List Moment → List Sample → Prop
  | nil : SuppliesAll node order [] []
  | cons {moment : Moment} {sample : Sample} {moments : List Moment} {samples : List Sample} :
    node.Supplies order moment sample → SuppliesAll node order moments samples →
      SuppliesAll node order (moment :: moments) (sample :: samples)

theorem SuppliesAll.split {node : Node} {first later : List Moment} {samples : List Sample}
    (supplied : SuppliesAll node order (first ++ later) samples) :
    ∃ early late, samples = early ++ late ∧ SuppliesAll node order first early ∧
      SuppliesAll node order later late := by
  induction first generalizing samples with
  | nil => exact ⟨[], samples, rfl, .nil, supplied⟩
  | cons moment rest ih =>
    cases supplied with
    | cons here there =>
      rcases ih there with ⟨early, late, rfl, before, behind⟩
      exact ⟨_ :: early, late, rfl, .cons here before, behind⟩

variable {node : Node} {last : Nat} {context : Context}

/-- One call is one step of the recurrence. -/
theorem moment_follows (plain : context.Plain) (resets : context.options.resetOnNewRun = true)
    (resolved : Function.resolve node.application.name context.options.ignoreCase =
      .ok (.temporal node.function))
    (consistent : node.application.expression.Consistent) {world : World} {sample : Sample}
    {past : Past (last + 1)}
    (remembers : Remembers past (world.node context.store node.application.id))
    (supplied : node.Supplies (last + 1)
      (node.application.moment Formula.entering context world) sample) :
    (node.application.moment Formula.entering context world).ending =
        .ok (.float (next past sample (Fin.last last))) ∧
      Remembers (elapse past sample)
        ((node.application.moment Formula.entering context world).after.node context.store
          node.application.id) := by
  rcases supplied.operands with ⟨finish, done⟩
  have done : node.supplying Formula.entering context world = .ok _ finish := done
  rcases node.smooths.callOperands_ok resolved (fun position => argument_spares Formula.entering
      plain consistent (List.get_mem node.application.arguments position)) done with
    ⟨stages, after, staged, called, remembered⟩
  rcases remembers.stagesAfter resets supplied.step supplied.deltaTime with ⟨same, stepped⟩
  rw [staged.trans same] at called remembered
  rw [Stages.getLastD_ofFn] at called
  rcases Application.moment_ok Formula.entering plain called with ⟨ended, left⟩
  refine ⟨ended, ?_⟩
  rw [left, remembered]
  exact ⟨stepped, rfl⟩

/-- All moments of a node in one evaluation follow the recurrence. -/
theorem moments_follow (plain : context.Plain) (resets : context.options.resetOnNewRun = true)
    (resolved : Function.resolve node.application.name context.options.ignoreCase =
      .ok (.temporal node.function))
    (consistent : node.application.expression.Consistent) {events : List Moment}
    {samples : List Sample} {past : Past (last + 1)} {first final : NodeState}
    (own : ∀ moment ∈ events,
      moment = node.application.moment Formula.entering context moment.world)
    (linked : Linked context.store node.application.id first events final)
    (remembers : Remembers past first) (supplied : SuppliesAll node (last + 1) events samples) :
    events.map Moment.ending =
        (recurrence past samples).map (fun stages => .ok (.float (stages (Fin.last last)))) ∧
      Remembers (samples.foldl elapse past) final := by
  induction supplied generalizing past first with
  | nil =>
    cases linked
    exact ⟨rfl, remembers⟩
  | @cons moment sample events samples here there ih =>
    rcases linked with ⟨found, linked⟩
    have itself := own moment List.mem_cons_self
    rw [itself] at here
    rw [← found] at remembers
    rcases moment_follows plain resets resolved consistent remembers here with ⟨ended, left⟩
    rw [← itself] at ended left
    rcases ih (fun later member => own later (List.mem_cons_of_mem _ member)) linked left with
      ⟨endings, kept⟩
    refine ⟨?_, kept⟩
    rw [List.map_cons, ended, endings]
    rfl

/-- The moments of a node in all evaluations follow the recurrence, from any past that is
remembered. -/
theorem history_follows {f : Formula} (unhandled : f.hasHandlers = false)
    (resets : f.options.resetOnNewRun = true) (consistent : f.expression.Consistent)
    (inside : node.application ∈ f.expression.applications)
    (resolved : Function.resolve node.application.name f.options.ignoreCase =
      .ok (.temporal node.function))
    {occasions : List Occasion} (onlyValues : ∀ occasion ∈ occasions, occasion.bindings.OnlyValues)
    {world : World} {past : Past (last + 1)} {samples : List Sample}
    (remembers : Remembers past (world.node f.store node.application.id))
    (supplied : node.SuppliesAll (last + 1) (f.history node.application.id occasions world)
      samples) :
    (f.history node.application.id occasions world).map Moment.ending =
      (recurrence past samples).map fun stages => .ok (.float (stages (Fin.last last))) := by
  induction occasions generalizing world past samples with
  | nil =>
    cases supplied
    rfl
  | cons occasion rest ih =>
    have plain : (f.on occasion).Plain :=
      .of_hasHandlers unhandled (onlyValues occasion List.mem_cons_self)
    rcases SuppliesAll.split supplied with ⟨early, late, rfl, here, there⟩
    rcases occasion.node_prepare f.store world node.application.id with ⟨injected, prepared⟩
    have owned := Formula.momentsAt_ownedBy plain consistent node.application.id occasion.clock
      (occasion.prepare f.store world)
    have found : Remembers past
        ((occasion.prepare f.store world).node f.store node.application.id) := by
      rw [prepared]
      exact remembers.inject injected
    have own : ∀ moment ∈ momentsOf node.application.id
        ((f.on occasion).momentsAt occasion.clock (occasion.prepare f.store world)),
        moment = node.application.moment Formula.entering
          (Context.ofFormula (f.on occasion) occasion.clock) moment.world :=
      fun moment member => eq_moment_of_mem consistent inside member
    rcases moments_follow (plain.context occasion.clock) resets resolved
        (consistent.of_subset (Expr.applications_subset_of_mem inside)) own owned found here with
      ⟨endings, kept⟩
    have kept : Remembers (early.foldl elapse past)
        ((f.evaluateOn occasion world).2.node f.store node.application.id) := kept
    have later := ih (fun other member => onlyValues other (List.mem_cons_of_mem _ member)) kept
      there
    rw [Formula.history, List.map_append, endings, later, recurrence_append, List.map_append]

end Node

/-- A smoothing follows its recurrence through any number of evaluations, whatever the bindings and the
clock are in each of them. -/
theorem history_follows_recurrence {f : Formula} (unhandled : f.hasHandlers = false)
    (resets : f.options.resetOnNewRun = true) (consistent : f.expression.Consistent) {node : Node}
    (inside : node.application ∈ f.expression.applications)
    (resolved : Function.resolve node.application.name f.options.ignoreCase =
      .ok (.temporal node.function))
    {occasions : List Occasion} (onlyValues : ∀ occasion ∈ occasions, occasion.bindings.OnlyValues)
    {world : World} (fresh : (world.node f.store node.application.id).lastStep = none)
    (empty : (world.node f.store node.application.id).temporal = .empty)
    {last : Nat} {samples : List Sample}
    (supplied : node.SuppliesAll (last + 1) (f.history node.application.id occasions world)
      samples) :
    (f.history node.application.id occasions world).map Moment.ending =
      (recurrence none samples).map fun stages : Stages (last + 1) =>
        .ok (.float (stages (Fin.last last))) :=
  Node.history_follows unhandled resets consistent inside resolved onlyValues ⟨fresh, empty⟩
    supplied

/-- A smoothing of the first order that covers half of its way in one step. -/
def halfway : Node where
  application := ⟨⟨0⟩, "smth1", [.identifier "x", .literal (.float (.ofNat 2))]⟩
  function := .smooth1
  order := .answer 1
  input := ⟨0, Nat.zero_lt_two⟩
  delay := ⟨1, Nat.one_lt_two⟩
  initial := none
  smooths := .one

/-- The formula that is nothing but the smoothing of its parameter. -/
def halfwayFormula : Formula := .ofExpr halfway.application.expression .default ⟨0⟩

theorem halfwayFormula_consistent : halfwayFormula.expression.Consistent := by
  intro first inFirst second inSecond _
  have only : halfwayFormula.expression.applications = [halfway.application] := rfl
  rw [only] at inFirst inSecond
  rw [List.mem_singleton.mp inFirst, List.mem_singleton.mp inSecond]

/-- The parameter has a value, and the clock shows a step. -/
def halfwayOccasion (step : UInt64) (x : Nat) : Occasion :=
  ⟨[], ⟨[("x", .value (.float (.ofNat x)))]⟩, ⟨none, some step, none⟩⟩

/-- The clock goes on, stays, and goes back. -/
def halfwayOccasions : List Occasion :=
  [halfwayOccasion 4 0, halfwayOccasion 6 8, halfwayOccasion 6 2, halfwayOccasion 2 6]

theorem halfwayOccasion_onlyValues (step : UInt64) (x : Nat) :
    (halfwayOccasion step x).bindings.OnlyValues := by
  intro entry member
  rw [List.mem_singleton.mp member]
  exact ⟨_, rfl⟩

def halfwaySamples : List Sample :=
  [⟨4, .one, .ofNat 0, .ofNat 2, none⟩, ⟨6, .one, .ofNat 8, .ofNat 2, none⟩,
    ⟨6, .one, .ofNat 2, .ofNat 2, none⟩, ⟨2, .one, .ofNat 6, .ofNat 2, none⟩]

theorem halfwayFormula_history :
    (halfwayFormula.history ⟨0⟩ halfwayOccasions World.empty).map Moment.ending =
      [0, 4, 4, 6].map fun x => .ok (.float (.ofNat x)) := by
  have onlyValues : ∀ occasion ∈ halfwayOccasions, occasion.bindings.OnlyValues := by
    intro occasion member
    simp only [halfwayOccasions, List.mem_cons, List.not_mem_nil, or_false] at member
    rcases member with rfl | rfl | rfl | rfl <;> exact halfwayOccasion_onlyValues _ _
  have supplied : halfway.SuppliesAll (0 + 1)
      (halfwayFormula.history halfway.application.id halfwayOccasions World.empty)
      halfwaySamples :=
    .cons ⟨rfl, rfl, _, rfl⟩ (.cons ⟨rfl, rfl, _, rfl⟩ (.cons ⟨rfl, rfl, _, rfl⟩
      (.cons ⟨rfl, rfl, _, rfl⟩ .nil)))
  have levels : (recurrence none halfwaySamples).map (fun stages : Stages 1 => stages 0) =
      [0, 4, 4, 6].map Double.ofNat := by decide +kernel
  have follows := history_follows_recurrence rfl rfl halfwayFormula_consistent
    List.mem_cons_self rfl onlyValues rfl rfl supplied
  calc (halfwayFormula.history ⟨0⟩ halfwayOccasions World.empty).map Moment.ending
      = (recurrence none halfwaySamples).map
          (fun stages : Stages 1 => .ok (.float (stages 0))) := follows
    _ = ((recurrence none halfwaySamples).map (fun stages : Stages 1 => stages 0)).map
          (fun x => .ok (.float x)) := List.map_map.symm
    _ = [0, 4, 4, 6].map fun x => .ok (.float (.ofNat x)) := by rw [levels]; rfl

end Smoothing

end ClockedFormula
