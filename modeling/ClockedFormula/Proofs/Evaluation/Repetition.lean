import ClockedFormula.Proofs.Evaluation.Meaning
import ClockedFormula.Proofs.Evaluation.Occasion

namespace ClockedFormula

open Walk

/-!
# Repeating an evaluation

At one step of the clock, a host can evaluate a formula as often as it likes.  The first evaluation may
start new runs, freeze values and move smoothings; it also asks for operands that later ones leave
alone.  Still all of them come to one result, and from the first one on the memory of the calls stays
as it is.

Both walks come to the meaning of the expression in the world before the first one.  For the second
walk the reason is that the first one has left every call either as it was or done with.  The same
holds in the middle of a walk, and so all visits of a shared call end in the same way.
-/

variable {enter : Context → Formula → Walk Value} {context : Context}
  {memory : NodeId → NodeState} {whole : Expr}

/-! ## The moments of a walk -/

/-- What happens during a call happens on the way to one of its operands, in a world with the invariant
that attends the call. -/
theorem mem_duringCall {μ : Type} {count : Nat} {id : NodeId} {name : String}
    {operands : Fin count → Walk Value} {inner : Fin count → World → List μ}
    {values : Fin count → Attempt Value} {invariant : List (Fin count) → World → Prop}
    (attends : Attends context.store id operands values invariant) {world : World}
    (start : invariant [] world) {event : μ}
    (member : event ∈ duringCall context id name count operands inner world) :
    ∃ position before other, invariant before other ∧ event ∈ inner position other := by
  rw [duringCall] at member
  cases resolved : Function.resolve name context.options.ignoreCase with
  | error e =>
    rw [resolved] at member
    cases member
  | ok f =>
    rw [resolved] at member
    cases f with
    | math f =>
      dsimp only at member
      cases accepted : f.recipe? context.options.roundAwayFromZero count with
      | none =>
        rw [accepted] at member
        cases member
      | some recipe =>
        rw [accepted] at member
        rcases Recipe.mem_trail
          (attends.plain (world.node context.store id) (world.random context.store)) recipe [] ()
          world ⟨start, rfl, rfl⟩ member with ⟨position, before, _, other, holds, inside⟩
        exact ⟨position, before, other, holds.1, inside⟩
    | temporal f =>
      dsimp only at member
      cases accepted : f.recipe? count with
      | none =>
        rw [accepted] at member
        cases member
      | some recipe =>
        rw [accepted, beginCall_eq] at member
        rcases Recipe.mem_trail attends.temporal _ []
            ⟨(context.registers (world.node context.store id)).2, world.random context.store⟩ _
            ⟨attends.registers [] (context.registers (world.node context.store id)).2 world start,
              World.node_setNode_self _ _ _ _, World.random_setNode _ _ _ _⟩ member with
          ⟨position, before, _, other, holds, inside⟩
        exact ⟨position, before, other, holds.1, inside⟩

/-- Whenever a walk reaches a call, the call ends as its meaning says. -/
theorem moments_meant (plain : context.Plain) {now : UInt64}
    (clocked : context.clock.step = some now) (consistent : whole.Consistent)
    (steady : ∀ application ∈ whole.applications, context.Steady application.name) {e : Expr}
    (inside : e.applications ⊆ whole.applications) {world : World}
    (ready : Ready context memory world e) {moment : Moment}
    (member : moment ∈ moments enter context e world) :
    ∃ application ∈ e.applications, moment.id = application.id ∧
      moment.ending =
        (meaning context memory application.expression).value.mapError Interruption.failed := by
  induction e using Expr.induct_composed generalizing world with
  | literal v => cases member
  | identifier name => cases member
  | composed e count recipe parts composed ih =>
    have divided := composed.divides consistent inside
    have first := fun position => ready.of_subset (composed.applications_subset position)
    have known := fun position (other : World)
        (ready : Ready context memory other (parts position)) =>
      evaluate_comesTo enter plain clocked consistent steady (divided.inside position)
        ready
    rw [composed.moments_eq] at member
    rcases Recipe.mem_trail
        (divided.accompanies known first) recipe [] () world ⟨.nil _ _ _ _, rfl⟩ member with
      ⟨position, before, _, other, holds, within⟩
    rcases ih position (divided.inside position) (divided.ready holds.1 first position) within with
      ⟨application, present, meant⟩
    exact ⟨application, composed.applications_subset position present, meant⟩
  | call id name arguments ih =>
    have divided := Application.divides consistent ⟨id, name, arguments⟩ inside
    have first := fun position =>
      ready.of_subset (Application.applications_argument ⟨id, name, arguments⟩ position)
    have argument : ∀ part ∈ arguments, part.applications ⊆ whole.applications :=
      fun part known _ within => inside
        (List.mem_cons_of_mem _ (applications_subset_ofAll known within))
    rw [moments_call] at member
    rcases List.mem_cons.mp member with itself | within
    · rcases evaluate_comesTo enter plain clocked consistent steady inside ready with
        ⟨after, evaluated, _⟩
      have walked := Application.walk_moment ⟨id, name, arguments⟩ enter context world
      rw [itself]
      exact ⟨⟨id, name, arguments⟩, List.mem_cons_self, rfl,
        ending_conclude ((congrFun walked world).trans evaluated)⟩
    · rcases mem_duringCall (Application.attends divided (fun part known _ ready =>
          evaluate_comesTo enter plain clocked consistent steady (argument part known) ready) first)
        (.nil _ _ _ world) within with ⟨position, before, other, reached, within⟩
      have known := List.get_mem arguments position
      rcases ih _ known (argument _ known) (divided.ready reached first position) within with
        ⟨application, present, meant⟩
      exact ⟨application, List.mem_cons_of_mem _ (applications_subset_ofAll known present), meant⟩

/-! ## Two evaluations -/

namespace Formula

/-- Whether a formula draws no random numbers. -/
def DrawsNothing (f : Formula) : Prop :=
  ∀ call ∈ f.expression.calls,
    Function.resolve call.2 f.options.ignoreCase ≠ .ok (.temporal .normal)

theorem DrawsNothing.steady {f : Formula} (drawsNothing : f.DrawsNothing) (clock : Clock) :
    ∀ application ∈ f.expression.applications,
      (Context.ofFormula f clock).Steady application.name := by
  intro application member
  refine drawsNothing (application.id, application.name) ?_
  rw [Expr.calls_eq_map_applications]
  exact List.mem_map_of_mem member

/-- An evaluation of a formula comes to its meaning in the world before. -/
theorem walkAt_comesTo {f : Formula} (plain : f.Plain) (consistent : f.expression.Consistent)
    (drawsNothing : f.DrawsNothing) {clock : Clock} {now : UInt64} (clocked : clock.step = some now)
    (world : World) :
    ComesTo entering (Context.ofFormula f clock) (world.node f.store) f.expression world :=
  evaluate_comesTo entering (plain.context clock) clocked consistent (drawsNothing.steady clock)
    (List.Subset.refl _) fun _ _ => .inl rfl

/-- A second evaluation at one step of the clock comes to the result of the first one, and leaves the
memory of every call as the first one has left it.  In each of them, all visits of one call end in the
same way. -/
theorem evaluateAt_again {f : Formula} (unhandled : f.hasHandlers = false)
    (onlyValues : Bindings.OnlyValues f.bindings) (consistent : f.expression.Consistent)
    (drawsNothing : f.DrawsNothing) {clock : Clock} {now : UInt64} (clocked : clock.step = some now)
    (world : World) :
    ∃ result after last,
      f.evaluateAt clock world = (.finished result, after) ∧
        f.evaluateAt clock after = (.finished result, last) ∧
        (∀ id, (last.node f.store id).temporal = (after.node f.store id).temporal ∧
          (last.node f.store id).lastStep = (after.node f.store id).lastStep) ∧
        ∀ first ∈ f.momentsAt clock world, ∀ second ∈ f.momentsAt clock world,
          first.id = second.id → first.ending = second.ending := by
  have plain := Plain.of_hasHandlers unhandled onlyValues
  have context := plain.context clock
  have steady := drawsNothing.steady clock
  rcases walkAt_comesTo plain consistent drawsNothing clocked world with
    ⟨after, evaluated, reached, _⟩
  have inside := calls_subset (Context.ofFormula f clock) (world.node f.store) f.expression
  have ready : Ready (Context.ofFormula f clock) (world.node f.store) after f.expression :=
    reached.ready consistent inside (fun _ => calls_closed f.expression) (List.Subset.refl _)
      (fun _ _ => List.not_mem_nil) fun _ _ => .inl rfl
  rcases evaluate_comesTo entering context clocked consistent steady (List.Subset.refl _) ready with
    ⟨last, repeated, again, _⟩
  refine ⟨_, after, last, evaluateAt_conclude evaluated, evaluateAt_conclude repeated, ?_, ?_⟩
  · intro id
    rcases NodeState.carried_eq_iff.mp (reached.carried_again again id) with ⟨lastStep, temporal, _⟩
    exact ⟨temporal, lastStep⟩
  · intro first inFirst second inSecond same
    rcases moments_meant context clocked consistent steady
      (List.Subset.refl _) (fun _ _ => .inl rfl) inFirst with ⟨one, inOne, isOne, endsOne⟩
    rcases moments_meant context clocked consistent steady
      (List.Subset.refl _) (fun _ _ => .inl rfl) inSecond with ⟨other, inOther, isOther, endsOther⟩
    have shared := consistent one inOne other inOther (isOne.symm.trans (same.trans isOther))
    rw [endsOne, endsOther, shared]

/-- The smoothing of a parameter. -/
def smoothedParameter : Application :=
  ⟨⟨0⟩, "smth1", [.identifier "x", .literal (.float (.ofNat 2))]⟩

/-- The formula in which one smoothing is added to itself. -/
def doubled (x : Nat) : Formula where
  expression := .binary .plus smoothedParameter.expression smoothedParameter.expression
  options := .default
  bindings := ⟨[("x", .value (.float (.ofNat x)))]⟩
  identifierHandlers := []
  functionHandlers := []
  store := ⟨0⟩

/-- The world in which the smoothing is level at zero. -/
def doubledWorld : World := ((doubled 0).evaluateAt ⟨none, some 4, none⟩ World.empty).2

theorem doubled_again :
    ∃ after last,
      (doubled 8).evaluateAt ⟨none, some 6, none⟩ doubledWorld =
          (.finished (.ok (.float (.ofNat 8))), after) ∧
        (doubled 8).evaluateAt ⟨none, some 6, none⟩ after =
          (.finished (.ok (.float (.ofNat 8))), last) ∧
        (last.node ⟨0⟩ ⟨0⟩).temporal = .stages [.ofNat 4] := by
  have onlyValues : Bindings.OnlyValues (doubled 8).bindings := by
    intro entry member
    rw [List.mem_singleton.mp member]
    exact ⟨_, rfl⟩
  have only : ∀ application ∈ (doubled 8).expression.applications,
      application = smoothedParameter := by
    intro application member
    have both : application ∈ [smoothedParameter, smoothedParameter] := member
    simpa using both
  have consistent : (doubled 8).expression.Consistent :=
    fun first inFirst second inSecond _ => (only first inFirst).trans (only second inSecond).symm
  have drawsNothing : (doubled 8).DrawsNothing := by
    intro call member
    rw [Expr.calls_eq_map_applications] at member
    rcases List.mem_map.mp member with ⟨application, inside, rfl⟩
    have resolved : Function.resolve smoothedParameter.name (doubled 8).options.ignoreCase =
        .ok (.temporal .smooth1) := rfl
    rw [only application inside, resolved]
    exact nofun
  have clocked : Clock.step ⟨none, some 6, none⟩ = some 6 := rfl
  rcases evaluateAt_again rfl onlyValues consistent drawsNothing clocked doubledWorld with
    ⟨result, after, last, first, second, kept, _⟩
  have value : ((doubled 8).evaluateAt ⟨none, some 6, none⟩ doubledWorld).1.value? =
      some (.float (.ofNat 8)) := by decide +kernel
  have staged : (((doubled 8).evaluateAt ⟨none, some 6, none⟩ doubledWorld).2.node ⟨0⟩ ⟨0⟩).temporal =
      .stages [.ofNat 4] := by decide +kernel
  rw [first] at value staged
  cases result with
  | ok v =>
    cases Option.some.inj value
    exact ⟨after, last, first, second, (kept ⟨0⟩).1.trans staged⟩
  | error e => cases value

end Formula

end ClockedFormula
