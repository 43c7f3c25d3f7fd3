import ClockedFormula.Proofs.Function.Correspondence

namespace ClockedFormula

open Recipe

/-!
# Calls that can be repeated

A call at a clock that has not moved comes to what it came to before, and leaves what it left before.
Every function with memory is made so, but for the one that draws random numbers; and it is made so in
its own way, since the second time a frozen call does not ask for its argument and a smoothing does not
ask for its initial value.

`Repeatable` collects what later modules use of this.  Without any memory it does not matter, either, how
the clock has moved.
-/

namespace NodeState

/-- A call at a step has seen the step. -/
theorem lastStep_beginCall (state : NodeState) (now : UInt64) (resetOnNewRun : Bool) :
    (state.beginCall (some now) resetOnNewRun).2.lastStep = some now := by
  cases called : state.lastStep with
  | none => simp only [beginCall, called]
  | some last =>
    by_cases back : now < last ∧ resetOnNewRun = true
    · simp only [beginCall, called, if_pos back]
    · by_cases same : now = last
      · subst same
        rw [beginCall_repeated called]
        exact called
      · simp only [beginCall, called, if_neg back, if_neg same]

/-- Registering a call does not fill an empty memory. -/
theorem temporal_beginCall {state : NodeState} (empty : state.temporal = .empty)
    (step : Option UInt64) (resetOnNewRun : Bool) :
    (state.beginCall step resetOnNewRun).2.temporal = .empty := by
  cases step with
  | none => exact empty
  | some now =>
    cases called : state.lastStep with
    | none => simpa only [beginCall, called] using empty
    | some last =>
      by_cases back : now < last ∧ resetOnNewRun = true
      · simp only [beginCall, called, if_pos back]
        rfl
      · by_cases same : now = last
        · simpa only [beginCall, called, if_neg back, if_pos same] using empty
        · simpa only [beginCall, called, if_neg back, if_neg same] using empty

theorem injected_beginCall (state : NodeState) (step : Option UInt64) (resetOnNewRun : Bool) :
    (state.beginCall step resetOnNewRun).2.injected = state.injected := by
  cases step with
  | none => rfl
  | some now =>
    cases called : state.lastStep with
    | none => simp only [beginCall, called]
    | some last =>
      by_cases back : now < last ∧ resetOnNewRun = true
      · simp only [beginCall, called, if_pos back]
        rfl
      · by_cases same : now = last
        · simp only [beginCall, called, if_neg back, if_pos same]
        · simp only [beginCall, called, if_neg back, if_neg same]

end NodeState

namespace TemporalFunction

variable {count : Nat}

theorem run_publish (values : Fin count → Attempt Value) (v : Value) (state : Workspace) :
    (publish v).run values state =
      (.ok v, { state with node := { state.node with external := some v } }) := rfl

theorem asked_publish (values : Fin count → Attempt Value) (v : Value) (state : Workspace) :
    (publish v).asked values state = [] := rfl

theorem run_publishOperand (values : Fin count → Attempt Value) (position : Fin count)
    (state : Workspace) :
    ((operand position).bind publish).run values state =
      match values position with
      | .ok v => (.ok v, { state with node := { state.node with external := some v } })
      | .error e => (.error e, state) :=
  run_operand_bind values position publish state

theorem asked_publishOperand (values : Fin count → Attempt Value) (position : Fin count)
    (state : Workspace) :
    ((operand position).bind publish).asked values state = [position] := by
  rw [asked_operand_bind]
  cases values position <;> rfl

section FreezeOperand

variable (values : Fin count → Attempt Value) (position : Fin count) {state : Workspace}

theorem run_freezeOperand_of_eq {v : Value} (frozen : state.node.temporal = .frozen v) :
    (freezeOperand position).run values state = (.ok v, state) ∧
      (freezeOperand position).asked values state = [] := by
  simp only [freezeOperand, run, asked, frozen, and_self]

theorem run_freezeOperand_of_ne (thawed : ∀ v, state.node.temporal ≠ .frozen v) :
    (freezeOperand position).run values state =
        (match values position with
        | .ok v => (.ok v, { state with node := { state.node with temporal := .frozen v } })
        | .error e => (.error e, state)) ∧
      (freezeOperand position).asked values state = [position] := by
  have asks : (freezeOperand position).run values state =
        ((operand position).bind freeze).run values state ∧
      (freezeOperand position).asked values state =
        ((operand position).bind freeze).asked values state := by
    cases temporal : state.node.temporal with
    | empty => simp only [freezeOperand, run, asked, temporal, and_self]
    | frozen v => exact absurd temporal (thawed v)
    | stages levels => simp only [freezeOperand, run, asked, temporal, and_self]
  rw [asks.1, asks.2, run_operand_bind, asked_operand_bind]
  cases values position <;> exact ⟨rfl, rfl⟩

end FreezeOperand

section Gather

variable (order : Nat) (input delay : Fin count) (initial : Option (Fin count))
  (values : Fin count → Attempt Value)

/-- A smoothing fails by its input or its delay, whatever it finds, or it is up to its stages. -/
theorem gather_cases :
    (∃ e positions, ∀ setting state,
      (gather setting order input delay initial).run values state = (.error e, state) ∧
        (gather setting order input delay initial).asked values state = positions) ∨
    ∃ x d, ∀ setting state,
      (gather setting order input delay initial).run values state =
          (((nextStages setting order x d initial state.node.temporal).run values state).1.map
            fun stages => (x, stages), state) ∧
        (gather setting order input delay initial).asked values state =
          input :: delay ::
            (nextStages setting order x d initial state.node.temporal).asked values state := by
  simp only [gather, run_bind, asked_bind, run_operandDouble, asked_operandDouble]
  cases (values input).bind Value.toDouble with
  | error e => exact .inl ⟨e, [input], fun _ _ => ⟨rfl, rfl⟩⟩
  | ok x =>
    cases (values delay).bind Value.toDouble with
    | error e => exact .inl ⟨e, [input, delay], fun _ _ => ⟨rfl, rfl⟩⟩
    | ok d =>
      refine .inr ⟨x, d, fun setting state => ?_⟩
      rcases (nextStages_stateless setting order x d initial
        state.node.temporal).run_eq values state state with ⟨itself, _⟩
      simp only [run, asked, run_bind, asked_bind]
      rw [itself]
      cases ((nextStages setting order x d initial state.node.temporal).run values state).1 with
      | error e => exact ⟨rfl, by simp⟩
      | ok stages => exact ⟨rfl, by simp⟩

theorem length_nextStages {setting : Setting} {x d : Double} {temporal : Temporal}
    {state : Workspace} {stages : List Double}
    (done : ((nextStages setting order x d initial temporal).run values state).1 = .ok stages) :
    stages.length = order := by
  have restarts : ((smooth.restart order x initial).run values state).1 = .ok stages →
      stages.length = order := by
    cases initial with
    | none =>
      intro done
      cases done
      exact List.length_replicate
    | some position =>
      intro done
      change (((operandDouble position).bind fun a =>
        answer (List.replicate order a)).run values state).1 = .ok stages at done
      rw [run_bind, run_operandDouble] at done
      cases began : (values position).bind Value.toDouble with
      | ok a =>
        rw [began] at done
        cases done
        exact List.length_replicate
      | error e =>
        rw [began] at done
        cases done
  cases temporal with
  | empty => exact restarts done
  | frozen v => exact restarts done
  | stages before =>
    dsimp only [nextStages] at done
    by_cases sameOrder : before.length = order
    · rw [if_pos sameOrder] at done
      cases done
      by_cases moves : setting.progress.integrates = true
      · rw [if_pos moves, Smoothing.length_advance, sameOrder]
      · rw [if_neg moves, sameOrder]
    · rw [if_neg sameOrder] at done
      exact restarts done

/-- How the clock has moved plays no part when the stages start, and they fail only then. -/
theorem nextStages_of_error {setting : Setting} {x d : Double} {temporal : Temporal}
    {state : Workspace} {e : EvalError} (other : Setting)
    (failed : ((nextStages setting order x d initial temporal).run values state).1 = .error e) :
    nextStages other order x d initial temporal = nextStages setting order x d initial temporal := by
  cases temporal with
  | empty => rfl
  | frozen v => rfl
  | stages before =>
    dsimp only [nextStages] at failed ⊢
    by_cases sameOrder : before.length = order
    · rw [if_pos sameOrder] at failed
      cases failed
    · rw [if_neg sameOrder, if_neg sameOrder]

theorem run_smooth (setting : Setting) (state : Workspace) :
    (smooth setting order input delay initial).run values state =
        (match (gather setting order input delay initial).run values state with
        | (.ok gathered, after) =>
          (.ok (.float (gathered.2.getLastD gathered.1)),
            { after with node := { after.node with temporal := .stages gathered.2 } })
        | (.error e, after) => (.error e, after)) ∧
      (smooth setting order input delay initial).asked values state =
        (gather setting order input delay initial).asked values state := by
  rw [smooth_eq_gather, run_bind, asked_bind]
  cases (gather setting order input delay initial).run values state with
  | mk result after =>
    cases result with
    | ok gathered => exact ⟨rfl, List.append_nil _⟩
    | error e => exact ⟨rfl, List.append_nil _⟩

end Gather

/-- What makes the calls of a function repeatable. -/
structure Repeatable (recipe : Setting → Recipe Workspace count Value) : Prop where
  /-- A call spends no random numbers and does not forget the step. -/
  keeps : ∀ setting values state,
    ((recipe setting).run values state).2.random = state.random ∧
      ((recipe setting).run values state).2.node.lastStep = state.node.lastStep
  /-- Without a memory, it does not matter how the clock has moved. -/
  anew : ∀ clock options first second values state, state.node.temporal = .empty →
    (recipe ⟨clock, options, first⟩).run values state =
        (recipe ⟨clock, options, second⟩).run values state ∧
      (recipe ⟨clock, options, first⟩).asked values state =
        (recipe ⟨clock, options, second⟩).asked values state
  /-- When the clock has not moved, a call does what it did before, and asks for nothing else. -/
  again : ∀ clock options progress values state,
    (recipe ⟨clock, options, .repeated⟩).run values
          ((recipe ⟨clock, options, progress⟩).run values state).2 =
        (recipe ⟨clock, options, progress⟩).run values state ∧
      (recipe ⟨clock, options, .repeated⟩).asked values
          ((recipe ⟨clock, options, progress⟩).run values state).2 ⊆
        (recipe ⟨clock, options, progress⟩).asked values state

namespace Repeatable

/-- A function without memory, which only reads the clock. -/
theorem of_stateless {recipe : Setting → Recipe Workspace count Value}
    (same : ∀ clock options first second,
      recipe ⟨clock, options, first⟩ = recipe ⟨clock, options, second⟩)
    (stateless : ∀ setting, (recipe setting).Stateless) : Repeatable recipe where
  keeps := fun setting values state => by
    rcases (stateless setting).run_eq values state state with ⟨itself, _⟩
    rw [itself]
    exact ⟨rfl, rfl⟩
  anew := fun clock options first second values state _ => by
    rw [same clock options first second]
    exact ⟨rfl, rfl⟩
  again := fun clock options progress values state => by
    rcases (stateless ⟨clock, options, progress⟩).run_eq values state state with ⟨itself, _⟩
    rw [same clock options .repeated progress, itself]
    exact ⟨itself, List.Subset.refl _⟩

/-- A function that shows its argument to the host. -/
theorem publishes (position : Fin count) :
    Repeatable fun _ => (operand position).bind publish where
  keeps := fun _ values state => by
    rw [run_publishOperand]
    cases values position <;> exact ⟨rfl, rfl⟩
  anew := fun _ _ _ _ _ _ _ => ⟨rfl, rfl⟩
  again := fun _ _ _ values state => by
    rw [asked_publishOperand, asked_publishOperand, run_publishOperand]
    cases outcome : values position with
    | ok v =>
      rw [run_publishOperand, outcome]
      exact ⟨rfl, List.Subset.refl _⟩
    | error e =>
      rw [run_publishOperand, outcome]
      exact ⟨rfl, List.Subset.refl _⟩

/-- A function that shows what the host has fed in, or else its argument. -/
theorem publishesInjected (position : Fin count) :
    Repeatable fun _ => readState fun workspace =>
      match workspace.node.injected with
      | some v => publish v
      | none => (operand position).bind publish where
  keeps := fun setting values state => by
    simp only [run]
    cases state.node.injected with
    | some v => exact ⟨rfl, rfl⟩
    | none => exact (publishes position).keeps setting values state
  anew := fun _ _ _ _ _ _ _ => ⟨rfl, rfl⟩
  again := fun clock options progress values state => by
    cases fed : state.node.injected with
    | some v =>
      simp only [run, asked, fed, run_publish, asked_publish]
      exact ⟨trivial, List.Subset.refl _⟩
    | none =>
      have unfed : ((((operand position).bind publish).run values state).2).node.injected = none := by
        rw [run_publishOperand]
        cases values position <;> exact fed
      simp only [run, asked, fed, unfed]
      exact (publishes position).again clock options progress values state

/-- A function that freezes its argument. -/
theorem freezes (position : Fin count) : Repeatable fun _ => freezeOperand position where
  keeps := fun _ values state => by
    rcases frozen_or_thawed state.node.temporal with ⟨v, frozen⟩ | thawed
    · rw [(run_freezeOperand_of_eq values position frozen).1]
      exact ⟨rfl, rfl⟩
    · rw [(run_freezeOperand_of_ne values position thawed).1]
      cases values position <;> exact ⟨rfl, rfl⟩
  anew := fun _ _ _ _ _ _ _ => ⟨rfl, rfl⟩
  again := fun _ _ _ values state => by
    rcases frozen_or_thawed state.node.temporal with ⟨v, frozen⟩ | thawed
    · have itself := run_freezeOperand_of_eq values position frozen
      rw [itself.1]
      exact ⟨itself.1, List.Subset.refl _⟩
    · have itself := run_freezeOperand_of_ne values position thawed
      cases outcome : values position with
      | ok v =>
        rw [outcome] at itself
        have later := @run_freezeOperand_of_eq _ values position
          { state with node := { state.node with temporal := .frozen v } } v rfl
        rw [itself.1]
        exact ⟨later.1, later.2 ▸ List.nil_subset _⟩
      | error e =>
        rw [outcome] at itself
        rw [itself.1]
        exact ⟨itself.1, List.Subset.refl _⟩

/-- What comes before a call, and neither looks at the memory nor changes it, does no harm. -/
theorem after_stateless {α : Type} {first : Recipe Workspace count α}
    {next : Setting → α → Recipe Workspace count Value} (stateless : first.Stateless)
    (repeatable : ∀ a, Repeatable fun setting => next setting a) :
    Repeatable fun setting => first.bind (next setting) := by
  have known : ∀ values, (∃ e positions, ∀ setting state,
      (first.bind (next setting)).run values state = (.error e, state) ∧
        (first.bind (next setting)).asked values state = positions) ∨
      ∃ a positions, ∀ setting state,
        (first.bind (next setting)).run values state = (next setting a).run values state ∧
          (first.bind (next setting)).asked values state =
            positions ++ (next setting a).asked values state := by
    intro values
    have fixed := fun state => stateless.run_eq values state ⟨.blank, ⟨0, 0⟩⟩
    cases outcome : (first.run values ⟨.blank, ⟨0, 0⟩⟩).1 with
    | error e =>
      refine .inl ⟨e, first.asked values ⟨.blank, ⟨0, 0⟩⟩, fun setting state => ?_⟩
      have fails := (fixed state).1
      rw [outcome] at fails
      rw [run_bind, asked_bind, fails, (fixed state).2]
      exact ⟨rfl, List.append_nil _⟩
    | ok a =>
      refine .inr ⟨a, first.asked values ⟨.blank, ⟨0, 0⟩⟩, fun setting state => ?_⟩
      have goes := (fixed state).1
      rw [outcome] at goes
      rw [run_bind, asked_bind, goes, (fixed state).2]
      exact ⟨rfl, rfl⟩
  refine ⟨?_, ?_, ?_⟩
  · intro setting values state
    rcases known values with ⟨e, positions, fails⟩ | ⟨a, positions, goes⟩
    · rw [(fails _ _).1]
      exact ⟨rfl, rfl⟩
    · rw [(goes _ _).1]
      exact (repeatable a).keeps setting values state
  · intro clock options one two values state empty
    rcases known values with ⟨e, positions, fails⟩ | ⟨a, positions, goes⟩
    · rw [(fails _ _).1, (fails _ _).1, (fails _ _).2, (fails _ _).2]
      exact ⟨rfl, rfl⟩
    · rw [(goes _ _).1, (goes _ _).1, (goes _ _).2, (goes _ _).2]
      rcases (repeatable a).anew clock options one two values state empty with ⟨result, asks⟩
      exact ⟨result, congrArg (positions ++ ·) asks⟩
  · intro clock options progress values state
    rcases known values with ⟨e, positions, fails⟩ | ⟨a, positions, goes⟩
    · rw [(fails _ _).1, (fails _ _).1, (fails _ _).2, (fails _ _).2]
      exact ⟨rfl, List.Subset.refl _⟩
    · rw [(goes _ _).1, (goes _ _).1, (goes _ _).2, (goes _ _).2]
      rcases (repeatable a).again clock options progress values state with ⟨result, asks⟩
      exact ⟨result, List.append_subset.mpr ⟨List.subset_append_left _ _,
        List.Subset.trans asks (List.subset_append_right _ _)⟩⟩

/-- A smoothing. -/
theorem smooths (order : Nat) (input delay : Fin count) (initial : Option (Fin count)) :
    Repeatable fun setting => smooth setting order input delay initial where
  keeps := fun setting values state => by
    rw [(run_smooth order input delay initial values setting state).1]
    rcases gather_cases order input delay initial values with ⟨e, positions, fails⟩ | ⟨x, d, goes⟩
    · rw [(fails _ _).1]
      exact ⟨rfl, rfl⟩
    · rw [(goes _ _).1]
      cases ((nextStages setting order x d initial state.node.temporal).run values state).1 with
      | error e => exact ⟨rfl, rfl⟩
      | ok stages => exact ⟨rfl, rfl⟩
  anew := fun clock options one two values state empty => by
    have whole := fun setting => run_smooth order input delay initial values setting state
    rw [(whole _).1, (whole _).1, (whole _).2, (whole _).2]
    rcases gather_cases order input delay initial values with ⟨e, positions, fails⟩ | ⟨x, d, goes⟩
    · rw [(fails _ _).1, (fails _ _).1, (fails _ _).2, (fails _ _).2]
      exact ⟨rfl, rfl⟩
    · rw [(goes _ _).1, (goes _ _).1, (goes _ _).2, (goes _ _).2, empty]
      exact ⟨rfl, rfl⟩
  again := fun clock options progress values state => by
    have whole := run_smooth order input delay initial values
    rcases gather_cases order input delay initial values with ⟨e, positions, fails⟩ | ⟨x, d, goes⟩
    · have failed : (smooth ⟨clock, options, progress⟩ order input delay initial).run values state =
          (.error e, state) := by rw [(whole _ _).1, (fails _ _).1]
      rw [failed, (whole _ _).1, (whole _ _).2, (whole _ _).2, (fails _ _).1, (fails _ _).2,
        (fails _ _).2]
      exact ⟨rfl, List.Subset.refl _⟩
    · have first := goes ⟨clock, options, progress⟩ state
      cases outcome : ((nextStages ⟨clock, options, progress⟩ order x d initial
          state.node.temporal).run values state).1 with
      | error e =>
        rw [outcome] at first
        have failed : (smooth ⟨clock, options, progress⟩ order input delay initial).run values
            state = (.error e, state) := by rw [(whole _ _).1, first.1]; rfl
        have same := nextStages_of_error order initial values ⟨clock, options, .repeated⟩ outcome
        rw [failed, (whole _ _).1, (whole _ _).2, (whole _ _).2, (goes _ _).1, (goes _ _).2,
          (goes _ _).2, same, outcome]
        exact ⟨rfl, List.Subset.refl _⟩
      | ok stages =>
        rw [outcome] at first
        have smoothed : (smooth ⟨clock, options, progress⟩ order input delay initial).run values
            state = (.ok (.float (stages.getLastD x)),
              { state with node := { state.node with temporal := .stages stages } }) := by
          rw [(whole _ _).1, first.1]
          rfl
        have sameOrder := length_nextStages order initial values outcome
        have stays : nextStages ⟨clock, options, .repeated⟩ order x d initial (.stages stages) =
            answer stages := by
          dsimp only [nextStages]
          rw [if_pos sameOrder]
          rfl
        rw [smoothed, (whole _ _).1, (whole _ _).2, (whole _ _).2, (goes _ _).1, (goes _ _).2,
          first.2, stays]
        refine ⟨rfl, ?_⟩
        intro position member
        simp only [asked, List.mem_cons, List.not_mem_nil, or_false] at member
        rcases member with rfl | rfl
        · exact List.mem_cons_self
        · exact List.mem_cons_of_mem _ List.mem_cons_self

/-- A function of the time that the clock shows. -/
theorem timed {next : Setting → Double → Recipe Workspace count Value}
    (same : ∀ clock options first second,
      next ⟨clock, options, first⟩ = next ⟨clock, options, second⟩)
    (stateless : ∀ setting x, (next setting x).Stateless) :
    Repeatable fun setting => (Recipe.ofAttempt setting.time).bind (next setting) := by
  refine of_stateless (fun clock options first second => ?_) fun setting =>
    (Stateless.ofAttempt setting.time).bind (stateless setting)
  rw [same clock options first second]
  rfl

end Repeatable

/-- Every function with memory is repeatable, but for the one that draws random numbers. -/
theorem repeatable {f : TemporalFunction} {recipe : Setting → Recipe Workspace count Value}
    (steady : f ≠ normal) (accepted : f.recipe? count = some recipe) : Repeatable recipe := by
  cases kind accepted with
  | publishes position => exact .publishes position
  | publishesInjected position => exact .publishesInjected position
  | freezes position => exact .freezes position
  | timed _ _ next same stateless => exact .timed same stateless
  | draws mean deviation next stateless => exact absurd rfl steady
  | smooths _ order input delay initial smooths =>
    exact .after_stateless smooths.order_stateless fun order =>
      .smooths order input delay initial

end TemporalFunction

end ClockedFormula
