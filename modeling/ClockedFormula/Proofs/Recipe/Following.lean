import ClockedFormula.Proofs.Recipe.Rehearsal
import ClockedFormula.Proofs.Walk.Node

namespace ClockedFormula

namespace Recipe

open Walk

variable {σ α β μ : Type} {count : Nat}

/-!
# Following a recipe in a world

Whoever follows a recipe needs the walks to its operands and to its state.  Two inductions over recipes
are all that later modules use.  The first one compares the walk with a rehearsal: an invariant between
the world, the state and the positions asked for so far carries it from question to question.  The
second one lists what happens on the way, as far as the walks to the operands tell it.
-/

/-- An invariant that accompanies whoever follows a recipe: it says what every operand comes to, and
what the state is.  It knows the positions that were asked for before. -/
structure Accompanies (operands : Fin count → Walk Value) (values : Fin count → Attempt Value)
    (read : Walk σ) (write : σ → Walk Unit) (invariant : List (Fin count) → σ → World → Prop) :
    Prop where
  asks : ∀ before position state world, invariant before state world →
    ∃ after, operands position world = conclude (values position) after ∧
      invariant (before ++ [position]) state after
  reads : ∀ before state world, invariant before state world → read world = .ok state world
  writes : ∀ before state next world, invariant before state world →
    ∃ after, write next world = .ok () after ∧ invariant before next after

/-- A recipe is followed as it is rehearsed, as long as an invariant accompanies it. -/
theorem follow_eq_run {operands : Fin count → Walk Value} {values : Fin count → Attempt Value}
    {read : Walk σ} {write : σ → Walk Unit} {invariant : List (Fin count) → σ → World → Prop}
    (accompanies : Accompanies operands values read write invariant) (recipe : Recipe σ count α)
    (before : List (Fin count)) (state : σ) (world : World)
    (holds : invariant before state world) :
    ∃ after, recipe.follow operands read write world = conclude (recipe.run values state).1 after ∧
      invariant (before ++ recipe.asked values state) (recipe.run values state).2 after := by
  induction recipe generalizing before state world with
  | answer a => exact ⟨world, rfl, by simpa only [asked, run, List.append_nil] using holds⟩
  | fail e => exact ⟨world, rfl, by simpa only [asked, run, List.append_nil] using holds⟩
  | ask position next ih =>
    rcases accompanies.asks before position state world holds with ⟨after, known, kept⟩
    cases outcome : values position with
    | error e =>
      rw [outcome] at known
      refine ⟨after, ?_, ?_⟩
      · simp only [run, outcome]
        exact bind_error known _
      · simpa only [asked, run, outcome] using kept
    | ok v =>
      rw [outcome] at known
      rcases ih v (before ++ [position]) state after kept with ⟨last, followed, done⟩
      refine ⟨last, ?_, ?_⟩
      · simp only [run, outcome]
        exact (bind_ok known _).trans followed
      · simpa only [asked, run, outcome, List.append_assoc, List.singleton_append] using done
  | readState next ih =>
    rcases ih state before state world holds with ⟨last, followed, done⟩
    exact ⟨last, (bind_ok (accompanies.reads before state world holds) _).trans followed, done⟩
  | writeState written next ih =>
    rcases accompanies.writes before state written world holds with ⟨after, stored, kept⟩
    rcases ih before written after kept with ⟨last, followed, done⟩
    exact ⟨last, (bind_ok stored _).trans followed, done⟩

/-! ## Sequences -/

theorem follow_bind (operands : Fin count → Walk Value) (read : Walk σ) (write : σ → Walk Unit)
    (recipe : Recipe σ count α) (next : α → Recipe σ count β) :
    (recipe.bind next).follow operands read write =
      recipe.follow operands read write >>= fun a => (next a).follow operands read write := by
  induction recipe with
  | answer a => rfl
  | fail e => rfl
  | ask position rest ih =>
    simp only [bind, follow, LawfulMonad.bind_assoc]
    exact bind_congr ih
  | readState rest ih =>
    simp only [bind, follow, LawfulMonad.bind_assoc]
    exact bind_congr ih
  | writeState state rest ih => simp only [bind, follow, ih, LawfulMonad.bind_assoc]

/-! ## Recipes that leave their state alone -/

/-- Whether a recipe never replaces its state, whatever values and states it sees. -/
def WritesNothing : Recipe σ count α → Prop
  | answer _ => True
  | fail _ => True
  | ask _ next => ∀ v, (next v).WritesNothing
  | readState next => ∀ state, (next state).WritesNothing
  | writeState _ _ => False

namespace WritesNothing

theorem bind {recipe : Recipe σ count α} {next : α → Recipe σ count β}
    (first : recipe.WritesNothing) (later : ∀ a, (next a).WritesNothing) :
    (recipe.bind next).WritesNothing := by
  induction recipe with
  | answer a => exact later a
  | fail e => exact trivial
  | ask position rest ih =>
    intro v
    exact ih v (first v)
  | readState rest ih =>
    intro state
    exact ih state (first state)
  | writeState state rest ih => exact first.elim

theorem of_stateless {recipe : Recipe σ count α} (stateless : recipe.Stateless) :
    recipe.WritesNothing := by
  induction recipe with
  | answer a => exact trivial
  | fail e => exact trivial
  | ask position rest ih =>
    intro v
    exact ih v (stateless v)
  | readState rest ih => exact stateless.elim
  | writeState state rest ih => exact stateless.elim

theorem operandDouble (position : Fin count) :
    (Recipe.operandDouble position : Recipe σ count Double).WritesNothing :=
  of_stateless (.operandDouble position)

/-- Such a recipe changes nothing that its operands and the look at its state do not change. -/
theorem leaves_follow {δ : Type} (part : World → δ) {operands : Fin count → Walk Value}
    {read : Walk σ} {write : σ → Walk Unit} {recipe : Recipe σ count α}
    (quiet : recipe.WritesNothing)
    (asks : ∀ position world, part ((operands position).leaves world) = part world)
    (reads : ∀ world, part (read.leaves world) = part world) (world : World) :
    part ((recipe.follow operands read write).leaves world) = part world := by
  induction recipe generalizing world with
  | answer a => rfl
  | fail e => rfl
  | ask position next ih =>
    have first := asks position world
    rw [follow, leaves_bind]
    cases outcome : operands position world with
    | ok v after =>
      rw [leaves_ok outcome] at first
      exact (ih v (quiet v) after).trans first
    | error reason after =>
      rw [leaves_error outcome] at first
      exact first
  | readState next ih =>
    have first := reads world
    rw [follow, leaves_bind]
    cases outcome : read world with
    | ok state after =>
      rw [leaves_ok outcome] at first
      exact (ih state (quiet state) after).trans first
    | error reason after =>
      rw [leaves_error outcome] at first
      exact first
  | writeState state next ih => exact quiet.elim

end WritesNothing

/-! ## What happens on the way -/

/-- What happens while a recipe is followed, one operand after the other, given what happens on the
way to an operand. -/
def trail (operands : Fin count → Walk Value) (inner : Fin count → World → List μ)
    (read : Walk σ) (write : σ → Walk Unit) : Recipe σ count α → World → List μ
  | answer _, _ => []
  | fail _, _ => []
  | ask position next, world =>
    inner position world ++
      match operands position world with
      | .ok v after => (next v).trail operands inner read write after
      | .error _ _ => []
  | readState next, world =>
    match read world with
    | .ok state after => (next state).trail operands inner read write after
    | .error _ _ => []
  | writeState state next, world =>
    match write state world with
    | .ok _ after => next.trail operands inner read write after
    | .error _ _ => []

variable {operands : Fin count → Walk Value} {inner : Fin count → World → List μ}
  {read : Walk σ} {write : σ → Walk Unit}

/-- Whatever happens on the way happens on the way to an operand, in a world with the invariant. -/
theorem mem_trail {values : Fin count → Attempt Value}
    {invariant : List (Fin count) → σ → World → Prop}
    (accompanies : Accompanies operands values read write invariant)
    (recipe : Recipe σ count α) (before : List (Fin count)) (state : σ) (world : World)
    (holds : invariant before state world) {event : μ}
    (member : event ∈ recipe.trail operands inner read write world) :
    ∃ position before state world, invariant before state world ∧ event ∈ inner position world := by
  induction recipe generalizing before state world with
  | answer a => cases member
  | fail e => cases member
  | ask position next ih =>
    rcases accompanies.asks before position state world holds with ⟨after, known, kept⟩
    rw [trail, known] at member
    rcases List.mem_append.mp member with here | later
    · exact ⟨position, before, state, world, holds, here⟩
    · cases outcome : values position with
      | ok v =>
        rw [outcome] at later
        exact ih v (before ++ [position]) state after kept later
      | error e =>
        rw [outcome] at later
        cases later
  | readState next ih =>
    rw [trail, accompanies.reads before state world holds] at member
    exact ih state before state world holds member
  | writeState written next ih =>
    rcases accompanies.writes before state written world holds with ⟨after, stored, kept⟩
    rw [trail, stored] at member
    exact ih before written after kept member

/-- What joins one world to another by way of a list of events, and can be composed, holds of the whole
recipe if it holds of every operand and of the state. -/
theorem follow_chain (joins : World → List μ → World → Prop)
    (stay : ∀ world, joins world [] world)
    (compose : ∀ {first second third events later}, joins first events second →
      joins second later third → joins first (events ++ later) third)
    (asks : ∀ position world,
      joins world (inner position world) ((operands position).leaves world))
    (reads : ∀ world, joins world [] (read.leaves world))
    (writes : ∀ state world, joins world [] ((write state).leaves world))
    (recipe : Recipe σ count α) (world : World) :
    joins world (recipe.trail operands inner read write world)
      ((recipe.follow operands read write).leaves world) := by
  induction recipe generalizing world with
  | answer a => exact stay world
  | fail e => exact stay world
  | ask position next ih =>
    have first := asks position world
    rw [follow, leaves_bind]
    cases outcome : operands position world with
    | ok v after =>
      rw [leaves_ok outcome] at first
      simp only [trail, outcome]
      exact compose first (ih v after)
    | error reason after =>
      rw [leaves_error outcome] at first
      simpa only [trail, outcome, List.append_nil] using first
  | readState next ih =>
    have first := reads world
    rw [follow, leaves_bind]
    cases outcome : read world with
    | ok state after =>
      rw [leaves_ok outcome] at first
      simp only [trail, outcome]
      exact compose first (ih state after)
    | error reason after =>
      rw [leaves_error outcome] at first
      simpa only [trail, outcome] using first
  | writeState written next ih =>
    have first := writes written world
    rw [follow, leaves_bind]
    cases outcome : write written world with
    | ok _ after =>
      rw [leaves_ok outcome] at first
      simp only [trail, outcome]
      exact compose first (ih after)
    | error reason after =>
      rw [leaves_error outcome] at first
      simpa only [trail, outcome] using first

end Recipe

end ClockedFormula
