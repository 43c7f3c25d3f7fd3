import ClockedFormula.Proofs.Recipe.Following
import ClockedFormula.Proofs.Walk.Contract

namespace ClockedFormula

namespace Recipe

open Walk

variable {σ α β : Type} {count : Nat}

/-!
# Contracts of recipes

A recipe does not have its state to itself.  While it waits for an operand, the state may be replaced, for
the operand may come to the same call by another way.  All that the recipe can rely on afterwards is an
invariant, which it has to restore before it asks, and before it fails.  What it comes to in the end is its
own affair: a contract says what holds of the result together with the last state.
-/

/-- Whether a recipe, begun in a state, keeps an invariant wherever it waits or fails, and comes to results
and states of which something holds. -/
def Meets (invariant : σ → Prop) (after : α → σ → Prop) : Recipe σ count α → σ → Prop
  | answer a, state => after a state
  | fail _, state => invariant state
  | ask _ next, state =>
    invariant state ∧ ∀ v other, invariant other → (next v).Meets invariant after other
  | readState next, state => (next state).Meets invariant after state
  | writeState written next, _ => next.Meets invariant after written

namespace Meets

variable {invariant : σ → Prop} {after : α → σ → Prop} {recipe : Recipe σ count α} {state : σ}

theorem bind (meets : recipe.Meets invariant after state) {next : α → Recipe σ count β}
    {last : β → σ → Prop}
    (later : ∀ a other, after a other → (next a).Meets invariant last other) :
    (recipe.bind next).Meets invariant last state := by
  induction recipe generalizing state with
  | answer a => exact later a state meets
  | fail e => exact meets
  | ask position rest ih => exact ⟨meets.1, fun v other kept => ih v (meets.2 v other kept)⟩
  | readState rest ih => exact ih state meets
  | writeState written rest ih => exact ih meets

theorem mono (meets : recipe.Meets invariant after state) {weaker : α → σ → Prop}
    (weaken : ∀ a other, after a other → weaker a other) :
    recipe.Meets invariant weaker state := by
  have whole : (recipe.bind answer).Meets invariant weaker state := meets.bind weaken
  rwa [bind_answer] at whole

/-- A recipe without a state keeps every invariant. -/
theorem of_stateless (stateless : recipe.Stateless) (kept : invariant state) :
    recipe.Meets invariant (fun _ => invariant) state := by
  induction recipe generalizing state with
  | answer a => exact kept
  | fail e => exact kept
  | ask position rest ih => exact ⟨kept, fun v _ still => ih v (stateless v) still⟩
  | readState rest ih => exact stateless.elim
  | writeState written rest ih => exact stateless.elim

theorem ofAttempt {attempt : Attempt α} (kept : invariant state) :
    (Recipe.ofAttempt attempt : Recipe σ count α).Meets invariant
      (fun a other => invariant other ∧ attempt = .ok a) state := by
  cases attempt with
  | ok a => exact ⟨kept, rfl⟩
  | error e => exact kept

theorem operandDouble (position : Fin count) (kept : invariant state) :
    (Recipe.operandDouble position).Meets invariant (fun _ => invariant) state :=
  of_stateless (.operandDouble position) kept

/-- Whoever follows a recipe ends as its contract says, if the state is located in the world and the
operands keep the invariant. -/
theorem follow {operands : Fin count → Walk Value} {read : Walk σ} {write : σ → Walk Unit}
    {located : σ → World → Prop}
    (asks : ∀ position state world, located state world → invariant state →
      ∃ other, located other ((operands position).leaves world) ∧ invariant other)
    (reads : ∀ state world, located state world → read world = .ok state world)
    (writes : ∀ state written world, located state world →
      ∃ last, write written world = .ok () last ∧ located written last)
    (meets : recipe.Meets invariant after state) {world : World} (here : located state world) :
    (recipe.follow operands read write).EndsIn world
      (fun a last => ∃ other, located other last ∧ after a other)
      fun last => ∃ other, located other last ∧ invariant other := by
  induction recipe generalizing state world with
  | answer a => exact ⟨state, here, meets⟩
  | fail e => exact ⟨state, here, meets⟩
  | ask position next ih =>
    rcases asks position state world here meets.1 with ⟨other, there, kept⟩
    cases outcome : operands position world with
    | ok v middle =>
      rw [leaves_ok outcome] at there
      have rest := ih v (meets.2 v other kept) there
      rwa [Recipe.follow, EndsIn, bind_ok outcome]
    | error reason middle =>
      rw [leaves_error outcome] at there
      exact .of_error (bind_error outcome _) ⟨other, there, kept⟩
  | readState next ih =>
    have rest := ih state meets here
    rwa [Recipe.follow, EndsIn, bind_ok (reads state world here)]
  | writeState written next ih =>
    rcases writes state written world here with ⟨last, stored, there⟩
    have rest := ih meets there
    rwa [Recipe.follow, EndsIn, bind_ok stored]

end Meets

end Recipe

end ClockedFormula
