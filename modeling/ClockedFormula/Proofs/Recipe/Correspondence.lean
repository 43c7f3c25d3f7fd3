import ClockedFormula.Proofs.Recipe.Rehearsal
import ClockedFormula.Proofs.Walk.Parallel

namespace ClockedFormula

namespace Recipe

open Walk

variable {σ α β : Type} {count : Nat} {alike : σ → σ → Prop}

/-!
# Recipes that correspond

A recipe may look at its state, but what it reads there need not matter.  Two recipes correspond if they
ask for the same operands and come to the same result whenever they read states that are alike, and if they
write states that are alike again.  A recipe that corresponds to itself cannot tell apart what is alike.

Corresponding recipes are rehearsed alike, and followed in parallel.
-/

/-- Whether two recipes do the same on states that are alike. -/
inductive Corresponds (alike : σ → σ → Prop) : Recipe σ count α → Recipe σ count α → Prop
  | answer (a : α) : Corresponds alike (.answer a) (.answer a)
  | fail (e : EvalError) : Corresponds alike (.fail e) (.fail e)
  | ask (position : Fin count) {next later : Value → Recipe σ count α}
    (rest : ∀ v, Corresponds alike (next v) (later v)) :
    Corresponds alike (.ask position next) (.ask position later)
  | readState {next later : σ → Recipe σ count α}
    (rest : ∀ first second, alike first second → Corresponds alike (next first) (later second)) :
    Corresponds alike (.readState next) (.readState later)
  | writeState {first second : σ} (same : alike first second) {next later : Recipe σ count α}
    (rest : Corresponds alike next later) :
    Corresponds alike (.writeState first next) (.writeState second later)

namespace Corresponds

theorem bind {recipe other : Recipe σ count α} {next later : α → Recipe σ count β}
    (corresponds : Corresponds alike recipe other)
    (rest : ∀ a, Corresponds alike (next a) (later a)) :
    Corresponds alike (recipe.bind next) (other.bind later) := by
  induction corresponds with
  | answer a => exact rest a
  | fail e => exact .fail e
  | ask position _ ih => exact .ask position ih
  | readState _ ih => exact .readState ih
  | writeState same _ ih => exact .writeState same ih

/-- A recipe without a state corresponds to itself. -/
theorem of_stateless {recipe : Recipe σ count α} (stateless : recipe.Stateless) :
    Corresponds alike recipe recipe := by
  induction recipe with
  | answer a => exact .answer a
  | fail e => exact .fail e
  | ask position next ih => exact .ask position fun v => ih v (stateless v)
  | readState next ih => exact stateless.elim
  | writeState state next ih => exact stateless.elim

theorem operandDouble (position : Fin count) :
    Corresponds alike (Recipe.operandDouble position) (Recipe.operandDouble position) :=
  of_stateless (.operandDouble position)

/-- Corresponding recipes are rehearsed alike. -/
theorem run {recipe other : Recipe σ count α} (corresponds : Corresponds alike recipe other)
    (values : Fin count → Attempt Value) {state final : σ} (same : alike state final) :
    (recipe.run values state).1 = (other.run values final).1 ∧
      alike (recipe.run values state).2 (other.run values final).2 ∧
      recipe.asked values state = other.asked values final := by
  induction corresponds generalizing state final with
  | answer a => exact ⟨rfl, same, rfl⟩
  | fail e => exact ⟨rfl, same, rfl⟩
  | ask position rest ih =>
    simp only [Recipe.run, asked]
    cases values position with
    | ok v =>
      rcases ih v same with ⟨result, left, positions⟩
      exact ⟨result, left, congrArg (position :: ·) positions⟩
    | error e => exact ⟨rfl, same, rfl⟩
  | readState rest ih => exact ih state final same same
  | writeState written rest ih => exact ih written

/-- Corresponding recipes are followed in parallel, if their operands and states are. -/
theorem follow {related : World → World → Prop} {recipe other : Recipe σ count α}
    (corresponds : Corresponds alike recipe other) {operands others : Fin count → Walk Value}
    (asks : ∀ position, Parallel related (operands position) (others position))
    {read alsoRead : Walk σ} {state final : World → σ}
    (reads : ∀ world, read world = .ok (state world) world)
    (alsoReads : ∀ world, alsoRead world = .ok (final world) world)
    (same : ∀ {first second : World}, related first second → alike (state first) (final second))
    {write alsoWrite : σ → Walk Unit}
    (writes : ∀ {first second : σ}, alike first second →
      Parallel related (write first) (alsoWrite second)) :
    Parallel related (recipe.follow operands read write) (other.follow others alsoRead alsoWrite) := by
  have sequential := Parallel.sequential related
  induction corresponds with
  | answer a => exact sequential.yields a
  | fail e => exact sequential.stops (.failed e)
  | ask position _ ih => exact (asks position).bind ih
  | readState _ ih =>
    intro first second here
    unfold Recipe.follow ending leaves
    rw [bind_ok (reads first), bind_ok (alsoReads second)]
    exact ih (state first) (final second) (same here) first second here
  | writeState written _ ih => exact (writes written).bind fun _ => ih

end Corresponds

end Recipe

end ClockedFormula
