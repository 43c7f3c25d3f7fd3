import ClockedFormula.Proofs.Recipe.Following
import Mathlib.Data.List.Sort

namespace ClockedFormula

namespace Recipe

open Walk

variable {σ α β μ : Type} {count : Nat}

/-!
# The order in which a recipe asks

A recipe decides by what it has seen which operand it asks for next, so there is no list of the operands that
it asks for.  But all these lists can be parts of one row: the recipe passes over some operands of the row and
breaks off somewhere, and never goes back.  A row belongs to the recipe alone.  Whoever follows the recipe,
with whatever operands, then evaluates them in the order of the row, and only the last of them can be
interrupted.
-/

/-- Whether a recipe asks for operands along a row of positions, each of them at most once, whatever it sees on
the way. -/
def AsksAlong : List (Fin count) → Recipe σ count α → Prop
  | _, answer _ => True
  | _, fail _ => True
  | row, ask position next => ∃ rest, (position :: rest).Sublist row ∧ ∀ v, (next v).AsksAlong rest
  | row, readState next => ∀ state, (next state).AsksAlong row
  | row, writeState _ next => next.AsksAlong row

namespace AsksAlong

variable {row here there : List (Fin count)} {recipe : Recipe σ count α}

theorem mono (along : recipe.AsksAlong here) (sublist : here.Sublist there) :
    recipe.AsksAlong there := by
  induction recipe generalizing here there with
  | answer a => exact trivial
  | fail e => exact trivial
  | ask position next ih =>
    rcases along with ⟨rest, first, later⟩
    exact ⟨rest, first.trans sublist, later⟩
  | readState next ih => exact fun state => ih state (along state) sublist
  | writeState written next ih => exact ih along sublist

/-- A recipe in sequence asks along the rows of its parts, one after the other. -/
theorem bind (first : recipe.AsksAlong here) {next : α → Recipe σ count β}
    (later : ∀ a, (next a).AsksAlong there) : (recipe.bind next).AsksAlong (here ++ there) := by
  induction recipe generalizing here with
  | answer a => exact (later a).mono (List.sublist_append_right here there)
  | fail e => exact trivial
  | ask position rest ih =>
    rcases first with ⟨behind, sublist, goesOn⟩
    exact ⟨behind ++ there, sublist.append_right there, fun v => ih v (goesOn v)⟩
  | readState rest ih => exact fun state => ih state (first state)
  | writeState written rest ih => exact ih first

/-- What asks for nothing more does not change the row. -/
theorem bind_answers (first : recipe.AsksAlong row) {next : α → Recipe σ count β}
    (later : ∀ a, (next a).AsksAlong []) : (recipe.bind next).AsksAlong row := by
  simpa only [List.append_nil] using first.bind later

theorem ofAttempt (attempt : Attempt α) :
    (Recipe.ofAttempt attempt : Recipe σ count α).AsksAlong [] := by
  cases attempt <;> exact trivial

/-- A recipe that begins with an operand, and goes on with what the operand can be converted into. -/
theorem convert_bind {γ : Type} {convert : Value → Attempt γ} {position : Fin count}
    {next : γ → Recipe σ count α} (rest : List (Fin count)) (sublist : (position :: rest).Sublist row)
    (later : ∀ c, (next c).AsksAlong rest) :
    ((operand position).bind fun v => (Recipe.ofAttempt (convert v)).bind next).AsksAlong row :=
  ⟨rest, sublist, fun v => (ofAttempt (convert v)).bind later⟩

theorem operandDouble_bind {position : Fin count} {next : Double → Recipe σ count α}
    (rest : List (Fin count)) (sublist : (position :: rest).Sublist row)
    (later : ∀ x, (next x).AsksAlong rest) :
    ((operandDouble position).bind next).AsksAlong row :=
  convert_bind rest sublist later

end AsksAlong

/-! ## What is evaluated -/

section Following

variable {operands : Fin count → Walk Value} {read : Walk σ} {write : σ → Walk Unit}

/-- The operands that are evaluated while a recipe is followed, each with the world in which that happens. -/
def evaluations (operands : Fin count → Walk Value) (read : Walk σ) (write : σ → Walk Unit)
    (recipe : Recipe σ count α) (world : World) : List (Fin count × World) :=
  recipe.trail operands (fun position world => [(position, world)]) read write world

theorem evaluations_ask (position : Fin count) (next : Value → Recipe σ count α) (world : World) :
    (ask position next).evaluations operands read write world =
      (position, world) ::
        match operands position world with
        | .ok v after => (next v).evaluations operands read write after
        | .error _ _ => [] := by
  rw [evaluations, trail]
  cases operands position world <;> rfl

/-- The operands are evaluated in the order of the row. -/
theorem AsksAlong.sublist {recipe : Recipe σ count α} {row : List (Fin count)}
    (along : recipe.AsksAlong row) (world : World) :
    ((recipe.evaluations operands read write world).map Prod.fst).Sublist row := by
  induction recipe generalizing row world with
  | answer a => exact List.nil_sublist row
  | fail e => exact List.nil_sublist row
  | ask position next ih =>
    rcases along with ⟨rest, sublist, later⟩
    refine List.Sublist.trans ?_ sublist
    rw [evaluations_ask]
    cases operands position world with
    | ok v after => exact (ih v (later v) after).cons_cons position
    | error reason after => exact (List.nil_sublist rest).cons_cons position
  | readState next ih =>
    rw [evaluations, trail]
    cases read world with
    | ok state after => exact ih state (along state) after
    | error reason after => exact List.nil_sublist row
  | writeState written next ih =>
    rw [evaluations, trail]
    cases write written world with
    | ok _ after => exact ih along after
    | error reason after => exact List.nil_sublist row

/-- Along the row of all operands they are evaluated in their own order. -/
theorem AsksAlong.increasing {recipe : Recipe σ count α}
    (along : recipe.AsksAlong (List.finRange count)) (world : World) :
    ((recipe.evaluations operands read write world).map Prod.fst).Pairwise (· < ·) :=
  (List.sortedLT_finRange count).pairwise.sublist (along.sublist world)

/-- What is passed while a recipe is followed is passed on the way to the operands, in the order in which they
are evaluated. -/
theorem trail_eq_flatMap (inner : Fin count → World → List μ) (recipe : Recipe σ count α)
    (world : World) :
    recipe.trail operands inner read write world =
      (recipe.evaluations operands read write world).flatMap fun evaluation =>
        inner evaluation.1 evaluation.2 := by
  induction recipe generalizing world with
  | answer a => rfl
  | fail e => rfl
  | ask position next ih =>
    rw [evaluations_ask, trail, List.flatMap_cons]
    cases operands position world with
    | ok v after => exact congrArg (inner position world ++ ·) (ih v after)
    | error reason after => simp
  | readState next ih =>
    rw [evaluations, trail, trail]
    cases read world with
    | ok state after => exact ih state after
    | error reason after => rfl
  | writeState written next ih =>
    rw [evaluations, trail, trail]
    cases write written world with
    | ok _ after => exact ih after
    | error reason after => rfl

/-- Only the last operand can be interrupted: those before it have come to values. -/
theorem pairwise_evaluations (recipe : Recipe σ count α) (world : World) :
    (recipe.evaluations operands read write world).Pairwise fun earlier _ =>
      ∃ v after, operands earlier.1 earlier.2 = .ok v after := by
  induction recipe generalizing world with
  | answer a => exact .nil
  | fail e => exact .nil
  | ask position next ih =>
    rw [evaluations_ask]
    cases outcome : operands position world with
    | ok v after => exact .cons (fun _ _ => ⟨v, after, outcome⟩) (ih v after)
    | error reason after => exact List.pairwise_singleton _ _
  | readState next ih =>
    rw [evaluations, trail]
    cases read world with
    | ok state after => exact ih state after
    | error reason after => exact .nil
  | writeState written next ih =>
    rw [evaluations, trail]
    cases write written world with
    | ok _ after => exact ih after
    | error reason after => exact .nil

/-- An operand that is interrupted interrupts whoever follows the recipe, for the same reason and at once. -/
theorem follow_of_interrupted (recipe : Recipe σ count α) {world : World}
    {evaluation : Fin count × World}
    (evaluated : evaluation ∈ recipe.evaluations operands read write world) {reason : Interruption}
    {after : World} (stopped : operands evaluation.1 evaluation.2 = .error reason after) :
    recipe.follow operands read write world = .error reason after := by
  induction recipe generalizing world with
  | answer a => cases evaluated
  | fail e => cases evaluated
  | ask position next ih =>
    rw [evaluations_ask] at evaluated
    rcases List.mem_cons.mp evaluated with rfl | later
    · exact bind_error stopped _
    · cases outcome : operands position world with
      | ok v middle =>
        rw [outcome] at later
        exact (bind_ok outcome _).trans (ih v later)
      | error other middle =>
        rw [outcome] at later
        cases later
  | readState next ih =>
    rw [evaluations, trail] at evaluated
    cases outcome : read world with
    | ok state middle =>
      rw [outcome] at evaluated
      exact (bind_ok outcome _).trans (ih state evaluated)
    | error other middle =>
      rw [outcome] at evaluated
      cases evaluated
  | writeState written next ih =>
    rw [evaluations, trail] at evaluated
    cases outcome : write written world with
    | ok _ middle =>
      rw [outcome] at evaluated
      exact (bind_ok outcome _).trans (ih evaluated)
    | error other middle =>
      rw [outcome] at evaluated
      cases evaluated

end Following

end Recipe

end ClockedFormula
