import ClockedFormula.Proofs.Smoothing.Call

namespace ClockedFormula

open Recipe

/-!
# Kinds of functions with memory

The functions with clock or memory are made in few ways.  Some show their argument or what the host has fed
in, one freezes its argument, some read the clock and have no memory at all, one draws random numbers, and
the others smooth.  Statements about all of them have one case for each of these kinds, whatever the names
of the functions are and however many operands they take.
-/

namespace TemporalFunction

variable {count : Nat}

/-- Freeze a value and give it as the result. -/
def freeze (v : Value) : Recipe Workspace count Value :=
  (remember fun node => { node with temporal := .frozen v }).bind fun _ => answer v

/-- Freeze an operand, if nothing is frozen yet. -/
def freezeOperand (position : Fin count) : Recipe Workspace count Value :=
  readState fun workspace =>
    match workspace.node.temporal with
    | .frozen v => answer v
    | _ => (operand position).bind freeze

theorem frozen_or_thawed (temporal : Temporal) :
    (∃ v, temporal = .frozen v) ∨ ∀ v, temporal ≠ .frozen v := by
  cases temporal with
  | empty => exact .inr fun _ => Temporal.noConfusion
  | frozen v => exact .inl ⟨v, rfl⟩
  | stages levels => exact .inr fun _ => Temporal.noConfusion

/-- The ways in which functions are made, with the recipes that come of them. -/
inductive Kind : TemporalFunction → (Setting → Recipe Workspace count Value) → Prop
  /-- The function shows its argument to the host. -/
  | publishes (position : Fin count) : Kind value fun _ => (operand position).bind publish
  /-- The function shows what the host has fed in, or else its argument. -/
  | publishesInjected (position : Fin count) :
    Kind externalUpdate fun _ => readState fun workspace =>
      match workspace.node.injected with
      | some v => publish v
      | none => (operand position).bind publish
  | freezes (position : Fin count) : Kind init fun _ => freezeOperand position
  /-- The function reads the time, and does not care how the clock has moved. -/
  | timed (f : TemporalFunction) (steady : f ≠ normal)
    (next : Setting → Double → Recipe Workspace count Value)
    (same : ∀ clock options first second,
      next ⟨clock, options, first⟩ = next ⟨clock, options, second⟩)
    (stateless : ∀ setting x, (next setting x).Stateless) :
    Kind f fun setting => (Recipe.ofAttempt setting.time).bind (next setting)
  /-- The function draws a number, and then only asks for bounds. -/
  | draws (mean deviation : Fin count) (next : Double → Recipe Workspace count Value)
    (stateless : ∀ sample, (next sample).Stateless) :
    Kind normal fun _ =>
      (operandDouble mean).bind fun mean =>
        (operandDouble deviation).bind fun deviation => (drawNormal mean deviation).bind next
  | smooths (f : TemporalFunction) (order : Recipe Workspace count Nat) (input delay : Fin count)
    (initial : Option (Fin count)) (smooths : Smooths f count order input delay initial) :
    Kind f fun setting => order.bind fun order => smooth setting order input delay initial

namespace Kind

theorem of_smooths {f : TemporalFunction} {recipe : Setting → Recipe Workspace count Value}
    (smoothing : f = smooth1 ∨ f = smooth3 ∨ f = smoothN)
    (accepted : f.recipe? count = some recipe) : Kind f recipe := by
  rcases Smooths.exists_of_recipe? smoothing (Option.isSome_of_eq_some accepted) with
    ⟨order, input, delay, initial, smooths⟩
  rw [Option.some.inj (accepted.symm.trans smooths.recipe?_eq)]
  exact .smooths f order input delay initial smooths

end Kind

/-- Every function with memory is of one of the kinds. -/
theorem kind {f : TemporalFunction} {recipe : Setting → Recipe Workspace count Value}
    (accepted : f.recipe? count = some recipe) : Kind f recipe := by
  cases f with
  | value =>
    match count, recipe, accepted with
    | 1, _, accepted =>
      cases accepted
      exact .publishes 0
  | init =>
    match count, recipe, accepted with
    | 1, _, accepted =>
      cases accepted
      exact .freezes 0
  | externalUpdate =>
    match count, recipe, accepted with
    | 1, _, accepted =>
      cases accepted
      exact .publishesInjected 0
  | ramp =>
    match count, recipe, accepted with
    | 2, _, accepted =>
      cases accepted
      exact .timed ramp nofun _ (fun _ _ _ _ => rfl) fun _ _ =>
        (Stateless.operandDouble 0).bind fun _ => (Stateless.operandDouble 1).bind fun _ => trivial
    | 3, _, accepted =>
      cases accepted
      exact .timed ramp nofun _ (fun _ _ _ _ => rfl) fun _ _ =>
        (Stateless.operandDouble 0).bind fun _ => (Stateless.operandDouble 1).bind fun _ =>
          (Stateless.operandDouble 2).bind fun _ => trivial
  | step =>
    match count, recipe, accepted with
    | 2, _, accepted =>
      cases accepted
      exact .timed step nofun _ (fun _ _ _ _ => rfl) fun _ _ =>
        (Stateless.operandDouble 0).bind fun _ => (Stateless.operandDouble 1).bind fun _ => trivial
  | pulse =>
    match count, recipe, accepted with
    | 2, _, accepted =>
      cases accepted
      exact .timed pulse nofun _ (fun _ _ _ _ => rfl) fun _ _ =>
        (Stateless.operandDouble 0).bind fun _ => (Stateless.operandDouble 1).bind fun _ => trivial
    | 3, _, accepted =>
      cases accepted
      exact .timed pulse nofun _ (fun _ _ _ _ => rfl) fun _ _ =>
        (Stateless.operandDouble 0).bind fun _ => (Stateless.operandDouble 1).bind fun _ =>
          (Stateless.operandDouble 2).bind fun _ => trivial
  | normal =>
    match count, recipe, accepted with
    | 2, _, accepted =>
      cases accepted
      exact .draws 0 1 _ fun _ => trivial
    | 4, _, accepted =>
      cases accepted
      exact .draws 0 1 _ fun _ =>
        (Stateless.operandDouble 2).bind fun _ => (Stateless.operandDouble 3).bind fun _ => trivial
  | smooth1 => exact .of_smooths (.inl rfl) accepted
  | smooth3 => exact .of_smooths (.inr (.inl rfl)) accepted
  | smoothN => exact .of_smooths (.inr (.inr rfl)) accepted

end TemporalFunction

end ClockedFormula
