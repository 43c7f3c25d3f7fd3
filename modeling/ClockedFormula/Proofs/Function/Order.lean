import ClockedFormula.Proofs.Function.Kind
import ClockedFormula.Proofs.Operator.Order

namespace ClockedFormula

open Recipe

/-!
# The order in which functions ask for their arguments

All functions but one ask for their arguments from the first to the last, and pass over those that they do not
need.  The exception is the smoothing of any order.  It asks for the order first, which is its third argument,
and only then for the input, the delay and the initial value.
-/

/-! ## Functions of their arguments -/

namespace MathFunction

variable {σ : Type} {count : Nat}

theorem ofDouble_asksAlong (f : Double → Double) :
    (ofDouble f : Recipe σ 1 Value).AsksAlong (List.finRange 1) :=
  .operandDouble_bind [] (by decide) fun _ => trivial

theorem ofDoubles_asksAlong (f : Double → Double → Double) :
    (ofDoubles f : Recipe σ 2 Value).AsksAlong (List.finRange 2) :=
  .operandDouble_bind [1] (by decide) fun _ => .operandDouble_bind [] (by decide) fun _ => trivial

/-- The operands to be searched are asked for in their order. -/
theorem isAmong_asksAlong (needle : Value) (positions : List (Fin count)) :
    (isAmong needle positions : Recipe σ count Value).AsksAlong positions := by
  induction positions with
  | nil => exact trivial
  | cons position rest ih =>
    refine .convert_bind rest (.refl _) fun found => ?_
    cases found with
    | true => exact trivial
    | false => exact ih

/-- A quotient with something else in its place where the denominator is zero. -/
theorem safely_asksAlong {row : List (Fin count)} {numerator denominator : Fin count}
    {otherwise : Double → Recipe σ count Value} (rest : List (Fin count))
    (sublist : (numerator :: denominator :: rest).Sublist row)
    (along : ∀ x, (otherwise x).AsksAlong rest) :
    (do
      let x ← operandDouble numerator
      let y ← operandDouble denominator
      if y.isZero then otherwise x else return .float (x / y) : Recipe σ count Value).AsksAlong row := by
  refine .operandDouble_bind (denominator :: rest) sublist fun x => ?_
  refine .operandDouble_bind rest (.refl _) fun y => ?_
  by_cases zero : y.isZero
  · rw [if_pos zero]
    exact along x
  · rw [if_neg zero]
    exact trivial

theorem recipe?_asksAlong {awayFromZero : Bool} {f : MathFunction} {recipe : Recipe σ count Value}
    (accepted : f.recipe? awayFromZero count = some recipe) :
    recipe.AsksAlong (List.finRange count) := by
  unfold recipe? at accepted
  split at accepted <;> cases accepted
  -- Most are functions of one double or of two.
  any_goals exact ofDouble_asksAlong _
  any_goals exact ofDoubles_asksAlong _
  -- The absolute value, which is a decimal.
  case h_1 => exact .convert_bind [] (by decide) fun _ => trivial
  -- Rounding to a number of digits.
  case h_14 =>
    exact .operandDouble_bind [1] (by decide) fun x => .convert_bind [] (by decide) fun digits =>
      .ofAttempt (round? awayFromZero x digits)
  case h_15 => exact safely_asksAlong [] (by decide) fun _ => trivial
  case h_16 =>
    exact safely_asksAlong [2] (by decide) fun _ => .operandDouble_bind [] (by decide) fun _ => trivial
  case h_17 => exact .operandDouble_bind [] (by decide) fun x => .ofAttempt (signOf x)
  case h_22 => exact BinaryOperator.combine_asksAlong _
  case h_23 => exact BinaryOperator.combine_asksAlong _
  case h_24 => exact choose_asksAlong
  -- The first operand looked for among the others.
  case h_25 others =>
    refine ⟨(List.finRange (others + 2)).tail, ?_, fun needle => isAmong_asksAlong needle _⟩
    rw [List.finRange_succ]
    exact .refl _

end MathFunction

/-! ## Functions with memory -/

namespace TemporalFunction

variable {count : Nat}

/-- The order in which a function goes through its arguments. -/
def row (f : TemporalFunction) (count : Nat) : List (Fin count) :=
  match f with
  | smoothN =>
    (List.finRange count).filter (fun position => position.val == 2) ++
      (List.finRange count).filter fun position => position.val != 2
  | _ => List.finRange count

theorem row_of_ne {f : TemporalFunction} (other : f ≠ smoothN) (count : Nat) :
    f.row count = List.finRange count := by
  cases f with
  | smoothN => exact absurd rfl other
  | _ => rfl

theorem gather_asksAlong (setting : Setting) (order : Nat) (input delay : Fin count)
    (initial : Option (Fin count)) :
    (gather setting order input delay initial).AsksAlong (input :: delay :: initial.toList) := by
  have restarts : ∀ x, (smooth.restart order x initial).AsksAlong initial.toList := by
    intro x
    cases initial with
    | none => exact trivial
    | some position => exact .operandDouble_bind [] (.refl _) fun _ => trivial
  refine .operandDouble_bind (delay :: initial.toList) (.refl _) fun x => ?_
  refine .operandDouble_bind initial.toList (.refl _) fun d workspace => ?_
  refine AsksAlong.bind_answers ?_ fun stages => trivial
  cases workspace.node.temporal with
  | empty => exact restarts x
  | frozen v => exact restarts x
  | stages levels =>
    dsimp only [nextStages]
    split
    · exact trivial
    · exact restarts x

/-- A smoothing asks for the input, the delay and the initial value, if at all. -/
theorem smooth_asksAlong (setting : Setting) (order : Nat) (input delay : Fin count)
    (initial : Option (Fin count)) :
    (smooth setting order input delay initial).AsksAlong (input :: delay :: initial.toList) := by
  rw [smooth_eq_gather]
  exact (gather_asksAlong setting order input delay initial).bind_answers fun gathered _ => trivial

theorem Smooths.asksAlong {f : TemporalFunction} {order : Recipe Workspace count Nat}
    {input delay : Fin count} {initial : Option (Fin count)}
    (smooths : Smooths f count order input delay initial) (setting : Setting) :
    (order.bind fun order => smooth setting order input delay initial).AsksAlong (f.row count) := by
  cases smooths with
  | one => exact smooth_asksAlong setting 1 0 1 none
  | oneFrom => exact smooth_asksAlong setting 1 0 1 (some 2)
  | three => exact smooth_asksAlong setting 3 0 1 none
  | threeFrom => exact smooth_asksAlong setting 3 0 1 (some 2)
  | any =>
    exact .convert_bind [0, 1] (.refl _) fun order => smooth_asksAlong setting order 0 1 none
  | anyFrom =>
    exact .convert_bind [0, 1, 3] (.refl _) fun order => smooth_asksAlong setting order 0 1 (some 3)

theorem publishOperand_asksAlong (position : Fin count) :
    ((operand position).bind publish : Recipe Workspace count Value).AsksAlong [position] :=
  ⟨[], .refl _, fun _ _ => trivial⟩

theorem freezeOperand_asksAlong (position : Fin count) : (freezeOperand position).AsksAlong [position] := by
  intro workspace
  have asked : ((operand position).bind freeze : Recipe Workspace count Value).AsksAlong [position] :=
    ⟨[], .refl _, fun _ _ => trivial⟩
  dsimp only
  cases workspace.node.temporal with
  | frozen v => exact trivial
  | empty => exact asked
  | stages levels => exact asked

theorem publishInjected_asksAlong (position : Fin count) :
    (readState fun workspace =>
      match workspace.node.injected with
      | some v => publish v
      | none => (operand position).bind publish : Recipe Workspace count Value).AsksAlong
      [position] := by
  intro workspace
  dsimp only
  cases workspace.node.injected with
  | some v => exact fun _ => trivial
  | none => exact publishOperand_asksAlong position

/-- A function that reads the time first, and then asks for operands. -/
theorem timed_asksAlong (setting : Setting) {next : Double → Recipe Workspace count Value}
    {row : List (Fin count)} (along : ∀ time, (next time).AsksAlong row) :
    ((Recipe.ofAttempt setting.time).bind next).AsksAlong row :=
  (AsksAlong.ofAttempt setting.time).bind along

theorem recipe?_asksAlong {f : TemporalFunction} {recipe : Setting → Recipe Workspace count Value}
    (accepted : f.recipe? count = some recipe) (setting : Setting) :
    (recipe setting).AsksAlong (f.row count) := by
  by_cases smoothing : f = smooth1 ∨ f = smooth3 ∨ f = smoothN
  · rcases Smooths.exists_of_recipe? smoothing (Option.isSome_of_eq_some accepted) with
      ⟨order, input, delay, initial, smooths⟩
    rw [Option.some.inj (accepted.symm.trans smooths.recipe?_eq)]
    exact smooths.asksAlong setting
  unfold recipe? at accepted
  split at accepted <;> cases accepted
  case h_1 => exact publishOperand_asksAlong 0
  case h_2 => exact freezeOperand_asksAlong 0
  case h_3 => exact publishInjected_asksAlong 0
  -- The functions that read the time, and then ask for two operands or for three.
  case h_4 | h_6 | h_7 =>
    exact timed_asksAlong setting fun _ => .operandDouble_bind [1] (.refl _) fun _ =>
      .operandDouble_bind [] (.refl _) fun _ => trivial
  case h_5 | h_8 =>
    exact timed_asksAlong setting fun _ => .operandDouble_bind [1, 2] (.refl _) fun _ =>
      .operandDouble_bind [2] (.refl _) fun _ => .operandDouble_bind [] (.refl _) fun _ => trivial
  case h_9 =>
    exact .operandDouble_bind [1] (.refl _) fun mean =>
      .operandDouble_bind [] (.refl _) fun deviation _ _ => trivial
  case h_10 =>
    exact .operandDouble_bind [1, 2, 3] (.refl _) fun mean =>
      .operandDouble_bind [2, 3] (.refl _) fun deviation _ _ =>
        .operandDouble_bind [3] (.refl _) fun _ => .operandDouble_bind [] (.refl _) fun _ => trivial
  all_goals exact absurd (by simp) smoothing

section Evaluations

variable {operands : Fin count → Walk Value} {read : Walk Workspace} {write : Workspace → Walk Unit}

/-- The order of a smoothing is evaluated first, and the input next, unless the smoothing ends before. -/
theorem evaluations_askOrder (setting : Setting) (third input delay : Fin count)
    (initial : Option (Fin count)) (world : World) :
    let evaluated := ((askOrder third).bind fun order =>
      smooth setting order input delay initial).evaluations operands read write world
    evaluated = [(third, world)] ∨
      ∃ after later, evaluated = (third, world) :: (input, after) :: later := by
  intro evaluated
  dsimp only [evaluated, askOrder]
  rw [Recipe.bind, evaluations_ask]
  cases operands third world with
  | error reason after => exact .inl rfl
  | ok v after =>
    dsimp only
    -- An order that is out of range ends the call before the input is evaluated.
    cases v.toInt64.bind order? with
    | error e => exact .inl rfl
    | ok order =>
      rw [Recipe.ofAttempt, answer_bind, smooth_eq_gather, gather, Recipe.bind_assoc]
      exact .inr ⟨after, _, congrArg _ (evaluations_ask input _ after)⟩

/-- If the input stands before the order, then a smoothing that evaluates both goes backwards. -/
theorem evaluations_askOrder_increasing_iff (setting : Setting) {third input : Fin count}
    (before : input < third) (delay : Fin count) (initial : Option (Fin count)) (world : World) :
    let evaluated := ((askOrder third).bind fun order =>
      smooth setting order input delay initial).evaluations operands read write world
    (evaluated.map Prod.fst).Pairwise (· < ·) ↔ evaluated.length ≤ 1 := by
  intro evaluated
  have starts : evaluated = [(third, world)] ∨
      ∃ after later, evaluated = (third, world) :: (input, after) :: later :=
    evaluations_askOrder setting third input delay initial world
  rcases starts with alone | ⟨after, later, both⟩
  · rw [alone]
    exact iff_of_true (List.pairwise_singleton _ _) le_rfl
  · rw [both]
    refine iff_of_false (fun increasing => ?_) (by simp)
    have forwards : third < input := List.rel_of_pairwise_cons increasing List.mem_cons_self
    exact before.asymm forwards

/-- The arguments are evaluated in their order, but for the smoothing of any order.  That one evaluates its
arguments in their order only where it does not come beyond the first that it asks for. -/
theorem evaluations_increasing_iff {f : TemporalFunction}
    {recipe : Setting → Recipe Workspace count Value} (accepted : f.recipe? count = some recipe)
    (setting : Setting) (world : World) :
    let evaluated := (recipe setting).evaluations operands read write world
    (evaluated.map Prod.fst).Pairwise (· < ·) ↔ (f = smoothN → evaluated.length ≤ 1) := by
  intro evaluated
  by_cases any : f = smoothN
  · subst any
    rw [forall_prop_of_true rfl]
    dsimp only [evaluated]
    rcases Smooths.exists_of_recipe? (.inr (.inr rfl)) (Option.isSome_of_eq_some accepted) with
      ⟨order, input, delay, initial, smooths⟩
    rw [Option.some.inj (accepted.symm.trans smooths.recipe?_eq)]
    cases smooths with
    | any => exact evaluations_askOrder_increasing_iff setting (by decide) 1 none world
    | anyFrom => exact evaluations_askOrder_increasing_iff setting (by decide) 1 (some 3) world
  · have along := recipe?_asksAlong accepted setting
    rw [row_of_ne any] at along
    exact iff_of_true (along.increasing world) fun same => absurd same any

end Evaluations

end TemporalFunction

/-! ## All functions -/

namespace Function

variable {σ : Type} {count : Nat}

/-- The order in which a function goes through its arguments. -/
def row : Function → (count : Nat) → List (Fin count)
  | math _, count => List.finRange count
  | temporal f, count => f.row count

/-- Whether a recipe evaluates arguments in the order of a function.  That is their own order, except for the
smoothing of any order as soon as it evaluates two of them. -/
structure Orders (f : Function) (recipe : Recipe σ count Value) : Prop where
  along : recipe.AsksAlong (f.row count)
  increasing_iff : ∀ operands read write world,
    let evaluated := recipe.evaluations operands read write world
    (evaluated.map Prod.fst).Pairwise (· < ·) ↔ (f = .temporal .smoothN → evaluated.length ≤ 1)

theorem Orders.fail (f : Function) (e : EvalError) : f.Orders (.fail e : Recipe σ count Value) where
  along := trivial
  increasing_iff _ _ _ _ := iff_of_true .nil fun _ => Nat.zero_le 1

theorem orders_math {awayFromZero : Bool} {f : MathFunction} {recipe : Recipe σ count Value}
    (accepted : f.recipe? awayFromZero count = some recipe) : (math f).Orders recipe where
  along := f.recipe?_asksAlong accepted
  increasing_iff _ _ _ world := iff_of_true ((f.recipe?_asksAlong accepted).increasing world) nofun

theorem orders_temporal {f : TemporalFunction} {recipe : Setting → Recipe Workspace count Value}
    (accepted : f.recipe? count = some recipe) (setting : Setting) :
    (temporal f).Orders (recipe setting) where
  along := f.recipe?_asksAlong accepted setting
  increasing_iff operands read write world := by
    rw [temporal.injEq]
    exact f.evaluations_increasing_iff accepted setting world

end Function

end ClockedFormula
