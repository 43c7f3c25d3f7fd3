import ClockedFormula.Proofs.Smoothing.Undelayed
import Mathlib.Data.List.Chain
import Mathlib.Tactic.Ring

namespace ClockedFormula

namespace Smoothing

/-!
# Smoothing does not overshoot

A stage that moves never passes the level that it moves towards, since the share of the way is held between
nothing and all of it, whatever the delay and the step of time are.  So no stage leaves an interval that
contains the level at which the chain has started and all inputs.  For the outputs under a constant input
this does not suffice: that the last stage goes towards the input all the time follows only from the order of
the whole chain, every stage of which is at most as far as the one in front of it.
-/

/-! ## The share of the way -/

theorem share_nonneg (deltaTime delay : ℚ) (order : Nat) : 0 ≤ share deltaTime delay order := by
  simp only [share, Quantity.atMost_rat, Quantity.less_rat, Quantity.ofNat_rat, Nat.cast_zero,
    Nat.cast_one, decide_eq_true_eq]
  split_ifs with undelayed negative beyond
  · exact zero_le_one
  · exact le_refl 0
  · exact zero_le_one
  · exact not_lt.mp negative

theorem share_le_one (deltaTime delay : ℚ) (order : Nat) : share deltaTime delay order ≤ 1 := by
  simp only [share, Quantity.atMost_rat, Quantity.less_rat, Quantity.ofNat_rat, Nat.cast_zero,
    Nat.cast_one, decide_eq_true_eq]
  split_ifs with undelayed negative beyond
  · exact le_refl 1
  · exact zero_le_one
  · exact le_refl 1
  · exact not_lt.mp beyond

/-! ## One stage -/

/-- A direction of movement, upwards or downwards: `ahead goal level` says that a level need not go the other
way to come to the goal.  A stage that covers a share of its way stays on this side of its goal. -/
structure Direction (ahead : ℚ → ℚ → Prop) : Prop where
  refl : ∀ level, ahead level level
  trans : ∀ {far middle near}, ahead far middle → ahead middle near → ahead far near
  before_goal : ∀ {portion}, 0 ≤ portion → portion ≤ 1 → ∀ {goal level}, ahead goal level →
    ahead goal (level + portion * (goal - level))
  past_level : ∀ {portion}, 0 ≤ portion → portion ≤ 1 → ∀ {goal level}, ahead goal level →
    ahead (level + portion * (goal - level)) level

theorem upwards : Direction fun goal level => level ≤ goal where
  refl := le_refl
  trans far near := near.trans far
  before_goal {portion} _ atMostOne {goal level} rises := by
    calc level + portion * (goal - level)
        ≤ level + 1 * (goal - level) := by
          have way : 0 ≤ goal - level := sub_nonneg.mpr rises
          gcongr
      _ = goal := by ring
  past_level nonneg _ _ _ rises :=
    le_add_of_nonneg_right (mul_nonneg nonneg (sub_nonneg.mpr rises))

theorem downwards : Direction fun goal level => goal ≤ level where
  refl := le_refl
  trans := le_trans
  before_goal {portion} _ atMostOne {goal level} falls := by
    calc goal
        = level - 1 * (level - goal) := by ring
      _ ≤ level - portion * (level - goal) := by
          have way : 0 ≤ level - goal := sub_nonneg.mpr falls
          gcongr
      _ = level + portion * (goal - level) := by ring
  past_level nonneg _ _ _ falls :=
    add_le_of_nonpos_right (mul_nonpos_of_nonneg_of_nonpos nonneg (sub_nonpos.mpr falls))

/-- A stage stays in every interval that contains it and its goal. -/
theorem moved_mem_Icc {portion low high goal level : ℚ} (nonneg : 0 ≤ portion) (atMostOne : portion ≤ 1)
    (goalInside : goal ∈ Set.Icc low high) (levelInside : level ∈ Set.Icc low high) :
    level + portion * (goal - level) ∈ Set.Icc low high := by
  rcases le_total level goal with rises | falls
  · exact ⟨levelInside.1.trans (upwards.past_level nonneg atMostOne rises),
      (upwards.before_goal nonneg atMostOne rises).trans goalInside.2⟩
  · exact ⟨goalInside.1.trans (downwards.before_goal nonneg atMostOne falls),
      (downwards.past_level nonneg atMostOne falls).trans levelInside.2⟩

/-! ## The chain -/

/-- The first stage moves towards the input, and the others as a chain behind its former level. -/
theorem advance_cons (portion input level : ℚ) (stages : List ℚ) :
    advance portion input (level :: stages) =
      (level + portion * (input - level)) :: advance portion level stages := by
  apply List.ext_getElem?
  intro position
  rw [getElem?_advance]
  cases position with
  | zero => rfl
  | succ before =>
    rw [List.getElem?_cons_succ, List.getElem?_cons_succ, getElem?_advance]
    cases inside : stages[before]? with
    | none => rfl
    | some stage =>
      have same : upstream input (level :: stages) (before + 1) = upstream level stages before := by
        cases before with
        | zero => rfl
        | succ earlier =>
          have present : earlier < stages.length := by
            have := (List.getElem?_eq_some_iff.mp inside).1
            omega
          simp [upstream, List.getElem?_eq_getElem present]
      rw [Option.map_some, Option.map_some, same]

theorem advance_mem_Icc {portion low high : ℚ} (nonneg : 0 ≤ portion) (atMostOne : portion ≤ 1)
    {stages : List ℚ} (inside : ∀ stage ∈ stages, stage ∈ Set.Icc low high) {input : ℚ}
    (inputInside : input ∈ Set.Icc low high) :
    ∀ stage ∈ advance portion input stages, stage ∈ Set.Icc low high := by
  induction stages generalizing input with
  | nil => exact inside
  | cons level rest ih =>
    have levelInside : level ∈ Set.Icc low high := inside level List.mem_cons_self
    rw [advance_cons, List.forall_mem_cons]
    exact ⟨moved_mem_Icc nonneg atMostOne inputInside levelInside,
      ih (fun stage member => inside stage (List.mem_cons_of_mem level member)) levelInside⟩

section Directed

variable {ahead : ℚ → ℚ → Prop} {portion : ℚ}

/-- A chain in which no stage is farther than the one in front of it stays so, also behind an input that has
gone on. -/
theorem Direction.isChain_advance (direction : Direction ahead) (nonneg : 0 ≤ portion)
    (atMostOne : portion ≤ 1) {stages : List ℚ} {input : ℚ}
    (ordered : (input :: stages).IsChain ahead) {further : ℚ} (goesOn : ahead further input) :
    (further :: advance portion input stages).IsChain ahead := by
  induction stages generalizing input further with
  | nil => exact .singleton further
  | cons level rest ih =>
    obtain ⟨first, others⟩ := List.isChain_cons_cons.mp ordered
    have moved : ahead further (level + portion * (input - level)) :=
      direction.trans goesOn (direction.before_goal nonneg atMostOne first)
    rw [advance_cons, List.isChain_cons_cons]
    exact ⟨moved, ih others (direction.past_level nonneg atMostOne first)⟩

/-- From a chain of this kind comes nothing that is farther back than what came before. -/
theorem Direction.getLastD_advance (direction : Direction ahead) (nonneg : 0 ≤ portion)
    (atMostOne : portion ≤ 1) {stages : List ℚ} {input : ℚ}
    (ordered : (input :: stages).IsChain ahead) {later earlier : ℚ} (goesOn : ahead later earlier) :
    ahead ((advance portion input stages).getLastD later) (stages.getLastD earlier) := by
  induction stages generalizing input later earlier with
  | nil => exact goesOn
  | cons level rest ih =>
    obtain ⟨first, others⟩ := List.isChain_cons_cons.mp ordered
    rw [advance_cons, List.getLastD_cons, List.getLastD_cons]
    exact ih others (direction.past_level nonneg atMostOne first)

end Directed

/-! ## Several calls -/

/-- The chain that has started at a level and has been moved by several calls. -/
def chainAfter (order : Nat) (start : ℚ) (pulls : List Pull) : List ℚ :=
  pulls.foldl (pulled order) (List.replicate order start)

/-- What comes out of the chain. -/
def outputAfter (order : Nat) (start : ℚ) (pulls : List Pull) : ℚ :=
  (chainAfter order start pulls).getLastD start

/-- The interval that is spanned by a level and several inputs. -/
def spanned (start : ℚ) (inputs : List ℚ) : Set ℚ :=
  Set.Icc ((start :: inputs).min (List.cons_ne_nil start inputs))
    ((start :: inputs).max (List.cons_ne_nil start inputs))

/-- The interval contains the level and the inputs by which it is spanned. -/
theorem mem_spanned (start : ℚ) (inputs : List ℚ) :
    ∀ level ∈ start :: inputs, level ∈ spanned start inputs :=
  fun _ member => ⟨List.min_le_of_mem member, List.le_max_of_mem member⟩

theorem length_foldl_pulled (order : Nat) (pulls : List Pull) (stages : List ℚ) :
    (pulls.foldl (pulled order) stages).length = stages.length := by
  induction pulls generalizing stages with
  | nil => rfl
  | cons pull rest ih => rw [List.foldl_cons, ih, pulled, length_advance]

theorem outputAfter_mem_chainAfter {order : Nat} (positive : 0 < order) (start : ℚ) (pulls : List Pull) :
    outputAfter order start pulls ∈ chainAfter order start pulls := by
  have present : chainAfter order start pulls ≠ [] := by
    apply List.ne_nil_of_length_pos
    rwa [chainAfter, length_foldl_pulled, List.length_replicate]
  rw [outputAfter, List.getLastD_eq_getLast?, List.getLast?_eq_some_getLast present, Option.getD_some]
  exact List.getLast_mem present

theorem chainAfter_append (order : Nat) (start : ℚ) (earlier later : List Pull) :
    chainAfter order start (earlier ++ later) =
      later.foldl (pulled order) (chainAfter order start earlier) :=
  List.foldl_append

theorem foldl_pulled_mem_Icc {low high : ℚ} (order : Nat) {pulls : List Pull}
    (inputsInside : ∀ pull ∈ pulls, pull.input ∈ Set.Icc low high) {stages : List ℚ}
    (inside : ∀ stage ∈ stages, stage ∈ Set.Icc low high) :
    ∀ stage ∈ pulls.foldl (pulled order) stages, stage ∈ Set.Icc low high := by
  induction pulls generalizing stages with
  | nil => exact inside
  | cons pull rest ih =>
    obtain ⟨inputInside, others⟩ := List.forall_mem_cons.mp inputsInside
    exact ih others (advance_mem_Icc (share_nonneg ..) (share_le_one ..) inside inputInside)

theorem chainAfter_mem_spanned (order : Nat) (start : ℚ) (pulls : List Pull) :
    ∀ stage ∈ chainAfter order start pulls, stage ∈ spanned start (pulls.map Pull.input) := by
  obtain ⟨startInside, inputsInside⟩ :=
    List.forall_mem_cons.mp (mem_spanned start (pulls.map Pull.input))
  apply foldl_pulled_mem_Icc
  · exact fun pull member => inputsInside pull.input (List.mem_map_of_mem member)
  · intro stage member
    rwa [List.eq_of_mem_replicate member]

section Directed

variable {ahead : ℚ → ℚ → Prop} {input : ℚ} {pulls : List Pull}

/-- A chain that has just started is in order. -/
theorem Direction.isChain_replicate (direction : Direction ahead) (order : Nat) {start : ℚ}
    (towards : ahead input start) : (input :: List.replicate order start).IsChain ahead := by
  induction order generalizing input with
  | zero => exact .singleton input
  | succ last ih =>
    rw [List.replicate_succ, List.isChain_cons_cons]
    exact ⟨towards, ih (direction.refl start)⟩

theorem Direction.isChain_pulled (direction : Direction ahead) (order : Nat) {pull : Pull}
    (same : pull.input = input) {stages : List ℚ} (ordered : (input :: stages).IsChain ahead) :
    (input :: pulled order stages pull).IsChain ahead := by
  rw [pulled, same]
  exact direction.isChain_advance (share_nonneg ..) (share_le_one ..) ordered (direction.refl input)

/-- A chain that is in order stays so under a constant input. -/
theorem Direction.isChain_foldl_pulled (direction : Direction ahead) (order : Nat)
    (constant : ∀ pull ∈ pulls, pull.input = input) {stages : List ℚ}
    (ordered : (input :: stages).IsChain ahead) :
    (input :: pulls.foldl (pulled order) stages).IsChain ahead := by
  induction pulls generalizing stages with
  | nil => exact ordered
  | cons pull rest ih =>
    obtain ⟨same, others⟩ := List.forall_mem_cons.mp constant
    exact ih others (direction.isChain_pulled order same ordered)

/-- What comes out of such a chain does not go back from one call to a later one. -/
theorem Direction.getLastD_foldl_pulled (direction : Direction ahead) (order : Nat) (start : ℚ)
    (constant : ∀ pull ∈ pulls, pull.input = input) {stages : List ℚ}
    (ordered : (input :: stages).IsChain ahead) :
    ahead ((pulls.foldl (pulled order) stages).getLastD start) (stages.getLastD start) := by
  induction pulls generalizing stages with
  | nil => exact direction.refl _
  | cons pull rest ih =>
    obtain ⟨same, others⟩ := List.forall_mem_cons.mp constant
    have moved : ahead ((pulled order stages pull).getLastD start) (stages.getLastD start) := by
      rw [pulled, same]
      exact direction.getLastD_advance (share_nonneg ..) (share_le_one ..) ordered
        (direction.refl start)
    exact direction.trans (ih others (direction.isChain_pulled order same ordered)) moved

/-- Under a constant input the outputs go from the level of the start towards the input and not past it. -/
theorem Direction.outputs_approach (direction : Direction ahead) {order : Nat} (positive : 0 < order)
    {start : ℚ} (towards : ahead input start) {earlier later : List Pull}
    (constant : ∀ pull ∈ earlier ++ later, pull.input = input) :
    ahead (outputAfter order start earlier) start ∧
      ahead (outputAfter order start (earlier ++ later)) (outputAfter order start earlier) ∧
      ahead input (outputAfter order start (earlier ++ later)) := by
  obtain ⟨constantEarlier, constantLater⟩ := List.forall_mem_append.mp constant
  have ordered := direction.isChain_replicate order towards
  have orderedEarlier := direction.isChain_foldl_pulled order constantEarlier ordered
  have orderedLater := direction.isChain_foldl_pulled order constant ordered
  refine ⟨?_, ?_, ?_⟩
  · have startsThere : (List.replicate order start).getLastD start = start := by
      simp [List.getLastD_eq_getLast?, List.getLast?_replicate, positive.ne']
    have moved := direction.getLastD_foldl_pulled order start constantEarlier ordered
    rwa [startsThere] at moved
  · rw [outputAfter, chainAfter_append]
    exact direction.getLastD_foldl_pulled order start constantLater orderedEarlier
  · have transitive : Trans ahead ahead ahead := ⟨direction.trans⟩
    exact orderedLater.rel_cons (outputAfter_mem_chainAfter positive start (earlier ++ later))

end Directed

/-- A smoothing never overshoots, whatever its order, the steps of time, the delays and the inputs are.  Its
stages and its output stay in the interval spanned by the level at which it has started and the inputs so far.
Under a constant input the outputs rise or fall from that level towards the input and do not pass it. -/
theorem smoothing_never_overshoots {order : Nat} (positive : 0 < order) (start : ℚ) :
    (∀ pulls : List Pull,
      (∀ stage ∈ chainAfter order start pulls, stage ∈ spanned start (pulls.map Pull.input)) ∧
        outputAfter order start pulls ∈ spanned start (pulls.map Pull.input)) ∧
    ∀ (input : ℚ) (earlier later : List Pull), (∀ pull ∈ earlier ++ later, pull.input = input) →
      (start ≤ input →
        start ≤ outputAfter order start earlier ∧
          outputAfter order start earlier ≤ outputAfter order start (earlier ++ later) ∧
          outputAfter order start (earlier ++ later) ≤ input) ∧
      (input ≤ start →
        outputAfter order start earlier ≤ start ∧
          outputAfter order start (earlier ++ later) ≤ outputAfter order start earlier ∧
          input ≤ outputAfter order start (earlier ++ later)) := by
  constructor
  · intro pulls
    have inside := chainAfter_mem_spanned order start pulls
    exact ⟨inside, inside _ (outputAfter_mem_chainAfter positive start pulls)⟩
  · intro input earlier later constant
    exact ⟨fun rises => upwards.outputs_approach positive rises constant,
      fun falls => downwards.outputs_approach positive falls constant⟩

/-- Chains of three stages that start below and above an input of ten.  One of the steps of time is negative,
and one is longer than the delay. -/
theorem smoothing_of_third_order_rises_and_falls :
    let step : Pull := ⟨1, 6, 10⟩
    let back : Pull := ⟨-1, 6, 10⟩
    let leap : Pull := ⟨100, 6, 10⟩
    outputAfter 3 0 [step, back, leap] ∈ spanned 0 [10, 10, 10] ∧
      outputAfter 3 0 [step] ≤ outputAfter 3 0 [step, back, leap] ∧
      outputAfter 3 0 [step, back, leap] ≤ 10 ∧
      10 ≤ outputAfter 3 20 [step, back, leap] := by
  intro step back leap
  have constant : ∀ pull ∈ [step] ++ [back, leap], pull.input = 10 := by decide +kernel
  obtain ⟨inside, approaches⟩ := @smoothing_never_overshoots 3 (by decide) 0
  have rises := (approaches 10 [step] [back, leap] constant).1 (by decide +kernel)
  obtain ⟨-, approachesBelow⟩ := @smoothing_never_overshoots 3 (by decide) 20
  have falls := (approachesBelow 10 [step] [back, leap] constant).2 (by decide +kernel)
  exact ⟨(inside [step, back, leap]).2, rises.2.1, rises.2.2, falls.2.2⟩

end Smoothing

end ClockedFormula
