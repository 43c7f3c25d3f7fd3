import ClockedFormula.Proofs.Quantity.Rational
import ClockedFormula.Proofs.Smoothing.Retry

namespace ClockedFormula

open Walk

namespace Smoothing

/-!
# Smoothing without delay

A delay that is not positive leaves none of the way to any stage, so each stage takes the level of the stage
in front of it, and the first one that of the input.  But all stages move at once: the chain is shifted by one
place, and what comes out at its end is what the stage before the last was at.  The input itself comes out
only of a chain of one stage; from a longer one it comes out after as many further calls as there are further
stages.
-/

section Chain

variable {α : Type}

/-- The chain behind an input, without its last stage: every stage is at the level of the one in front of
it. -/
theorem getElem?_dropLast_cons (input : α) (stages : List α) (position : Nat) :
    (input :: stages).dropLast[position]? =
      stages[position]?.map fun _ => upstream input stages position := by
  by_cases inside : position < stages.length
  · rw [List.getElem?_dropLast, List.length_cons, Nat.add_sub_cancel, if_pos inside,
      List.getElem?_eq_getElem inside, Option.map_some]
    cases position with
    | zero => rfl
    | succ before =>
      have earlier : before < stages.length := Nat.lt_of_succ_lt inside
      rw [List.getElem?_cons_succ, upstream, List.getD_eq_getElem?_getD,
        List.getElem?_eq_getElem earlier, Option.getD_some]
  · rw [List.getElem?_eq_none (by simpa using inside), List.getElem?_eq_none (by simpa using inside),
      Option.map_none]

/-- What comes out of a chain that has been shifted. -/
theorem getLastD_dropLast_cons (input : α) (stages : List α) :
    (input :: stages).dropLast.getLastD input = upstream input stages (stages.length - 1) := by
  have last := getElem?_dropLast_cons input stages (stages.length - 1)
  rw [List.getLastD_eq_getLast?, List.getLast?_eq_getElem?, List.length_dropLast, List.length_cons,
    Nat.add_sub_cancel, last]
  cases stages with
  | nil => rfl
  | cons stage rest => rw [List.getElem?_eq_getElem (by simp)]; rfl

/-- The input itself comes out of a single stage, and of several where the stage before the last was at it
already. -/
theorem upstream_eq_input_iff (input : α) (stages : List α) :
    upstream input stages (stages.length - 1) = input ↔
      stages.length ≤ 1 ∨ stages[stages.length - 2]? = some input := by
  by_cases short : stages.length ≤ 1
  · have first : stages.length - 1 = 0 := by omega
    rw [first]
    exact iff_of_true rfl (.inl short)
  · have before : stages.length - 1 = (stages.length - 2) + 1 := by omega
    have inside : stages.length - 2 < stages.length := by omega
    rw [before, upstream, List.getD_eq_getElem?_getD, List.getElem?_eq_getElem inside, Option.getD_some]
    simp [short]

variable [Quantity α]

open Quantity

/-- Whether each stage that covers all of its way arrives at its end.  Exact numbers always do; doubles do
unless the way or the sum is rounded. -/
def Arrives (input : α) (stages : List α) : Prop :=
  ∀ position, (inside : position < stages.length) →
    stages[position] + ofNat 1 * (upstream input stages position - stages[position]) =
      upstream input stages position

instance [DecidableEq α] (input : α) (stages : List α) : Decidable (Arrives input stages) :=
  inferInstanceAs (Decidable (∀ position, (inside : position < stages.length) → _ = _))

/-- Without delay the chain is shifted by one place. -/
theorem advance_of_atMost_zero {deltaTime delay input : α} {order : Nat} {stages : List α}
    (undelayed : atMost delay (ofNat 0) = true) (arrives : Arrives input stages) :
    advance (share deltaTime delay order) input stages = (input :: stages).dropLast := by
  have whole : share deltaTime delay order = ofNat 1 := if_pos undelayed
  apply List.ext_getElem?
  intro position
  rw [getElem?_advance, getElem?_dropLast_cons, whole]
  by_cases inside : position < stages.length
  · rw [List.getElem?_eq_getElem inside, Option.map_some, Option.map_some, arrives position inside]
  · rw [List.getElem?_eq_none (Nat.le_of_not_lt inside), Option.map_none, Option.map_none]

end Chain

/-! ## Exact arithmetic -/

section Exact

theorem arrives_rat (input : ℚ) (stages : List ℚ) : Arrives input stages := by
  intro position inside
  simp

/-- What a call goes by. -/
structure Pull where
  deltaTime : ℚ
  delay : ℚ
  input : ℚ

/-- The chain after a call that integrates. -/
def pulled (order : Nat) (stages : List ℚ) (pull : Pull) : List ℚ :=
  advance (share pull.deltaTime pull.delay order) pull.input stages

/-- After several calls without delay the chain holds their inputs, the latest first, and behind them what is
left of the stages before. -/
theorem foldl_pulled (order : Nat) {pulls : List Pull} (undelayed : ∀ pull ∈ pulls, pull.delay ≤ 0)
    (stages : List ℚ) :
    pulls.foldl (pulled order) stages =
      ((pulls.map Pull.input).reverse ++ stages).take stages.length := by
  induction pulls generalizing stages with
  | nil => simp
  | cons pull rest ih =>
    have here : Quantity.atMost pull.delay (Quantity.ofNat 0) = true := by
      simpa using undelayed pull List.mem_cons_self
    have shifted : pulled order stages pull = (pull.input :: stages).take stages.length := by
      rw [pulled, advance_of_atMost_zero here (arrives_rat pull.input stages), List.dropLast_eq_take,
        List.length_cons, Nat.add_sub_cancel]
    have same : ((pull.input :: stages).take stages.length).length = stages.length := by simp
    rw [List.foldl_cons, shifted, ih (fun other member => undelayed other (List.mem_cons_of_mem _ member)),
      same, List.take_append, List.take_take, List.map_cons, List.reverse_cons, List.append_assoc,
      List.singleton_append, List.take_append, Nat.min_eq_left (Nat.sub_le _ _)]

/-- The inputs come out of the chain in their order, each of them as many calls late as there are stages
before the last. -/
theorem getLast?_foldl_pulled {last : Nat} {pulls : List Pull} (undelayed : ∀ pull ∈ pulls, pull.delay ≤ 0)
    {stages : List ℚ} (sameOrder : stages.length = last + 1) (enough : last < pulls.length) :
    (pulls.foldl (pulled (last + 1)) stages).getLast? =
      (pulls.map Pull.input)[pulls.length - 1 - last]? := by
  have inside : last < (pulls.map Pull.input).reverse.length := by simpa using enough
  rw [foldl_pulled _ undelayed, sameOrder, List.getLast?_take, if_neg (Nat.succ_ne_zero last),
    Nat.add_sub_cancel, List.getElem?_append_left inside, List.getElem?_reverse (by simpa using enough),
    List.length_map]
  have present : pulls.length - 1 - last < (pulls.map Pull.input).length := by
    rw [List.length_map]
    omega
  rw [List.getElem?_eq_getElem present]
  rfl

end Exact

/-! ## Calls -/

/-- A call without delay comes to what the stage before the last was at. -/
theorem Call.ending_of_undelayed {node : Node} (call : Call node) {world last : World} {supplied : Supply}
    {before : List Double} (done : call.supplying world = .ok supplied last)
    (integrates : (call.context.registers (call.memory world)).1.integrates = true)
    (remembered : (call.context.registers (call.memory world)).2.temporal = .stages before)
    (sameOrder : before.length = supplied.order)
    (undelayed : supplied.delay.atMost (Double.ofNat 0) = true)
    (arrives : Arrives supplied.input before) :
    call.walk.ending world =
        .ok (.float (upstream supplied.input before (supplied.order - 1))) ∧
      (call.remains world).temporal = .stages (supplied.input :: before).dropLast := by
  have shifted : supplied.stagesAfter call.context (call.memory world) =
      (supplied.input :: before).dropLast := by
    rw [Supply.stagesAfter, integrates, remembered, Supply.stages, if_pos sameOrder, if_pos rfl]
    exact advance_of_atMost_zero undelayed arrives
  have ended := call.ending_eq done
  rwa [shifted, getLastD_dropLast_cons, sameOrder] at ended

/-- A call that integrates without delay, in exact arithmetic, comes to its input if and only if it has a
single stage or the stage before the last was at the input already. -/
theorem undelayed_output_eq_input_iff {node : Node} (call : Call node) {world last : World}
    {supplied : Supply} {before : List Double} (done : call.supplying world = .ok supplied last)
    (integrates : (call.context.registers (call.memory world)).1.integrates = true)
    (remembered : (call.context.registers (call.memory world)).2.temporal = .stages before)
    (sameOrder : before.length = supplied.order)
    (undelayed : supplied.delay.atMost (Double.ofNat 0) = true)
    (arrives : Arrives supplied.input before) :
    call.walk.ending world = .ok (.float supplied.input) ↔
      supplied.order ≤ 1 ∨ before[supplied.order - 2]? = some supplied.input := by
  rw [(call.ending_of_undelayed done integrates remembered sameOrder undelayed arrives).1, ← sameOrder,
    ← upstream_eq_input_iff]
  simp

/-- A smoothing of the third order without delay. -/
def trailing : Node where
  application := ⟨⟨0⟩, "smth3", [.identifier "x", .literal (.float (.ofNat 0))]⟩
  function := .smooth3
  order := .answer 3
  input := ⟨0, Nat.zero_lt_two⟩
  delay := ⟨1, Nat.one_lt_two⟩
  initial := none
  smooths := .three

def trailingFormula : Formula := .ofExpr trailing.application.expression .default ⟨0⟩

theorem trailingFormula_consistent : trailingFormula.expression.Consistent := by
  intro first inFirst second inSecond _
  have only : trailingFormula.expression.applications = [trailing.application] := rfl
  rw [only] at inFirst inSecond
  rw [List.mem_singleton.mp inFirst, List.mem_singleton.mp inSecond]

def trailingCall (occasion : Occasion) (onlyValues : occasion.bindings.OnlyValues) : Call trailing :=
  have plain : (trailingFormula.on occasion).Plain := .of_hasHandlers rfl onlyValues
  .ofPlain Formula.entering (plain.context occasion.clock) trailingFormula_consistent rfl

/-- The input rises from nothing to ten, and the call at the next step still comes to nothing. -/
theorem trailing_output_behind_input :
    let call := trailingCall (halfwayOccasion 1 10) (halfwayOccasion_onlyValues 1 10)
    let world := (trailingFormula.evaluateOn (halfwayOccasion 0 0) World.empty).2
    call.walk.ending world ≠ .ok (.float (.ofNat 10)) := by
  intro call world caught
  have done : call.supplying world = .ok ⟨3, .ofNat 10, .ofNat 0, none⟩ _ := rfl
  have remembered : (call.context.registers (call.memory world)).2.temporal =
    .stages [.ofNat 0, .ofNat 0, .ofNat 0] := rfl
  have behind := (undelayed_output_eq_input_iff call done rfl remembered rfl (by decide +kernel)
    (by decide +kernel)).mp caught
  revert behind
  decide +kernel

end Smoothing

end ClockedFormula
