import ClockedFormula.Quantity
/-!
# Exponential smoothing

A smoothing of some order is a chain of so many stages.  In each step of time every stage moves by the
same share of the way towards the stage in front of it, the first one towards the input.  The chain is
changed in place from its end to its front; the main statement says that the stages move all at once.
-/

namespace ClockedFormula

namespace Smoothing

variable {α : Type}

/-- What a stage moves towards: the input for the first stage, and the stage in front for any other. -/
def upstream (input : α) (stages : List α) : (position : Nat) → α
  | 0 => input
  | position + 1 => stages.getD position input

/-- A change of a stage further back is not seen by the stages in front. -/
theorem upstream_modify (input : α) (stages : List α) {position changed : Nat}
    (behind : position ≤ changed) (change : α → α) :
    upstream input (stages.modify changed change) position = upstream input stages position := by
  cases position with
  | zero => rfl
  | succ before =>
    have differs : changed ≠ before := Nat.ne_of_gt behind
    simp only [upstream, List.getD_eq_getElem?_getD, List.getElem?_modify_ne _ _ differs]

variable [Quantity α]

open Quantity

/-- The share of the way that a stage covers in one step of time.  It lies between nothing and all of
the way, and a delay that is not positive leaves none of the way. -/
def share (deltaTime delay : α) (order : Nat) : α :=
  if atMost delay (ofNat 0) then ofNat 1
  else
    let part := deltaTime * ofNat order / delay
    if less part (ofNat 0) then ofNat 0
    else if less (ofNat 1) part then ofNat 1
    else part

/-- Move the first `count` stages of a chain in place.  The last of them goes first, so that every
stage still finds the one in front of it where it was. -/
def moveFirst (share input : α) : (count : Nat) → List α → List α
  | 0, stages => stages
  | position + 1, stages =>
    moveFirst share input position <|
      stages.modify position fun stage =>
        stage + share * (upstream input stages position - stage)

/-- Move all stages of a chain by one step of time. -/
def advance (share input : α) (stages : List α) : List α :=
  moveFirst share input stages.length stages

theorem length_moveFirst (share input : α) (count : Nat) (stages : List α) :
    (moveFirst share input count stages).length = stages.length := by
  induction count generalizing stages with
  | zero => rfl
  | succ position ih => rw [moveFirst, ih, List.length_modify]

@[simp]
theorem length_advance (share input : α) (stages : List α) :
    (advance share input stages).length = stages.length :=
  length_moveFirst share input stages.length stages

theorem getElem?_moveFirst (share input : α) (count : Nat) (stages : List α) (position : Nat) :
    (moveFirst share input count stages)[position]? =
      if position < count then
        stages[position]?.map fun stage =>
          stage + share * (upstream input stages position - stage)
      else stages[position]? := by
  induction count generalizing stages with
  | zero => rfl
  | succ last ih =>
    rw [moveFirst, ih]
    by_cases before : position < last
    · have differs : last ≠ position := Nat.ne_of_gt before
      rw [if_pos before, if_pos (Nat.lt_succ_of_lt before),
        upstream_modify input stages (Nat.le_of_lt before), List.getElem?_modify_ne _ _ differs]
    · rw [if_neg before]
      by_cases same : position = last
      · subst same
        rw [if_pos (Nat.lt_succ_self position), List.getElem?_modify_eq]
        rfl
      · have differs : last ≠ position := Ne.symm same
        have behind : ¬ position < last + 1 := by omega
        rw [if_neg behind, List.getElem?_modify_ne _ _ differs]

/-- In one step of time all stages move at once: what each one moves towards is read off the chain as
it was before any of them moved. -/
theorem getElem?_advance (share input : α) (stages : List α) (position : Nat) :
    (advance share input stages)[position]? =
      stages[position]?.map fun stage =>
        stage + share * (upstream input stages position - stage) := by
  rw [advance, getElem?_moveFirst]
  by_cases inside : position < stages.length
  · rw [if_pos inside]
  · rw [if_neg inside, List.getElem?_eq_none (Nat.le_of_not_lt inside), Option.map_none]

end Smoothing

end ClockedFormula
