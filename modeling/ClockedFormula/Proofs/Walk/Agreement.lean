import ClockedFormula.Proofs.Walk.Congruence

namespace ClockedFormula

/-!
# Walks that agree unless they are interrupted

Two walks may differ in a part that is not always reached.  If reaching it always ends in an
interruption of one kind, then from every other world the walks do exactly the same: they come to the
same value or the same failure, and they leave the same world behind.

An interruption of a part is an interruption of the whole, for operators and functions never meet a
failure.  Handlers do meet the failures of arguments, so for them the interruption has to be of a kind
that passes every handler.
-/

namespace Walk

variable {α β : Type} {reason : Interruption}

/-- Whether a walk from a world is interrupted for a reason. -/
def StopsBy (reason : Interruption) (walk : Walk α) (world : World) : Prop :=
  ∃ after, walk world = .error reason after

/-- Whether two walks do the same from every world from which the first one is not interrupted for a
certain reason. -/
def AgreesUnless (reason : Interruption) (first second : Walk α) : Prop :=
  ∀ world, first.StopsBy reason world ∨ second world = first world

namespace AgreesUnless

variable {first second : Walk α}

theorem refl (reason : Interruption) (walk : Walk α) : AgreesUnless reason walk walk :=
  fun _ => .inr rfl

/-- An interruption of the first part is one of the whole. -/
theorem bind {next later : α → Walk β} (agree : AgreesUnless reason first second)
    (rest : ∀ a, AgreesUnless reason (next a) (later a)) :
    AgreesUnless reason (first >>= next) (second >>= later) := by
  intro world
  rcases agree world with ⟨after, stopped⟩ | same
  · exact .inl ⟨after, bind_error stopped next⟩
  · cases outcome : first world with
    | ok a middle =>
      have also : second world = .ok a middle := same.trans outcome
      rcases rest a middle with ⟨after, stopped⟩ | equal
      · exact .inl ⟨after, (bind_ok outcome next).trans stopped⟩
      · right
        rw [bind_ok also later, bind_ok outcome next, equal]
    | error other middle =>
      have also : second world = .error other middle := same.trans outcome
      right
      rw [bind_error also later, bind_error outcome next]

/-- A handler that asks for an outcome does not see an interruption other than a failure. -/
theorem outcome (uncaught : ∀ e, reason ≠ .failed e) (agree : AgreesUnless reason first second) :
    AgreesUnless reason first.outcome second.outcome := by
  intro world
  rcases agree world with ⟨after, stopped⟩ | same
  · left
    refine ⟨after, ?_⟩
    unfold Walk.outcome
    rw [stopped]
    cases reason with
    | failed e => exact absurd rfl (uncaught e)
    | dropped => rfl
    | exhausted => rfl
  · right
    unfold Walk.outcome
    rw [same]

theorem sequential (reason : Interruption) : Sequential (AgreesUnless reason) where
  yields a := .refl reason (pure a)
  stops other := .refl reason (throw other)
  sequences := .bind

/-- Nothing that a walk does meets an interruption, but for handlers. -/
theorem congruence (reason : Interruption) (root : StoreId) :
    Congruence root (AgreesUnless reason) where
  toSequential := sequential reason
  calls asks context id name := (sequential reason).callOperands asks context id name
    (.refl reason _) (.refl reason _) fun _ => .refl reason _
  records _ _ _ := .refl reason _
  checks := .refl reason (Walk.isCancelled root)
  cancels place := .refl reason (Walk.cancel place)
  notes entry := .refl reason (Walk.note entry)
  counts label := .refl reason (Walk.timesAsked label)
  shows store id := .refl reason (Walk.readouts store id)

end AgreesUnless

end Walk

end ClockedFormula
