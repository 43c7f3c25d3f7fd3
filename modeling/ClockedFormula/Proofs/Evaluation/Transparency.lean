import ClockedFormula.Proofs.Evaluation.Occasion
import ClockedFormula.Proofs.Formula.Padding

namespace ClockedFormula

open Walk

/-!
# Evaluations with inserted handlers

A handler for function calls is asked at every call, built-in functions included, and before it is asked the
walk looks whether it is cancelled.  Nothing of this shows if the handler is passive and the walk is not
cancelled: the evaluation has the same outcome, all stores are the same, and the other handlers are asked
about the same names in the same order.  It does not matter into which chains passive handlers are inserted,
how many they are and where they stand in the chains.
-/

variable {inserted : Handler → Prop}

theorem Context.Padded.alike {context other : Context} (contexts : context.Padded inserted other)
    (passive : ∀ handler, inserted handler → handler.IsPassive) :
    context.Alike (Undisturbed context.root inserted) (Formula.Padded inserted) other where
  toSameSetting := contexts.toSameSetting
  finds := contexts.finds
  identifiers name :=
    .consult passive contexts.view_eq contexts.root .nil rfl contexts.identifierHandlers
      (fun handler member => contexts.apart handler (List.mem_append_left _ member)) name
  functions name _ _ agree same :=
    .consult passive contexts.view_eq contexts.root agree same contexts.functionHandlers
      (fun handler member => contexts.apart handler (List.mem_append_right _ member)) name

namespace Formula

end Formula

end ClockedFormula
