import ClockedFormula.Proofs.Evaluation.Plain
import ClockedFormula.Proofs.Table.Overlay

namespace ClockedFormula

/-!
# The tree of bindings

A formula that is bound to a name has bindings of its own, and so on, but the tree ends: a binding holds
a formula as it is when it is bound.  `Formula.inner` lists all formulas below the root.  No walk meets
any others, since a formula that is entered sees only bindings that are in the tree already.
-/

mutual

/-- The formulas in the bindings of a formula, in the bindings of these, and so on. -/
def Formula.inner : Formula → List Formula
  | ⟨_, _, bindings, _, _, _⟩ => Formula.innerOfTable bindings

/-- The formulas in a table of bindings, and those inside them. -/
def Formula.innerOfTable : Table String (Binding Formula) → List Formula
  | ⟨entries⟩ => Formula.innerOfEntries entries

/-- The formulas in several bindings, and those inside them. -/
def Formula.innerOfEntries : List (String × Binding Formula) → List Formula
  | [] => []
  | entry :: rest => Formula.innerOfEntry entry ++ Formula.innerOfEntries rest

/-- The formula in a binding with its name, and those inside it. -/
def Formula.innerOfEntry : String × Binding Formula → List Formula
  | (_, binding) => Formula.innerOfBinding binding

/-- The formula in a binding, and those inside it. -/
def Formula.innerOfBinding : Binding Formula → List Formula
  | .value _ => []
  | .formula f => f :: f.inner

end

/-- Whether all formulas in some bindings are among the given ones. -/
def Bindings.Within (all : List Formula) (bindings : Bindings) : Prop :=
  ∀ entry ∈ bindings.entries, ∀ g, entry.2 = .formula g → g ∈ all

namespace Bindings.Within

variable {all larger : List Formula} {bindings upper : Bindings}

theorem find? (within : bindings.Within all) {ignoreCase : Bool} {name : String} {g : Formula}
    (found : bindings.find? ignoreCase name = some (.formula g)) : g ∈ all := by
  rcases exists_mem_of_find? found with ⟨key, member⟩
  exact within (key, .formula g) member g rfl

theorem overlay (within : bindings.Within all) (upperWithin : upper.Within all) :
    Within all (bindings.overlay upper) := by
  intro entry member g same
  rcases Table.mem_overlay member with below | above
  · exact within entry below g same
  · exact upperWithin entry above g same

theorem of_subset (within : bindings.Within all) (subset : all ⊆ larger) :
    bindings.Within larger :=
  fun entry member g same => subset (within entry member g same)

end Bindings.Within

namespace Formula

theorem mem_innerOfEntries {g : Formula} {entries : List (String × Binding Formula)} :
    g ∈ innerOfEntries entries ↔ ∃ entry ∈ entries, g ∈ innerOfBinding entry.2 := by
  induction entries with
  | nil => simp [innerOfEntries]
  | cons entry rest ih =>
    have here : innerOfEntry entry = innerOfBinding entry.2 := by
      rcases entry with ⟨name, binding⟩
      rw [innerOfEntry]
    rw [innerOfEntries, List.mem_append, ih, here]
    simp

/-- The tree of bindings does not depend on anything else in the formula. -/
theorem inner_eq_innerOfTable (f : Formula) : f.inner = innerOfTable f.bindings := by
  cases f
  rw [inner]

theorem mem_innerOfTable {g : Formula} {bindings : Bindings} :
    g ∈ innerOfTable bindings ↔ ∃ entry ∈ bindings.entries, g ∈ innerOfBinding entry.2 := by
  rcases bindings with ⟨entries⟩
  rw [innerOfTable, mem_innerOfEntries]

/-- What is inside a formula is in one of its bindings. -/
theorem mem_inner {f g : Formula} :
    g ∈ f.inner ↔ ∃ entry ∈ f.bindings.entries, g ∈ innerOfBinding entry.2 := by
  rw [inner_eq_innerOfTable, mem_innerOfTable]

/-- A formula that is bound brings in itself and what is inside it. -/
theorem inner_bind_subset (f : Formula) (name : String) (binding : Binding Formula) :
    (f.bind name binding).inner ⊆ f.inner ++ innerOfBinding binding := by
  intro g inside
  rcases mem_inner.mp inside with ⟨entry, member, here⟩
  rcases Table.mem_write member with before | itself
  · exact List.mem_append_left _ (mem_inner.mpr ⟨entry, before, here⟩)
  · rw [itself] at here
    exact List.mem_append_right _ here

theorem inner_unbind_subset (f : Formula) (name : String) : (f.unbind name).inner ⊆ f.inner := by
  intro g inside
  rcases mem_inner.mp inside with ⟨entry, member, here⟩
  exact mem_inner.mpr ⟨entry, (List.mem_filter.mp member).1, here⟩

/-- The formulas in the bindings of a formula are inside it. -/
theorem bindings_within (f : Formula) : Bindings.Within f.inner f.bindings := by
  intro entry member g same
  refine mem_inner.mpr ⟨entry, member, ?_⟩
  rw [same, innerOfBinding]
  exact List.mem_cons_self

theorem sizeOf_lt_of_bound {f g : Formula} {name : String}
    (member : (name, .formula g) ∈ f.bindings.entries) : sizeOf g < sizeOf f := by
  have inEntries := List.sizeOf_lt_of_mem member
  rcases f with ⟨expression, options, ⟨entries⟩, identifierHandlers, functionHandlers, store⟩
  simp only [Prod.mk.sizeOf_spec, Binding.formula.sizeOf_spec] at inEntries
  simp only [mk.sizeOf_spec, Table.mk.sizeOf_spec]
  omega

/-- What is inside a formula that is inside another one is inside the other one. -/
theorem inner_subset {f g : Formula} (inside : g ∈ f.inner) : g.inner ⊆ f.inner := by
  intro h deeper
  rcases mem_inner.mp inside with ⟨⟨name, binding⟩, member, here⟩
  refine mem_inner.mpr ⟨(name, binding), member, ?_⟩
  cases binding with
  | value v =>
    rw [innerOfBinding] at here
    cases here
  | formula k =>
    rw [innerOfBinding] at here ⊢
    rcases List.mem_cons.mp here with rfl | below
    · exact List.mem_cons_of_mem _ deeper
    · have smaller := sizeOf_lt_of_bound member
      exact List.mem_cons_of_mem _ (inner_subset below deeper)
termination_by sizeOf f

/-- The formulas inside a formula have no bindings to formulas that are not. -/
theorem bindings_within_of_mem {f g : Formula} (inside : g ∈ f.inner) :
    Bindings.Within f.inner g.bindings :=
  g.bindings_within.of_subset (inner_subset inside)

/-- Whether something is true of the handlers of a formula. -/
def OwnHandlers (holds : Handler → Prop) (f : Formula) : Prop :=
  ∀ handler ∈ f.identifierHandlers ++ f.functionHandlers, holds handler

/-- Whether something is true of the handlers of a formula and of all formulas inside it. -/
def AllHandlers (holds : Handler → Prop) (f : Formula) : Prop :=
  ∀ g ∈ f :: f.inner, g.OwnHandlers holds

end Formula

/-! ## Handlers that a walk can come to ask -/

/-- Whether something is true of the handlers of a context, and of those of all formulas in its bindings and
inside these. -/
structure Context.AllHandlers (holds : Handler → Prop) (context : Context) : Prop where
  own : ∀ handler ∈ context.identifierHandlers ++ context.functionHandlers, holds handler
  inner : ∀ g ∈ Formula.innerOfTable context.bindings, g.OwnHandlers holds

namespace Context.AllHandlers

variable {holds : Handler → Prop} {context : Context}

theorem ofFormula {f : Formula} (all : f.AllHandlers holds) (clock : Clock) :
    (Context.ofFormula f clock).AllHandlers holds where
  own := (List.forall_mem_cons.mp all).1
  inner g inside := (List.forall_mem_cons.mp all).2 g (f.inner_eq_innerOfTable ▸ inside)

/-- No handlers are met in a formula that is entered but those of the tree. -/
theorem enter (all : context.AllHandlers holds) {name : String} {f : Formula}
    (found : context.find? name = some (.formula f)) : (context.enter f).AllHandlers holds := by
  rcases Bindings.exists_mem_of_find? found with ⟨key, member⟩
  have here : ∀ g ∈ f :: f.inner, g ∈ Formula.innerOfTable context.bindings := by
    intro g inside
    refine Formula.mem_innerOfTable.mpr ⟨(key, .formula f), member, ?_⟩
    rw [Formula.innerOfBinding]
    exact inside
  refine ⟨all.inner f (here f List.mem_cons_self), fun g inside => ?_⟩
  rcases Formula.mem_innerOfTable.mp inside with ⟨entry, present, deeper⟩
  rcases Table.mem_overlay present with below | above
  · exact all.inner g (here g (List.mem_cons_of_mem f (Formula.mem_inner.mpr ⟨entry, below, deeper⟩)))
  · exact all.inner g (Formula.mem_innerOfTable.mpr ⟨entry, above, deeper⟩)

end Context.AllHandlers

end ClockedFormula
