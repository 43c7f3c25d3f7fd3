import ClockedFormula.Proofs.Evaluation.Likeness
import ClockedFormula.Proofs.Formula.Tree
import ClockedFormula.Proofs.Walk.Transparency

namespace ClockedFormula

/-!
# Formulas with inserted handlers

A formula is padded if handlers are inserted into its chains, and into those of the formulas that are bound
in it, at any depth.  Nothing else is changed, so the tables of bindings have the same names in the same
order, and a name finds bindings in them that differ in inserted handlers only.  A handler that looks at the
formulas that are bound does not see their chains of handlers, and so it sees the same.

A handler that goes by how often it has been asked would notice if it were inserted once more.  So those
that are inserted are others than those that are there.
-/

/-! ## Tables that are alike entry by entry -/

/-- Whether two entries bind the same name to bindings that are alike. -/
inductive Binding.LikeEntry {φ : Type} (alike : φ → φ → Prop) : String × Binding φ → String × Binding φ → Prop
  | intro (name : String) {binding other : Binding φ} (bindings : binding.Like alike other) :
    LikeEntry alike (name, binding) (name, other)

/-- Whether two rows bind the same names in the same order, to bindings that are alike. -/
abbrev Binding.LikeRow (alike : Formula → Formula → Prop) :
    List (String × Binding Formula) → List (String × Binding Formula) → Prop :=
  List.Forall₂ (LikeEntry alike)

namespace Binding.LikeRow

variable {alike : Formula → Formula → Prop} {entries others : List (String × Binding Formula)}

theorem names_eq (row : LikeRow alike entries others) : entries.map Prod.fst = others.map Prod.fst := by
  induction row with
  | nil => rfl
  | cons entry _ ih =>
    cases entry
    rw [List.map_cons, List.map_cons, ih]

/-- The first entries whose names pass a test are alike. -/
theorem find? (row : LikeRow alike entries others) (test : String → Bool) :
    Option.Rel (Binding.Like alike) ((entries.find? fun entry => test entry.1).map Prod.snd)
      ((others.find? fun entry => test entry.1).map Prod.snd) := by
  induction row with
  | nil => exact .none
  | cons entry _ ih =>
    obtain ⟨name, like⟩ := entry
    rw [List.find?_cons, List.find?_cons]
    cases test name with
    | true => exact .some like
    | false => exact ih

theorem lookup (row : LikeRow alike entries others) (name : String) :
    Option.Rel (Binding.Like alike) (entries.lookup name) (others.lookup name) := by
  induction row with
  | nil => exact .none
  | cons entry _ ih =>
    obtain ⟨bound, like⟩ := entry
    rw [List.lookup_cons, List.lookup_cons]
    cases name == bound with
    | true => exact .some like
    | false => exact ih

/-- Handlers see the same in rows that are alike if they do so in the formulas of one of them. -/
theorem viewOfEntries_eq (row : LikeRow alike entries others)
    (views : ∀ {name f g}, (name, .formula f) ∈ entries → alike f g → f.view = g.view) :
    Formula.viewOfEntries entries = Formula.viewOfEntries others := by
  induction row with
  | nil => rfl
  | cons entry rest ih =>
    obtain ⟨name, like⟩ := entry
    have later := ih fun member => views (List.mem_cons_of_mem _ member)
    rw [Formula.viewOfEntries, Formula.viewOfEntries, later, Formula.viewOfEntry, Formula.viewOfEntry]
    cases like with
    | value v => rfl
    | formula formulas =>
      rw [Binding.view, Binding.view, views List.mem_cons_self formulas]

theorem write (row : LikeRow alike entries others) (name : String) {binding other : Binding Formula}
    (like : binding.Like alike other) :
    LikeRow alike (Table.write name binding entries) (Table.write name other others) := by
  induction row with
  | nil => exact .cons (.intro name like) .nil
  | cons entry rest ih =>
    obtain ⟨bound, kept⟩ := entry
    unfold Table.write
    by_cases itself : bound = name
    · rw [if_pos itself, if_pos itself]
      exact .cons (.intro name like) rest
    · rw [if_neg itself, if_neg itself]
      exact .cons (.intro bound kept) ih

end Binding.LikeRow

/-- Whether two tables bind the same names in the same order, to bindings that are alike. -/
def Bindings.Like (alike : Formula → Formula → Prop) (bindings others : Bindings) : Prop :=
  Binding.LikeRow alike bindings.entries others.entries

namespace Bindings.Like

variable {alike : Formula → Formula → Prop} {bindings others upper also : Bindings}

theorem find? (like : bindings.Like alike others) (ignoreCase : Bool) (name : String) :
    Option.Rel (Binding.Like alike) (bindings.find? ignoreCase name) (others.find? ignoreCase name) := by
  have folded := Binding.LikeRow.find? like fun bound => Text.lowerCase bound == Text.lowerCase name
  have exactly : Option.Rel (Binding.Like alike) (bindings.get? name) (others.get? name) :=
    Binding.LikeRow.lookup like name
  unfold Bindings.find?
  generalize bindings.get? name = here, others.get? name = there at exactly ⊢
  cases exactly with
  | some bound => exact .some bound
  | none =>
    cases ignoreCase with
    | false => exact .none
    | true => exact folded

theorem overlay (below : bindings.Like alike others) (above : upper.Like alike also) :
    Like alike (bindings.overlay upper) (others.overlay also) := by
  obtain ⟨entries⟩ := upper
  obtain ⟨entriesAlso⟩ := also
  have row : Binding.LikeRow alike entries entriesAlso := above
  clear above
  induction row generalizing bindings others with
  | nil => exact below
  | cons entry _ ih =>
    obtain ⟨name, like⟩ := entry
    exact ih (Binding.LikeRow.write below name like)

end Bindings.Like

/-! ## Padded formulas -/

/-- Whether a formula is another one with handlers inserted into its chains, or into those of the formulas
that are bound in it, and so on.  No handler is inserted that is there already and goes by how often it has
been asked. -/
inductive Formula.Padded (inserted : Handler → Prop) : Formula → Formula → Prop
  | intro {f g : Formula} (expression : f.expression = g.expression) (options : f.options = g.options)
    (store : f.store = g.store)
    (identifierHandlers : Interspersed inserted f.identifierHandlers g.identifierHandlers)
    (functionHandlers : Interspersed inserted f.functionHandlers g.functionHandlers)
    (apart : f.OwnHandlers (Handler.StandsApart inserted))
    (bindings : List.Forall₂ (Binding.LikeEntry (Padded inserted)) f.bindings.entries g.bindings.entries) :
    Padded inserted f g

theorem Formula.view_eq_mk (f : Formula) :
    f.view = ⟨f.expression, f.options, ⟨viewOfEntries f.bindings.entries⟩, f.store⟩ := by
  rcases f with ⟨expression, options, ⟨entries⟩, identifierHandlers, functionHandlers, store⟩
  rw [view, viewOfTable]

/-- Handlers do not see the difference between formulas. -/
theorem Formula.Padded.view_eq {inserted : Handler → Prop} {f g : Formula} (padded : f.Padded inserted g) :
    f.view = g.view := by
  obtain ⟨expression, options, store, -, -, -, bindings⟩ := padded
  have entries : viewOfEntries f.bindings.entries = viewOfEntries g.bindings.entries := by
    refine Binding.LikeRow.viewOfEntries_eq bindings fun member inside => ?_
    have smaller := sizeOf_lt_of_bound member
    exact inside.view_eq
  rw [view_eq_mk, view_eq_mk, expression, options, store, entries]
termination_by sizeOf f

namespace Context

/-- Whether two contexts differ in inserted handlers only. -/
structure Padded (inserted : Handler → Prop) (context other : Context) : Prop
    extends SameSetting context other where
  identifierHandlers : Interspersed inserted context.identifierHandlers other.identifierHandlers
  functionHandlers : Interspersed inserted context.functionHandlers other.functionHandlers
  apart : ∀ handler ∈ context.identifierHandlers ++ context.functionHandlers,
    handler.StandsApart inserted
  bindings : Bindings.Like (Formula.Padded inserted) context.bindings other.bindings

namespace Padded

variable {inserted : Handler → Prop} {context other : Context} {f g : Formula}

theorem ofFormula (padded : f.Padded inserted g) (clock : Clock) :
    (Context.ofFormula f clock).Padded inserted (Context.ofFormula g clock) := by
  obtain ⟨_, options, store, identifierHandlers, functionHandlers, apart, bindings⟩ := padded
  exact {
    options := options
    store := store
    clock := rfl
    root := store
    identifierHandlers := identifierHandlers
    functionHandlers := functionHandlers
    apart := apart
    bindings := bindings }

/-- Formulas that are met under a name see the bindings around them over their own. -/
theorem enter (contexts : context.Padded inserted other) (padded : f.Padded inserted g) :
    (context.enter f).Padded inserted (other.enter g) := by
  obtain ⟨_, options, store, identifierHandlers, functionHandlers, apart, bindings⟩ := padded
  exact {
    options := options
    store := store
    clock := contexts.clock
    root := contexts.root
    identifierHandlers := identifierHandlers
    functionHandlers := functionHandlers
    apart := apart
    bindings := Bindings.Like.overlay bindings contexts.bindings }

theorem finds (contexts : context.Padded inserted other) (name : String) :
    Option.Rel (Binding.Like (Formula.Padded inserted)) (context.find? name) (other.find? name) := by
  rw [find?, find?, ← contexts.options]
  exact contexts.bindings.find? context.options.ignoreCase name

/-- Handlers do not see the difference between contexts. -/
theorem view_eq (contexts : context.Padded inserted other) : context.view = other.view := by
  have names : context.bindings.keys = other.bindings.keys := contexts.bindings.names_eq
  have finds : (fun name => (context.find? name).map Binding.view) =
      fun name => (other.find? name).map Binding.view := by
    funext name
    have found := contexts.finds name
    generalize context.find? name = here, other.find? name = there at found ⊢
    cases found with
    | none => rfl
    | some bindings =>
      cases bindings with
      | value v => rfl
      | formula padded => rw [Option.map_some, Option.map_some, Binding.view, Binding.view, padded.view_eq]
  rw [view, view, contexts.clock, contexts.options, names, finds]

end Padded

end Context

end ClockedFormula
