import ClockedFormula.Proofs.Evaluation.Confinement
import ClockedFormula.Proofs.Expr.Numbering

namespace ClockedFormula

/-!
# What the commands of a host do

A session consists of formulas and of the world of their memories.  Most commands change one of the two, and
each of them in a few ways only: a formula gets other bindings, a clone is kept, a definition brings in one
formula with a store of its own; an evaluation leaves a world behind, and a memory or a flag is changed.
Whatever is to hold of a session at any time has to be looked at for these ways, and not for every command.

Formulas stand in the bindings of others to any depth.  They all belong to the session, and no command but a
definition brings in others.
-/

namespace Session

/-- The formulas of a session, and those inside them. -/
def all (session : Session) : List Formula := session.formulas.flatMap fun f => f :: f.inner

section All

variable {session : Session} {f g : Formula}

theorem mem_all : f ∈ session.all ↔ ∃ g ∈ session.formulas, f ∈ g :: g.inner :=
  List.mem_flatMap

theorem mem_all_of_mem (member : f ∈ session.formulas) : f ∈ session.all :=
  mem_all.mpr ⟨f, member, List.mem_cons_self⟩

/-- The formulas inside a formula of a session belong to the session. -/
theorem inner_subset_all (member : f ∈ session.all) : f.inner ⊆ session.all := by
  intro g inside
  rcases mem_all.mp member with ⟨h, top, below⟩
  refine mem_all.mpr ⟨h, top, List.mem_cons_of_mem h ?_⟩
  rcases List.mem_cons.mp below with rfl | within
  · exact inside
  · exact Formula.inner_subset within inside

/-- What can be bound in a session belongs to the session. -/
theorem innerOfBinding_subset_all {draft : BindingDraft} {binding : Binding Formula}
    (found : session.binding? draft = some binding) :
    Formula.innerOfBinding binding ⊆ session.all := by
  cases draft with
  | value v =>
    cases found
    exact List.nil_subset _
  | formula index =>
    rcases Option.map_eq_some_iff.mp found with ⟨f, present, rfl⟩
    have member := mem_all_of_mem (List.mem_of_getElem? present)
    exact List.cons_subset.mpr ⟨member, inner_subset_all member⟩

/-- The identity of a call at a place is that of a call of the formula. -/
theorem owns_of_call? {place : Nat} {id : NodeId} (called : call? f place = some id) :
    f.Owns f.store id := by
  rcases Option.map_eq_some_iff.mp called with ⟨call, present, rfl⟩
  exact ⟨rfl, List.mem_map_of_mem (List.mem_of_getElem? present)⟩

/-- What a definition adds to a session: a formula with the next store, whose bindings are to formulas that
are there already. -/
theorem define?_eq_some {expression : Expr} {draft : FormulaDraft} {defined : Session}
    (done : session.define? expression draft = some defined) :
    ∃ f : Formula, f.store = ⟨session.formulas.length⟩ ∧ f.expression = expression ∧
      f.options = draft.options ∧
      f.functionHandlers = handlers session.formulas.length "f" draft.functionScripts ∧
      f.inner ⊆ session.all ∧
      defined = ⟨session.formulas ++ [f], (session.world.setStore ⟨session.formulas.length⟩
        (Store.ofSeed draft.options.randomSeed)).host ⟨session.formulas.length⟩⟩ := by
  rcases Option.bind_eq_some_iff.mp done with ⟨bound, complete, rest⟩
  cases rest
  have kept : bound.store = ⟨session.formulas.length⟩ ∧ bound.expression = expression ∧
      bound.options = draft.options ∧ bound.inner ⊆ session.all := by
    refine bindAll?_preserves (motive := fun g => g.store = _ ∧ g.expression = _ ∧ g.options = _ ∧
      g.inner ⊆ _) ?plain ?binds complete
    case plain => exact ⟨rfl, rfl, rfl, List.nil_subset _⟩
    case binds =>
      intro g name _ binding ⟨store, expression, options, inside⟩ found
      refine ⟨store, expression, options, List.Subset.trans (g.inner_bind_subset name binding) ?_⟩
      exact List.append_subset.mpr ⟨inside, innerOfBinding_subset_all found⟩
  refine ⟨_, ?store, ?expression, ?options, ?functionHandlers, ?inside, rfl⟩
  case store => exact kept.1
  case expression => exact kept.2.1
  case options => exact kept.2.2.1
  case functionHandlers => rfl
  case inside =>
    -- The handlers are added last, and they do not stand in the tree of bindings.
    rw [Formula.inner_eq_innerOfTable]
    exact bound.inner_eq_innerOfTable ▸ kept.2.2.2

/-- A formula in the place of another one brings in no others, if its bindings do not. -/
theorem mem_all_replace {index : Nat} (inside : g.inner ⊆ session.all)
    (member : f ∈ (session.replace index g).all) : f = g ∨ f ∈ session.all := by
  rcases mem_all.mp member with ⟨top, present, below⟩
  rcases List.mem_or_eq_of_mem_set present with before | rfl
  · exact .inr (mem_all.mpr ⟨top, before, below⟩)
  · exact (List.mem_cons.mp below).imp_right fun within => inside within

/-- A formula that is added brings in no others, if its bindings do not. -/
theorem mem_all_add {world : World} (inside : g.inner ⊆ session.all)
    (member : f ∈ all ⟨session.formulas ++ [g], world⟩) : f = g ∨ f ∈ session.all := by
  rcases mem_all.mp member with ⟨top, present, below⟩
  rcases List.mem_append.mp present with before | itself
  · exact .inr (mem_all.mpr ⟨top, before, below⟩)
  · rw [List.mem_singleton.mp itself] at below
    exact (List.mem_cons.mp below).imp_right fun within => inside within

end All

/-! ## Commands -/

/-- What a command on a formula can do to a session. -/
inductive Effect (session : Session) (index : Nat) (f : Formula) : Session → Prop
  | evaluates (clock : Clock) :
    Effect session index f
      { session with world := (f.evaluateTo depthLimit clock session.world).2 }
  | rebinds (bindings : Bindings) (inside : { f with bindings := bindings }.inner ⊆ session.all) :
    Effect session index f (session.replace index { f with bindings := bindings })
  | clones : Effect session index f ⟨session.formulas ++ [f], session.world.host f.store⟩
  | injects (id : NodeId) (v : Value) (own : f.Owns f.store id) :
    Effect session index f (session.modifyMemory f fun memory => memory.inject id v)
  | resets : Effect session index f (session.modifyMemory f NodeMemory.resetAll)
  | resetsCall (id : NodeId) :
    Effect session index f (session.modifyMemory f fun memory => memory.reset id)
  | flags (cancelled : Bool) : Effect session index f (session.setCancelled f cancelled)
  | nothing : Effect session index f session

theorem effect_of_perform? {session after : Session} {index : Nat} {command : Command} {reply : Reply}
    (done : session.perform? index command = some (reply, after)) :
    ∃ f, session.formulas[index]? = some f ∧ session.Effect index f after := by
  rcases Option.bind_eq_some_iff.mp done with ⟨f, found, rest⟩
  have known := mem_all_of_mem (List.mem_of_getElem? found)
  refine ⟨f, found, ?_⟩
  cases command with
  | evaluate clock =>
    cases rest
    exact .evaluates clock
  | bind name draft =>
    rcases Option.bind_eq_some_iff.mp rest with ⟨binding, bound, replaced⟩
    cases replaced
    refine .rebinds (f.bindings.insert name binding) ?_
    exact List.Subset.trans (f.inner_bind_subset name binding)
      (List.append_subset.mpr ⟨inner_subset_all known, innerOfBinding_subset_all bound⟩)
  | unbind name =>
    cases rest
    exact .rebinds (f.bindings.erase name)
      (List.Subset.trans (f.inner_unbind_subset name) (inner_subset_all known))
  | clone =>
    cases rest
    exact .clones
  | inject place v =>
    rcases Option.bind_eq_some_iff.mp rest with ⟨id, called, changed⟩
    cases changed
    exact .injects id v (owns_of_call? called)
  | reset =>
    cases rest
    exact .resets
  | resetCall place =>
    rcases Option.bind_eq_some_iff.mp rest with ⟨id, _, changed⟩
    cases changed
    exact .resetsCall id
  | cancel =>
    cases rest
    exact .flags true
  | clearCancel =>
    cases rest
    exact .flags false
  | lastValue place | externalValue place | memory place =>
    rcases Option.bind_eq_some_iff.mp rest with ⟨id, _, same⟩
    cases same
    exact .nothing
  | boundNames | callNames | find name | memorySize | isCancelled | options | handlers =>
    cases rest
    exact .nothing

end Session

end ClockedFormula
