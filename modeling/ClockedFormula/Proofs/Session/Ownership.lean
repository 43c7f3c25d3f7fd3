import ClockedFormula.Proofs.Session.Command

namespace ClockedFormula

/-!
# Memories and their formulas

Formulas of a session can have calls in common, since expressions can, and a formula can stand in the
bindings of others to any depth.  Still every memory belongs to one expression: formulas share a store only
if they are clones of one another, and then they have the same expression.  So the entries of a store are
calls of the formulas that keep their memory there, whatever has been done in the session before.

The invariant is `Owned`.  It is enough to look at what a step does to the formulas, those in bindings
included, and to the entries of their memories: a step that neither brings in formulas with other stores or
expressions nor makes entries for foreign calls keeps it.  Only a definition brings in a store, and this one
is new and empty.
-/

namespace Session

/-! ## The invariant -/

/-- Whether every memory of a session belongs to one expression, and has no entries but for its calls. -/
structure Owned (session : Session) : Prop where
  /-- The stores that come next are not in use. -/
  numbered : ∀ f ∈ session.all, f.store.number < session.formulas.length
  single : ∀ f ∈ session.all, ∀ g ∈ session.all, f.store = g.store → f.expression = g.expression
  entries : ∀ f ∈ session.all, ∀ id, (session.memoryOf f).Holds id → f.Owns f.store id

namespace Owned

variable {session : Session} {f : Formula}

theorem empty : Owned Session.empty :=
  ⟨fun _ => nofun, fun _ => nofun, fun _ => nofun⟩

/-- Entries that are new are those of calls of formulas of the session. -/
theorem onWorld (owned : session.Owned) {world : World}
    (grows : ∀ store id, (world.store store).memory.Holds id →
      (session.world.store store).memory.Holds id ∨ ∃ f ∈ session.all, f.Owns store id) :
    Owned { session with world := world } where
  numbered := owned.numbered
  single := owned.single
  entries g member id holds := by
    rcases grows g.store id holds with before | ⟨f, known, same, called⟩
    · exact owned.entries g member id before
    · refine ⟨rfl, ?_⟩
      rw [owned.single g member f known same.symm]
      exact called

/-- The entries of one memory change, and those that are new are of its calls. -/
theorem modifyMemory (owned : session.Owned) (known : f ∈ session.all)
    {change : NodeMemory → NodeMemory}
    (grows : ∀ memory id, (change memory).Holds id → memory.Holds id ∨ f.Owns f.store id) :
    (session.modifyMemory f change).Owned := by
  refine owned.onWorld fun store id holds => ?_
  by_cases itself : store = f.store
  · subst itself
    rw [World.modifyMemory, World.store_modifyStore_self] at holds
    rcases grows _ id holds with before | own
    · exact .inl before
    · exact .inr ⟨f, known, own⟩
  · rw [World.modifyMemory, World.store_modifyStore_of_ne _ itself] at holds
    exact .inl holds

theorem setCancelled (owned : session.Owned) (f : Formula) (cancelled : Bool) :
    (session.setCancelled f cancelled).Owned := by
  refine owned.onWorld fun store id holds => .inl ?_
  rw [(session.world.alike_setCancelled f.store store cancelled).memory]
  exact holds

/-- An evaluation makes entries for calls in the tree of bindings only. -/
theorem evaluateTo (owned : session.Owned) (known : f ∈ session.all) (depth : Nat) (clock : Clock) :
    Owned { session with world := (f.evaluateTo depth clock session.world).2 } := by
  refine owned.onWorld fun store id holds => ?_
  by_cases touched : f.Touches store id
  · rcases touched with ⟨g, member, own⟩
    exact .inr ⟨g, List.cons_subset.mpr ⟨known, inner_subset_all known⟩ member, own⟩
  · have same := (Formula.evaluateTo_changesOnly depth f clock session.world).entries store id touched
    rw [NodeMemory.Holds, same] at holds
    exact .inl holds

/-- The formulas change, but have no other stores and expressions than those before. -/
theorem onFormulas (owned : session.Owned) {formulas : List Formula}
    (longer : session.formulas.length ≤ formulas.length)
    (origin : ∀ g ∈ all { session with formulas := formulas },
      ∃ f ∈ session.all, g.store = f.store ∧ g.expression = f.expression) :
    Owned { session with formulas := formulas } where
  numbered g member := by
    rcases origin g member with ⟨f, before, store, _⟩
    rw [store]
    exact Nat.lt_of_lt_of_le (owned.numbered f before) longer
  single g member h also same := by
    rcases origin g member with ⟨f, before, store, expression⟩
    rcases origin h also with ⟨k, alsoBefore, alsoStore, alsoExpression⟩
    rw [expression, alsoExpression]
    exact owned.single f before k alsoBefore (store.symm.trans (same.trans alsoStore))
  entries g member id holds := by
    rcases origin g member with ⟨f, before, store, expression⟩
    rw [memoryOf, store] at holds
    refine ⟨rfl, ?_⟩
    rw [expression]
    exact (owned.entries f before id holds).2

/-- A formula of the session gets other handlers, or other bindings to formulas of the session. -/
theorem replace (owned : session.Owned) (known : f ∈ session.all) (index : Nat) {g : Formula}
    (store : g.store = f.store) (expression : g.expression = f.expression)
    (inside : g.inner ⊆ session.all) : (session.replace index g).Owned := by
  refine owned.onFormulas (Nat.le_of_eq List.length_set.symm) fun h member => ?_
  rcases mem_all_replace inside member with rfl | before
  · exact ⟨f, known, store, expression⟩
  · exact ⟨h, before, rfl, rfl⟩

/-- A clone keeps its memory with the formula. -/
theorem clone (owned : session.Owned) (known : f ∈ session.all) :
    Owned ⟨session.formulas ++ [f], session.world.host f.store⟩ := by
  have cloned : Owned { session with formulas := session.formulas ++ [f] } := by
    refine owned.onFormulas (by simp) fun g member => ⟨g, ?_, rfl, rfl⟩
    rcases mem_all_add (inner_subset_all known) member with rfl | before
    · exact known
    · exact before
  exact cloned.onWorld fun _ _ holds => .inl holds

/-- The memory of a formula that is defined is new and empty. -/
theorem define (owned : session.Owned) {expression : Expr} {draft : FormulaDraft} {defined : Session}
    (done : session.define? expression draft = some defined) : defined.Owned := by
  rcases define?_eq_some done with ⟨f, store, _, _, _, inside, rfl⟩
  have origin : ∀ {g world}, g ∈ all ⟨session.formulas ++ [f], world⟩ → g = f ∨ g ∈ session.all :=
    mem_all_add inside
  have apart : ∀ g ∈ session.all, g.store ≠ f.store := by
    intro g member same
    have below := owned.numbered g member
    rw [same, store] at below
    exact Nat.lt_irrefl _ below
  constructor
  · intro g member
    have longer : session.formulas.length < (session.formulas ++ [f]).length := by simp
    rcases origin member with rfl | before
    · rw [store]
      exact longer
    · exact Nat.lt_trans (owned.numbered g before) longer
  · intro g member h also same
    rcases origin member with rfl | before <;> rcases origin also with rfl | alsoBefore
    · rfl
    · exact absurd same.symm (apart h alsoBefore)
    · exact absurd same (apart g before)
    · exact owned.single g before h alsoBefore same
  · intro g member id holds
    rw [memoryOf, World.store_host] at holds
    rcases origin member with rfl | before
    · rw [store, World.store_setStore_self] at holds
      cases holds
    · rw [World.store_setStore_of_ne _ (store ▸ apart g before)] at holds
      exact owned.entries g before id holds

/-- A command makes no entries but for calls of the formula that it is meant for, or of those in its tree of
bindings. -/
theorem perform (owned : session.Owned) {index : Nat} {command : Command} {reply : Reply}
    {after : Session} (done : session.perform? index command = some (reply, after)) :
    after.Owned := by
  rcases effect_of_perform? done with ⟨f, found, effect⟩
  have known := mem_all_of_mem (List.mem_of_getElem? found)
  cases effect with
  | evaluates clock => exact owned.evaluateTo known depthLimit clock
  | rebinds bindings inside => exact owned.replace known index rfl rfl inside
  | clones => exact owned.clone known
  | injects id v own =>
    refine owned.modifyMemory known fun memory other holds => ?_
    rcases NodeMemory.holds_setState holds with rfl | before
    · exact .inr own
    · exact .inl before
  | resets =>
    exact owned.modifyMemory known fun _ _ holds => .inl (NodeMemory.holds_resetAll.mp holds)
  | resetsCall id =>
    exact owned.modifyMemory known fun _ _ holds => .inl (NodeMemory.holds_reset holds)
  | flags cancelled => exact owned.setCancelled f cancelled
  | nothing => exact owned

end Owned

/-! ## What a host can do -/

/-- Whether a host can bring about a session: it defines formulas over any expressions, gives them handlers,
evaluates them to any depth, resets any calls and carries out commands, in any order. -/
inductive Arises : Session → Prop where
  | empty : Arises empty
  | define {session defined : Session} {expression : Expr} {draft : FormulaDraft} :
      Arises session → session.define? expression draft = some defined → Arises defined
  | handle {session : Session} {index : Nat} {f : Formula}
      (identifierHandlers functionHandlers : List Handler) :
      Arises session → session.formulas[index]? = some f →
        Arises (session.replace index
          { f with identifierHandlers := identifierHandlers, functionHandlers := functionHandlers })
  | evaluate {session : Session} {f : Formula} (depth : Nat) (clock : Clock) :
      Arises session → f ∈ session.all →
        Arises { session with world := (f.evaluateTo depth clock session.world).2 }
  | resetCall {session : Session} {f : Formula} (id : NodeId) :
      Arises session → f ∈ session.all →
        Arises (session.modifyMemory f fun memory => memory.reset id)
  | perform {session after : Session} {index : Nat} {command : Command} {reply : Reply} :
      Arises session → session.perform? index command = some (reply, after) → Arises after
  | collectNotes {session : Session} : Arises session → Arises session.collectNotes.2

/-- Every memory belongs to one expression, whatever a host does. -/
theorem Arises.owned {session : Session} (arises : session.Arises) : session.Owned := by
  induction arises with
  | empty => exact .empty
  | define _ done owned => exact owned.define done
  | @handle session index f identifierHandlers functionHandlers _ found owned =>
    have known := mem_all_of_mem (List.mem_of_getElem? found)
    refine owned.replace known index rfl rfl ?_
    rw [Formula.inner_eq_innerOfTable]
    exact f.inner_eq_innerOfTable ▸ inner_subset_all known
  | evaluate depth clock _ known owned => exact owned.evaluateTo known depth clock
  | resetCall id _ known owned =>
    exact owned.modifyMemory known fun _ _ holds => .inl (NodeMemory.holds_reset holds)
  | perform _ done owned => exact owned.perform done
  | collectNotes _ owned => exact owned.onWorld fun _ _ holds => .inl holds

/-- The sessions that a host starts are among them. -/
theorem arises_of_defineAll {known : List (String × Expr)} {drafts : List FormulaDraft}
    {session defined : Session} {first next : Nat} (arises : session.Arises)
    (done : defineAll known session drafts first = some (defined, next)) : defined.Arises := by
  induction drafts generalizing session first with
  | nil =>
    cases done
    exact arises
  | cons draft rest ih =>
    rcases defineAll_cons_eq_some done with ⟨expression, middle, extended, _, adding, remaining⟩
    exact ih (.define arises adding) remaining

theorem arises_of_start? {shared : List (String × Draft)} {drafts : List FormulaDraft}
    {session : Session} (started : start? shared drafts = some session) : session.Arises := by
  rcases Option.map_eq_some_iff.mp started with ⟨⟨started, last⟩, numbered, rfl⟩
  rcases Numbering.bind_eq_some numbered with ⟨known, first, _, defined⟩
  exact arises_of_defineAll .empty defined

/-- The memory of a call stays with the formula in which the call stands.  All entries in the memory of a
formula are calls of this formula, and an evaluation of a formula changes no stores but its own and those of
the formulas in its tree of bindings, whatever calls other formulas share with them. -/
theorem memory_stays_with_formula {session : Session} (arises : session.Arises) :
    (∀ f ∈ session.all, ∀ id, ((session.memoryOf f).get? id).isSome →
      id ∈ f.expression.calls.map Prod.fst) ∧
    ∀ f ∈ session.all, ∀ depth clock store, (∀ g ∈ f :: f.inner, g.store ≠ store) →
      (session.world.store store).Alike ((f.evaluateTo depth clock session.world).2.store store) := by
  refine ⟨fun f member id holds => ?_, fun f _ depth clock store others => ?_⟩
  · exact (arises.owned.entries f member id holds).2
  · exact f.evaluateTo_alike_of_ne depth clock session.world others

/-! ## A call that stands in three formulas -/

/-- The call that they have in common: it freezes the value of a parameter. -/
def level : Draft := .call "init" [.identifier "x"]

/-- Drafts of the formulas; the first one is bound in the second. -/
def levelDrafts : List FormulaDraft :=
  [⟨.shared "level", .default, [("x", .value (.integer 1))], [], []⟩,
    ⟨.binary .plus (.shared "level") (.identifier "inside"), .default,
      [("x", .value (.integer 2)), ("inside", .formula 0)], [], []⟩,
    ⟨.shared "level", .default, [("x", .value (.integer 3))], [], []⟩]

/-- The session of these formulas. -/
def levels : Session := (start? [("level", level)] levelDrafts).getD empty

/-- The formula that freezes a value in a store. -/
def frozenLevel (store : Nat) (x : Int64) : Formula :=
  (Formula.ofExpr (.call ⟨0⟩ "init" [.identifier "x"]) .default ⟨store⟩).bind "x"
    (.value (.integer x))

/-- The formula in which the first one is bound. -/
def twoLevels : Formula :=
  ((Formula.ofExpr
    (.binary .plus (.call ⟨0⟩ "init" [.identifier "x"]) (.identifier "inside")) .default ⟨1⟩).bind "x"
      (.value (.integer 2))).bind "inside" (.formula (frozenLevel 0 1))

theorem levels_started : start? [("level", level)] levelDrafts = some levels := rfl

theorem levels_formulas : levels.formulas = [frozenLevel 0 1, twoLevels, frozenLevel 2 3] := rfl

/-- An evaluation of the second formula freezes a value in its own memory and in that of the first one.  The
third formula remembers nothing of it, though its call is the same. -/
theorem levels_keep_memories :
    let after : Session := { levels with world := (twoLevels.evaluateTo 2 .blank levels.world).2 }
    after.world.node ⟨1⟩ ⟨0⟩ = { NodeState.blank with
      lastValue := some (.integer 2), temporal := .frozen (.integer 2) } ∧
    after.world.node ⟨0⟩ ⟨0⟩ = after.world.node ⟨1⟩ ⟨0⟩ ∧
    (∀ f ∈ after.all, ∀ id, ((after.memoryOf f).get? id).isSome →
      id ∈ f.expression.calls.map Prod.fst) ∧
    (levels.world.store ⟨2⟩).Alike (after.world.store ⟨2⟩) := by
  intro after
  have arises : levels.Arises := arises_of_start? levels_started
  have known : twoLevels ∈ levels.all := by
    refine mem_all_of_mem ?_
    rw [levels_formulas]
    exact List.mem_cons_of_mem _ List.mem_cons_self
  have others : ∀ g ∈ twoLevels :: twoLevels.inner, g.store ≠ ⟨2⟩ := by
    have tree : twoLevels.inner = [frozenLevel 0 1] := rfl
    rw [tree]
    intro g member
    rcases List.mem_cons.mp member with rfl | inside
    · decide
    · rw [List.mem_singleton.mp inside]
      decide
  refine ⟨by decide +kernel, by decide +kernel, ?entries, ?stores⟩
  case entries => exact (memory_stays_with_formula (arises.evaluate 2 .blank known)).1
  case stores => exact (memory_stays_with_formula arises).2 twoLevels known 2 .blank ⟨2⟩ others

end Session

end ClockedFormula
