import ClockedFormula.Proofs.Evaluation.Relocation
import ClockedFormula.Proofs.Table.Overlay
import ClockedFormula.Session.Operation

namespace ClockedFormula

open Walk

/-!
# Formulas that are reset

A host that resets a formula goes on as with a formula that it has just built.  Whatever was evaluated,
bound or fed in before, on the formula or on a clone, the replies to all later operations are those of new
formulas with the same expressions, options and bindings.  What a reset leaves of the memory are last
values, and entries of calls that have nothing else in them.  None of them is ever asked for.

The formulas are clones of one another, possibly with different bindings.  They have no handlers, bind names
to values, and draw no random numbers; a reset does not take random numbers back.

Two sessions go along with each other if their formulas are the same but for their stores, and their calls
remember the same but for last values.  Every operation gets the same reply in both, and they go along with
each other afterwards.
-/

namespace Bindings.OnlyValues

variable {bindings : Bindings}

theorem insert (onlyValues : bindings.OnlyValues) (name : String) (v : Value) :
    OnlyValues (Table.insert bindings name (.value v)) := by
  intro entry member
  rcases Table.mem_write member with before | itself
  · exact onlyValues entry before
  · exact ⟨v, by rw [itself]⟩

theorem erase (onlyValues : bindings.OnlyValues) (name : String) :
    OnlyValues (Table.erase bindings name) :=
  fun entry member => onlyValues entry (List.mem_filter.mp member).1

end Bindings.OnlyValues

/-- Whether a formula is another one but for its bindings, which bind names to values. -/
structure Formula.Clones (f g : Formula) : Prop where
  expression : g.expression = f.expression
  options : g.options = f.options
  identifierHandlers : g.identifierHandlers = f.identifierHandlers
  functionHandlers : g.functionHandlers = f.functionHandlers
  store : g.store = f.store
  onlyValues : Bindings.OnlyValues g.bindings

namespace Formula.Clones

variable {f g : Formula}

theorem bind (clones : f.Clones g) (name : String) (v : Value) :
    f.Clones (g.bind name (.value v)) :=
  { clones with onlyValues := clones.onlyValues.insert name v }

theorem unbind (clones : f.Clones g) (name : String) : f.Clones (g.unbind name) :=
  { clones with onlyValues := clones.onlyValues.erase name }

theorem plain (clones : f.Clones g) (unhandled : f.hasHandlers = false) : g.Plain := by
  refine .of_hasHandlers ?_ clones.onlyValues
  rw [hasHandlers, clones.identifierHandlers, clones.functionHandlers]
  exact unhandled

theorem drawsNothing (clones : f.Clones g) (drawsNothing : f.DrawsNothing) : g.DrawsNothing := by
  intro call member
  rw [clones.expression] at member
  rw [clones.options]
  exact drawsNothing call member

end Formula.Clones

namespace World.Echoes

variable {store other : StoreId} {first second : World}

theorem inject (echoes : Echoes store other first second) (id : NodeId) (v : Value) :
    Echoes store other (first.modifyMemory store fun memory => memory.inject id v)
      (second.modifyMemory other fun memory => memory.inject id v) :=
  echoes.setNode ((echoes id).inject (some v)) id

theorem node_modifyMemory (world : World) (store : StoreId) (change : NodeMemory → NodeMemory)
    (id : NodeId) :
    (world.modifyMemory store change).node store id = (change (world.store store).memory).state id := by
  rw [World.node, World.modifyMemory, store_modifyStore_self]

theorem resetCall (echoes : Echoes store other first second) (id : NodeId) :
    Echoes store other (first.modifyMemory store fun memory => memory.reset id)
      (second.modifyMemory other fun memory => memory.reset id) := by
  intro call
  rw [node_modifyMemory, node_modifyMemory]
  by_cases itself : call = id
  · subst itself
    rw [NodeMemory.state_reset_self, NodeMemory.state_reset_self]
    exact .reset True _ _
  · rw [NodeMemory.state_reset_of_ne _ itself, NodeMemory.state_reset_of_ne _ itself]
    exact echoes call

theorem resetAll (store other : StoreId) (first second : World) :
    Echoes store other (first.modifyMemory store NodeMemory.resetAll)
      (second.modifyMemory other NodeMemory.resetAll) := by
  intro call
  rw [node_modifyMemory, node_modifyMemory, NodeMemory.state_resetAll, NodeMemory.state_resetAll]
  exact .reset True _ _

/-- All calls that are reset are as in an empty memory. -/
theorem resetAll_empty (store : StoreId) (first : World)
    (empty : (second.store other).memory = .empty) :
    Echoes store other (first.modifyMemory store NodeMemory.resetAll) second := by
  intro call
  rw [node_modifyMemory, NodeMemory.state_resetAll, World.node, empty]
  -- The memory of a call without an entry is one that is reset.
  exact NodeState.Agree.reset True ((first.store store).memory.state call) .blank

end World.Echoes

namespace Session

/-- Whether two sessions go along with each other: the formulas of both are clones of one formula, in stores
of their own. -/
structure Mirrors (f : Formula) (store : StoreId) (session twin : Session) : Prop where
  formulas : twin.formulas = session.formulas.map fun g => g.inStore store
  clones : ∀ g ∈ session.formulas, f.Clones g
  echoes : World.Echoes f.store store session.world twin.world

namespace Mirrors

variable {f g : Formula} {store : StoreId} {session twin : Session} {index : Nat}

theorem found (mirrors : Mirrors f store session twin) (found : session.formulas[index]? = some g) :
    twin.formulas[index]? = some (g.inStore store) := by
  rw [mirrors.formulas, List.getElem?_map, found]
  rfl

/-- The same formula is replaced in both sessions. -/
theorem replace (mirrors : Mirrors f store session twin) (clones : f.Clones g) :
    Mirrors f store (session.replace index g) (twin.replace index (g.inStore store)) where
  formulas := by
    rw [Session.replace, Session.replace, mirrors.formulas, List.map_set]
  clones h member := by
    rcases List.mem_or_eq_of_mem_set member with before | itself
    · exact mirrors.clones h before
    · rw [itself]
      exact clones
  echoes := mirrors.echoes

/-- The memory of the calls is changed in both sessions. -/
theorem modifyMemory (mirrors : Mirrors f store session twin) (clones : f.Clones g)
    {change : NodeMemory → NodeMemory}
    (echoes : World.Echoes f.store store (session.world.modifyMemory f.store change)
      (twin.world.modifyMemory store change)) :
    Mirrors f store (session.modifyMemory g change) (twin.modifyMemory (g.inStore store) change) where
  formulas := mirrors.formulas
  clones := mirrors.clones
  echoes := by
    rw [Session.modifyMemory, clones.store]
    exact echoes

/-- An operation gets the same reply in both sessions, and they go along with each other again. -/
theorem operate (mirrors : Mirrors f store session twin) (unhandled : f.hasHandlers = false)
    (drawsNothing : f.DrawsNothing) (found : session.formulas[index]? = some g)
    (operation : FormulaOperation) :
    ∃ reply after last, session.operate? index operation = some (reply, after) ∧
      twin.operate? index operation = some (reply, last) ∧ Mirrors f store after last := by
  have clones : f.Clones g := mirrors.clones g (List.mem_of_getElem? found)
  have also := mirrors.found found
  cases operation with
  | evaluate clock =>
    have echoes := mirrors.echoes
    rw [← clones.store] at echoes
    rcases Formula.evaluateAt_inStore (clones.plain unhandled) (clones.drawsNothing drawsNothing)
      clock echoes with ⟨outcome, after⟩
    rw [operate?_evaluate found, operate?_evaluate also, ← outcome]
    exact ⟨_, _, _, rfl, rfl, mirrors.formulas, mirrors.clones, clones.store ▸ after⟩
  | bind name v =>
    rw [operate?_bind found, operate?_bind also]
    exact ⟨_, _, _, rfl, rfl, mirrors.replace (clones.bind name v)⟩
  | unbind name =>
    rw [operate?_unbind found, operate?_unbind also]
    exact ⟨_, _, _, rfl, rfl, mirrors.replace (clones.unbind name)⟩
  | clone =>
    have size : twin.formulas.length = session.formulas.length := by
      rw [mirrors.formulas, List.length_map]
    rw [operate?_clone found, operate?_clone also, size]
    refine ⟨_, _, _, rfl, rfl, ?_, ?_, mirrors.echoes⟩
    · rw [mirrors.formulas, List.map_append, List.map_singleton]
    · intro h member
      rcases List.mem_append.mp member with before | itself
      · exact mirrors.clones h before
      · rw [List.mem_singleton.mp itself]
        exact clones
  | inject id v =>
    rw [operate?_inject found, operate?_inject also]
    exact ⟨_, _, _, rfl, rfl, mirrors.modifyMemory clones (mirrors.echoes.inject id v)⟩
  | resetCall id =>
    rw [operate?_resetCall found, operate?_resetCall also]
    exact ⟨_, _, _, rfl, rfl, mirrors.modifyMemory clones (mirrors.echoes.resetCall id)⟩
  | reset =>
    rw [operate?_reset found, operate?_reset also]
    exact ⟨_, _, _, rfl, rfl, mirrors.modifyMemory clones (.resetAll _ _ _ _)⟩
  | externalValue id =>
    have shown : ((twin.memoryOf (g.inStore store)).state id).external =
        ((session.memoryOf g).state id).external := by
      rw [memoryOf, memoryOf, clones.store]
      exact ((mirrors.echoes id).external trivial).symm
    rw [operate?_externalValue found, operate?_externalValue also, shown]
    exact ⟨_, _, _, rfl, rfl, mirrors⟩

/-- Sessions that go along with each other give the same replies for ever. -/
theorem repliesTo (mirrors : Mirrors f store session twin) (unhandled : f.hasHandlers = false)
    (drawsNothing : f.DrawsNothing) (operations : List (Nat × FormulaOperation)) :
    session.repliesTo operations = twin.repliesTo operations := by
  induction operations generalizing session twin with
  | nil => rfl
  | cons entry rest ih =>
    rcases entry with ⟨index, operation⟩
    cases found : session.formulas[index]? with
    | none =>
      have also : twin.formulas[index]? = none := by
        rw [mirrors.formulas, List.getElem?_map, found]
        rfl
      rw [Session.repliesTo, Session.repliesTo, operate?_of_none found, operate?_of_none also]
      exact congrArg (none :: ·) (ih mirrors)
    | some g =>
      rcases mirrors.operate unhandled drawsNothing found operation with
        ⟨reply, after, last, here, there, again⟩
      rw [Session.repliesTo, Session.repliesTo, here, there]
      exact congrArg (some reply :: ·) (ih again)

end Mirrors

/-- After a reset, a session of clones replies to all operations as a session in which the formulas have
been built anew: with the same expressions, options and bindings, and with a store whose memory is still
empty. -/
theorem reset_renews {session : Session} {f : Formula} (clones : ∀ g ∈ session.formulas, f.Clones g)
    (unhandled : f.hasHandlers = false) (drawsNothing : f.DrawsNothing) {index : Nat}
    (present : index < session.formulas.length) {store : StoreId} {world : World}
    (empty : (world.store store).memory = .empty) (operations : List (Nat × FormulaOperation)) :
    ∃ after, session.operate? index .reset = some (.done, after) ∧
      after.repliesTo operations =
        repliesTo ⟨session.formulas.map fun g => g.inStore store, world⟩ operations := by
  have found : session.formulas[index]? = some session.formulas[index] :=
    List.getElem?_eq_getElem present
  have same := (clones _ (List.getElem_mem present)).store
  refine ⟨session.modifyMemory session.formulas[index] NodeMemory.resetAll,
    operate?_reset found, ?_⟩
  rw [Session.modifyMemory, same]
  have mirrors : Mirrors f store
      ⟨session.formulas, session.world.modifyMemory f.store NodeMemory.resetAll⟩
      ⟨session.formulas.map fun g => g.inStore store, world⟩ :=
    ⟨rfl, clones, .resetAll_empty f.store session.world empty⟩
  exact mirrors.repliesTo unhandled drawsNothing operations

/-! ## A formula that remembers its parameter -/

/-- The sum of a frozen parameter and of what the host feeds in. -/
def frozenSum (x : Int64) : Formula :=
  (Formula.ofExpr
    (.binary .plus (.call ⟨0⟩ "init" [.identifier "x"])
      (.call ⟨1⟩ "externalUpdate" [.literal (.integer 0)])) .default ⟨0⟩).bind "x"
    (.value (.integer x))

theorem frozenSum_clones (x : Int64) : (frozenSum 1).Clones (frozenSum x) := by
  refine ⟨rfl, rfl, rfl, rfl, rfl, fun entry member => ?_⟩
  rw [List.mem_singleton.mp member]
  exact ⟨_, rfl⟩

theorem frozenSum_drawsNothing : (frozenSum 1).DrawsNothing := by
  intro call member
  have only : (frozenSum 1).expression.calls = [(⟨0⟩, "init"), (⟨1⟩, "externalUpdate")] := rfl
  have frozen : Function.resolve "init" (frozenSum 1).options.ignoreCase =
      .ok (.temporal .init) := rfl
  have fed : Function.resolve "externalUpdate" (frozenSum 1).options.ignoreCase =
      .ok (.temporal .externalUpdate) := rfl
  rw [only] at member
  rcases List.mem_cons.mp member with rfl | later
  · rw [frozen]
    exact nofun
  · rw [List.mem_singleton.mp later, fed]
    exact nofun

/-- A clock that shows a step and nothing else. -/
def stepClock (step : UInt64) : Clock := ⟨none, some step, none⟩

/-- Two clones with different parameters, after the first one has been evaluated. -/
def usedSession : Session :=
  ⟨[frozenSum 1, frozenSum 2], ((frozenSum 1).evaluateAt (stepClock 1) World.empty).2⟩

/-- The second clone still finds the parameter of the first one.  After a reset it goes on as if it were
new, and so does the first one. -/
theorem usedSession_renews :
    ((frozenSum 2).evaluateAt (stepClock 3) usedSession.world).1.value? = some (.integer 1) ∧
      ((frozenSum 2).evaluateAt (stepClock 3) World.empty).1.value? = some (.integer 2) ∧
      ∃ after, usedSession.operate? 0 .reset = some (.done, after) ∧
        after.repliesTo [(1, .evaluate (stepClock 3)), (0, .inject ⟨1⟩ (.integer 5)),
            (0, .evaluate (stepClock 4)), (1, .externalValue ⟨1⟩)] =
          repliesTo ⟨[(frozenSum 1).inStore ⟨7⟩, (frozenSum 2).inStore ⟨7⟩], World.empty⟩
            [(1, .evaluate (stepClock 3)), (0, .inject ⟨1⟩ (.integer 5)),
              (0, .evaluate (stepClock 4)), (1, .externalValue ⟨1⟩)] := by
  have clones : ∀ g ∈ usedSession.formulas, (frozenSum 1).Clones g := by
    intro g member
    rcases List.mem_cons.mp member with rfl | later
    · exact frozenSum_clones 1
    · rw [List.mem_singleton.mp later]
      exact frozenSum_clones 2
  have present : 0 < usedSession.formulas.length := by decide
  have empty : (World.empty.store ⟨7⟩).memory = .empty := rfl
  exact ⟨by decide +kernel, by decide +kernel,
    reset_renews clones rfl frozenSum_drawsNothing present empty _⟩

end Session

end ClockedFormula
