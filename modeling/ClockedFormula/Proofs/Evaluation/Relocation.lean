import ClockedFormula.Proofs.Evaluation.Isolation
import ClockedFormula.Proofs.Function.Correspondence

namespace ClockedFormula

open Walk

/-!
# Formulas with their memory somewhere else

Where a formula keeps its memory does not matter to it.  If two formulas differ in nothing but their
stores, and the calls in both stores remember the same, then the formulas come to the same outcomes, and
their calls remember the same again.  Last values need not be the same for this.

The formulas are plain and draw no random numbers, since the random numbers of the two stores may differ.
-/

/-- A context with the memory somewhere else. -/
def Context.relocate (context : Context) (store : StoreId) : Context :=
  { context with store := store, root := store }

section Relocated

variable {shown : Prop} {related : World → World → Prop} {context : Context} {store : StoreId}
  {enter enterAlso : Context → Formula → Walk Value}

theorem Context.Plain.relocate (plain : context.Plain) (store : StoreId) :
    (context.relocate store).Plain :=
  ⟨plain.identifierHandlers, plain.functionHandlers, plain.onlyValues⟩

/-- A call without a handler runs in parallel to the same call in another store. -/
theorem evaluateCall_relocated (plain : context.Plain)
    (compares : World.Compares shown False context.store store related) {id : NodeId} {name : String}
    (steady : context.Steady name) {arguments : List Expr}
    (inside : ∀ e ∈ arguments,
      Parallel related (evaluate enter context e) (evaluate enterAlso (context.relocate store) e)) :
    Parallel related (evaluate enter context (.call id name arguments))
      (evaluate enterAlso (context.relocate store) (.call id name arguments)) := by
  have sequential := Parallel.sequential related
  have notes : ∀ v, Parallel related
      (Walk.modifyMemory context.store (fun memory => memory.recordResult id v) >>= fun _ => pure v)
      (Walk.modifyMemory store (fun memory => memory.recordResult id v) >>= fun _ => pure v) :=
    fun v => (recordResult_parallel compares id v).bind fun _ => sequential.yields v
  rw [evaluate, evaluate, evaluateCall, evaluateCall, plain.functionHandlers,
    (plain.relocate store).functionHandlers]
  apply Parallel.bind (sequential.yields none)
  intro claimed
  cases claimed with
  | some v => exact notes v
  | none =>
    apply Parallel.bind ?_ notes
    rw [callFunction_delay, callFunction_delay]
    have asks : ∀ position : Fin arguments.length, Parallel related
        (evaluate enter context (arguments.get position))
        (evaluate enterAlso (context.relocate store) (arguments.get position)) :=
      fun position => inside _ (List.get_mem arguments position)
    have moved : World.Compares shown False context.store (context.relocate store).store related :=
      compares
    exact callOperands_parallel moved rfl rfl steady asks id

/-- An evaluation runs in parallel to the same one in another store. -/
theorem evaluate_relocated (plain : context.Plain)
    (compares : World.Compares shown False context.store store related) (e : Expr)
    (steady : ∀ application ∈ e.applications, context.Steady application.name) :
    Parallel related (evaluate enter context e) (evaluate enterAlso (context.relocate store) e) := by
  have sequential := Parallel.sequential related
  induction e using Expr.induct_composed with
  | literal v => exact sequential.yields v
  | identifier name =>
    exact .of_conclude (evaluateIdentifier_plain plain name)
      (evaluateIdentifier_plain (plain.relocate store) name)
  | composed e count recipe parts composed ih =>
    rw [composed.evaluate_eq, composed.evaluate_eq]
    refine sequential.followPlain (fun position => ih position ?_) recipe
    exact fun application inside => steady application (composed.applications_subset position inside)
  | call id name arguments ih =>
    refine evaluateCall_relocated plain compares (steady ⟨id, name, arguments⟩ List.mem_cons_self) ?_
    intro e argument
    refine ih e argument fun application inside => steady application ?_
    exact List.mem_cons_of_mem _ (Expr.mem_applicationsOfAll.mpr ⟨e, argument, inside⟩)

end Relocated

/-- Whether the calls in a store of one world and in a store of another remember the same, but for their
last values. -/
def World.Echoes (store other : StoreId) (first second : World) : Prop :=
  ∀ id, (first.node store id).Agree True (second.node other id)

namespace World.Echoes

variable {store other : StoreId} {first second : World}

theorem setWorkspace (echoes : Echoes store other first second) {workspace also : Workspace}
    (agree : workspace.node.Agree True also.node) (id : NodeId) :
    Echoes store other (first.setWorkspace store id workspace)
      (second.setWorkspace other id also) := by
  intro call
  by_cases itself : call = id
  · subst itself
    rw [node_setWorkspace_self, node_setWorkspace_self]
    exact agree
  · rw [node_setWorkspace_of_ne _ _ itself, node_setWorkspace_of_ne _ _ itself]
    exact echoes call

theorem compares (store other : StoreId) :
    World.Compares True False store other (Echoes store other) where
  workspace echoes id := ⟨echoes id, False.elim⟩
  setWorkspace echoes agree id := echoes.setWorkspace agree.node id

theorem setNode (echoes : Echoes store other first second) {state also : NodeState}
    (agree : state.Agree True also) (id : NodeId) :
    Echoes store other (first.setNode store id state) (second.setNode other id also) :=
  (compares store other).setNode echoes id agree

end World.Echoes

namespace Formula

/-- A formula comes to the same outcome wherever its calls remember the same. -/
theorem evaluateAt_inStore {f : Formula} (plain : f.Plain) (drawsNothing : f.DrawsNothing)
    (clock : Clock) {store : StoreId} {first second : World}
    (echoes : World.Echoes f.store store first second) :
    (f.evaluateAt clock first).1 = ((f.inStore store).evaluateAt clock second).1 ∧
      World.Echoes f.store store (f.evaluateAt clock first).2
        ((f.inStore store).evaluateAt clock second).2 := by
  have parallel : Parallel (World.Echoes f.store store) (f.walkAt clock)
      ((f.inStore store).walkAt clock) :=
    evaluate_relocated (plain.context clock) (World.Echoes.compares f.store store) f.expression
      (drawsNothing.steady clock)
  exact evaluateTo_parallel parallel echoes

end Formula

end ClockedFormula
