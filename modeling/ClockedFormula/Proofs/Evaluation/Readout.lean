import ClockedFormula.Proofs.Evaluation.Cancellation
import ClockedFormula.Proofs.Formula.Tree
import ClockedFormula.Proofs.Function.Correspondence

namespace ClockedFormula

open Walk

/-!
# What is only shown to the host

Every call keeps its last value, and some calls show a value to the host.  A host may look at both, but
expressions and built-in functions do not.  Nor does it matter to them which calls have an entry in the
memory of their formula, as long as there is nothing else in it.

Handlers can look.  The context of an argument gives them the formulas that are bound there, and these show
what their calls came to.  So it depends on the handlers whether worlds that differ in nothing else come to
the same: a handler that claims what it has seen tells them apart.  If the handlers of a formula and of all
formulas inside it do nothing that depends on what they see there, the outcomes are the same, by the same
steps of the same handlers, and the worlds differ in nothing else afterwards.

Cancel flags and random numbers are kept beside the memories of the calls, and have to be the same as well.
-/

/-- Whether two worlds are the same but for what calls show to the host. -/
structure World.CarriesAlike (first second : World) : Prop where
  nodes : ∀ store id, (first.node store id).carried = (second.node store id).carried
  random : ∀ store, first.random store = second.random store
  cancelled : ∀ store, first.isCancelled store = second.isCancelled store
  hosted : first.hosted = second.hosted
  journal : first.journal = second.journal

namespace World.CarriesAlike

variable {first second : World}

theorem iff_alongside : first.CarriesAlike second ↔
    World.Alongside (fun _ _ one other => one.carried = other.carried) first second :=
  ⟨fun alike => ⟨alike.nodes, alike.random, alike.cancelled, alike.hosted, alike.journal⟩,
    fun alongside => ⟨alongside.nodes, alongside.random, alongside.cancelled, alongside.hosted,
      alongside.journal⟩⟩

/-- A call replaces its memory in both worlds, by what it cannot tell apart. -/
theorem setWorkspace (alike : first.CarriesAlike second) (store : StoreId) (id : NodeId)
    {workspace also : Workspace} (node : workspace.node.carried = also.node.carried)
    (random : workspace.random = also.random) :
    (first.setWorkspace store id workspace).CarriesAlike (second.setWorkspace store id also) :=
  iff_alongside.mpr ((iff_alongside.mp alike).setWorkspace store id node random)

/-- It makes no difference what a call shows, nor whether it has an entry for that. -/
theorem of_shown (world : World) (store : StoreId) (id : NodeId) (lastValue external : Option Value) :
    world.CarriesAlike (world.setNode store id
      { world.node store id with lastValue := lastValue, external := external }) := by
  refine iff_alongside.mpr (.of_setNode ?_ world ?_)
  · exact fun _ _ _ => rfl
  · rfl

/-- The memories of every store are compared with one another, random numbers included. -/
theorem compares (store : StoreId) : World.Compares False True store store CarriesAlike where
  workspace alike id := ⟨.of_carried (alike.nodes store id), fun _ => alike.random store⟩
  setWorkspace alike agree id := alike.setWorkspace store id agree.node.carried (agree.random trivial)

end World.CarriesAlike

/-- No built-in function looks at what is only shown to the host. -/
theorem Walk.carriesAlike_calling : Calling (Parallel World.CarriesAlike) where
  toSequential := Parallel.sequential _
  calls asks context id _ :=
    callOperands_parallel (World.CarriesAlike.compares context.store) rfl rfl (fun _ => trivial) asks id
  records store := recordResult_parallel (World.CarriesAlike.compares store)

/-- Handlers are asked the same, and what they do besides looking is the same. -/
theorem Walk.carriesAlike_asking (root : StoreId) : Asking root (Parallel World.CarriesAlike) := by
  have same : World.CarriesAlike =
      World.Alongside (fun _ _ one other => one.carried = other.carried) := by
    funext first second
    exact propext World.CarriesAlike.iff_alongside
  rw [same]
  exact World.Alongside.asking root

/-- However deep formulas are nested, a walk overlooks what is shown if all handlers do. -/
theorem walk_carriesAlike {context : Context} (overlook : context.AllHandlers Handler.OverlooksReadouts)
    (depth : Nat) (e : Expr) :
    Parallel World.CarriesAlike (walk depth context e) (walk depth context e) := by
  induction depth generalizing context e with
  | zero => exact carriesAlike_calling.stops .exhausted
  | succ depth ih =>
    refine (carriesAlike_asking context.root).evaluate carriesAlike_calling (Parallel.catches _)
      (.inr overlook.own) ?_ e
    exact fun name f found => ih (overlook.enter found) f.expression

namespace Formula

/-- What handlers are asked and what they note is told by the journal, as far as it grows. -/
theorem notes_eq_of_journal {f : Formula} {depth : Nat} {clock : Clock} {first second : World}
    (before : first.journal = second.journal)
    (after : (f.evaluateTo depth clock first).2.journal =
      (f.evaluateTo depth clock second).2.journal) :
    ((f.eventsTo depth clock first).filterMap fun event => event.happening.note?) =
      (f.eventsTo depth clock second).filterMap fun event => event.happening.note? := by
  rw [evaluateTo_journaled, evaluateTo_journaled, before] at after
  exact List.append_cancel_left after

/-- If no handler goes by what calls show, evaluations in worlds that differ in nothing else come to the same
outcome.  Handlers are asked about the same names in the same order and note the same, and afterwards the
worlds again differ in nothing else. -/
theorem evaluateTo_ignores_readouts {f : Formula} (overlook : f.AllHandlers Handler.OverlooksReadouts)
    {first second : World} (alike : first.CarriesAlike second) (depth : Nat) (clock : Clock) :
    (f.evaluateTo depth clock first).1 = (f.evaluateTo depth clock second).1 ∧
      ((f.eventsTo depth clock first).filterMap fun event => event.happening.note?) =
        ((f.eventsTo depth clock second).filterMap fun event => event.happening.note?) ∧
      (f.evaluateTo depth clock first).2.CarriesAlike (f.evaluateTo depth clock second).2 := by
  have parallel := walk_carriesAlike (.ofFormula overlook clock) depth f.expression
  rcases evaluateTo_parallel parallel alike with ⟨outcome, after⟩
  exact ⟨outcome, notes_eq_of_journal alike.journal after.journal, after⟩

/-- A handler that claims what its argument comes to. -/
def passing : Handler :=
  ⟨"passing", fun _ => .evaluate 0 fun
    | .ok v => .claim v .done
    | .error e => .fail e⟩

theorem passing_overlooksReadouts : passing.OverlooksReadouts := by
  intro request result
  cases result <;> exact trivial

/-- A constant that a handler passes on. -/
def gauge : Formula :=
  { Formula.ofExpr (.call ⟨0⟩ "pass" [.call ⟨1⟩ "value" [.literal (.integer 3)]]) .default ⟨0⟩ with
    functionHandlers := [passing] }

/-- A display of the constant. -/
def display : Formula :=
  (Formula.ofExpr (.call ⟨0⟩ "externalUpdate" [.identifier "gauge"]) .default ⟨1⟩).bind "gauge"
    (.formula gauge)

theorem display_overlooksReadouts : display.AllHandlers Handler.OverlooksReadouts := by
  have inside : display.inner = [gauge] := rfl
  rw [AllHandlers, inside]
  refine List.forall_mem_cons.mpr ⟨fun handler member => absurd member List.not_mem_nil, ?_⟩
  exact List.forall_mem_singleton.mpr (List.forall_mem_singleton.mpr passing_overlooksReadouts)

/-- A world in which the display still shows another value. -/
def staleWorld : World :=
  World.empty.setNode ⟨1⟩ ⟨0⟩
    { World.empty.node ⟨1⟩ ⟨0⟩ with lastValue := some (.integer 7), external := some (.integer 8) }

theorem staleWorld_carriesAlike : World.empty.CarriesAlike staleWorld := .of_shown _ _ _ _ _

/-- The display shows something else at first, but comes to the same value by the same handler. -/
theorem display_ignores_stale_value :
    display.AllHandlers Handler.OverlooksReadouts ∧ World.empty.CarriesAlike staleWorld ∧
      (display.evaluateAt .blank World.empty).1 = (display.evaluateAt .blank staleWorld).1 ∧
      (display.evaluateAt .blank staleWorld).1.value? = some (.integer 3) ∧
      (display.evaluateAt .blank World.empty).2.CarriesAlike
        (display.evaluateAt .blank staleWorld).2 := by
  rcases evaluateTo_ignores_readouts display_overlooksReadouts staleWorld_carriesAlike depthLimit .blank
    with ⟨outcome, _, after⟩
  exact ⟨display_overlooksReadouts, staleWorld_carriesAlike, outcome, by decide +kernel, after⟩

/-- A handler that claims what the display shows, if one is bound. -/
def reporting : Handler where
  label := "reporting"
  respond request :=
    match request.arguments with
    | [] => .done
    | view :: _ =>
      match view.context.find? "display" with
      | some (.formula ⟨.call id _ _, _, _, store⟩) =>
        .peek store id fun shown => .claim (shown.external.getD .null) .done
      | _ => .done

/-- A report on the display. -/
def report : Formula :=
  ({ Formula.ofExpr (.call ⟨0⟩ "report" [.literal .null]) .default ⟨2⟩ with
    functionHandlers := [reporting] }).bind "display" (.formula display)

/-- A world in which the report is cancelled. -/
def cancelledWorld : World := World.empty.setCancelled ⟨2⟩ true

/-- The report tells worlds apart that differ in what the display shows only.  It also tells worlds apart
that hold the same memories, if it is cancelled in one of them. -/
theorem report_depends_on_readouts_and_flag :
    (World.empty.CarriesAlike staleWorld ∧
      (report.evaluateAt .blank World.empty).1 ≠ (report.evaluateAt .blank staleWorld).1) ∧
    (∀ store id, (World.empty.node store id).carried = (cancelledWorld.node store id).carried) ∧
      (report.evaluateAt .blank World.empty).1 ≠ (report.evaluateAt .blank cancelledWorld).1 := by
  have first : (report.evaluateAt .blank World.empty).1.value? = some .null := by decide +kernel
  have stale : (report.evaluateAt .blank staleWorld).1.value? = some (.integer 8) := by decide +kernel
  have cancelled : (report.evaluateAt .blank cancelledWorld).1.value? = none := by decide +kernel
  refine ⟨⟨.of_shown _ _ _ _ _, fun same => ?_⟩, fun store id => ?_, fun same => ?_⟩
  · rw [same, stale] at first
    cases first
  · unfold World.node
    rw [(World.alike_setCancelled World.empty ⟨2⟩ store true).memory]
    rfl
  · rw [same, cancelled] at first
    cases first

end Formula

end ClockedFormula
