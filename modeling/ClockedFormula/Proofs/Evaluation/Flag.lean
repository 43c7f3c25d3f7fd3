import ClockedFormula.Proofs.Evaluation.Occasion
import ClockedFormula.Proofs.Formula.Tree
import ClockedFormula.Proofs.Walk.Contract

namespace ClockedFormula

open Walk

/-!
# Flags that nobody sets

A built-in function changes the memory of its call, which is kept in a store together with a cancel flag, but
it leaves the flag as it is.  Handlers alone set flags, and an evaluation asks no handlers but those of its
formula and of the formulas inside it.  If none of them sets a flag, all flags are in the end what they were at
the beginning.

A handler that sets no flag may still ask for arguments, on the way to which other handlers are asked.
-/

/-! ## Handlers -/

/-- Whether a program comes to its end without setting a flag, whatever it is told on the way. -/
inductive Program.SetsNoFlag : Program → Prop
  | done : SetsNoFlag .done
  | fail (e : EvalError) : SetsNoFlag (.fail e)
  | claim (v : Value) {next : Program} (rest : SetsNoFlag next) : SetsNoFlag (.claim v next)
  | look {next : Option Value → Program} (rest : ∀ claimed, SetsNoFlag (next claimed)) :
    SetsNoFlag (.look next)
  | evaluate (position : Nat) {next : Attempt Value → Program} (rest : ∀ result, SetsNoFlag (next result)) :
    SetsNoFlag (.evaluate position next)
  | peek (store : StoreId) (node : NodeId) {next : Readouts → Program}
    (rest : ∀ shown, SetsNoFlag (next shown)) : SetsNoFlag (.peek store node next)
  | suspend {next : Program} (rest : SetsNoFlag next) : SetsNoFlag (.suspend next)
  | note (entry : Note) {next : Program} (rest : SetsNoFlag next) : SetsNoFlag (.note entry next)

/-- Whether a handler answers everything with programs that set no flag. -/
def Handler.SetsNoFlag (handler : Handler) : Prop := ∀ request, (handler.respond request).SetsNoFlag

/-- Whether a flag is set, or clear, as the case may be. -/
def World.HasFlag (id : StoreId) (flag : Bool) (world : World) : Prop := world.isCancelled id = flag

section Flags

variable {id : StoreId} {flag : Bool} {context : Context} {arguments : List Argument}

theorem answerAt_preserves (preserves : ∀ argument ∈ arguments, argument.value.Preserves (World.HasFlag id flag))
    (position : Nat) : (answerAt arguments position).Preserves (World.HasFlag id flag) := by
  unfold answerAt
  cases located : arguments[position]? with
  | none => exact (Preserves.sequential _).yields _
  | some argument =>
    intro world holds
    dsimp only
    rw [leaves_outcome]
    exact preserves argument (List.mem_of_getElem? located) world holds

/-- A program that sets no flag keeps those flags that its arguments keep. -/
theorem Program.SetsNoFlag.run_preserves {program : Program} (quiet : program.SetsNoFlag)
    (preserves : ∀ argument ∈ arguments, argument.value.Preserves (World.HasFlag id flag)) (root : StoreId)
    (claimed : Option Value) :
    (program.run root arguments claimed).Preserves (World.HasFlag id flag) := by
  have sequential := Preserves.sequential (World.HasFlag id flag)
  induction quiet generalizing claimed with
  | done => exact sequential.yields claimed
  | fail e => exact sequential.stops (.failed e)
  | claim v _ ih => exact ih (claimed.or (some v))
  | look _ ih => exact ih claimed claimed
  | evaluate position _ ih =>
    rw [Program.run_evaluate]
    exact (answerAt_preserves preserves position).bind fun result => ih result claimed
  | peek store node _ ih =>
    have shows : (Walk.readouts store node).Preserves (World.HasFlag id flag) := fun _ holds => holds
    exact shows.bind fun shown => ih shown claimed
  | suspend _ ih =>
    have checks : (Walk.isCancelled root).Preserves (World.HasFlag id flag) := fun _ holds => holds
    refine checks.bind fun cancelled => ?_
    cases cancelled with
    | true => exact sequential.stops .dropped
    | false => exact ih claimed
  | note entry _ ih =>
    have notes : (Walk.note entry).Preserves (World.HasFlag id flag) := fun _ holds => holds
    exact notes.bind fun _ => ih claimed

theorem consult_preserves {handlers : List Handler} (quiet : ∀ handler ∈ handlers, handler.SetsNoFlag)
    (preserves : ∀ argument ∈ arguments, argument.value.Preserves (World.HasFlag id flag)) (name : String) :
    (consult context handlers name arguments).Preserves (World.HasFlag id flag) := by
  have sequential := Preserves.sequential (World.HasFlag id flag)
  have asked : ∀ claimed,
      (consult.ask context name arguments handlers claimed).Preserves (World.HasFlag id flag) := by
    induction handlers with
    | nil => exact fun claimed => sequential.yields claimed
    | cons handler rest ih =>
      intro claimed
      have known := List.forall_mem_cons.mp quiet
      have checks : (Walk.isCancelled context.root).Preserves (World.HasFlag id flag) :=
        fun _ holds => holds
      have counts : (Walk.timesAsked handler.label).Preserves (World.HasFlag id flag) :=
        fun _ holds => holds
      have notes : (Walk.note (.asked handler.label name)).Preserves (World.HasFlag id flag) :=
        fun _ holds => holds
      rw [consult.ask_cons_eq]
      refine checks.bind fun cancelled => ?_
      cases cancelled with
      | true => exact sequential.stops (.failed .cancelled)
      | false =>
        exact counts.bind fun _ => notes.bind fun _ =>
          ((known.1 _).run_preserves preserves _ claimed).bind (ih known.2)
  exact asked none

/-! ## Calls -/

theorem setNode_hasFlag {world : World} (holds : world.HasFlag id flag) (store : StoreId) (node : NodeId)
    (state : NodeState) : (world.setNode store node state).HasFlag id flag := by
  rw [World.HasFlag, World.isCancelled_setNode]
  exact holds

/-- Calls keep flags, as far as the memory of the call is concerned. -/
theorem callFunction_preserves
    (preserves : ∀ argument ∈ arguments, argument.value.Preserves (World.HasFlag id flag)) (node : NodeId)
    (name : String) :
    (callFunction context node name arguments).Preserves (World.HasFlag id flag) := by
  rw [callFunction_eq_callOperands rfl]
  let operands := fun position : Fin arguments.length => (arguments.get position).value
  have asks : ∀ position, (operands position).Preserves (World.HasFlag id flag) :=
    fun position => preserves _ (List.get_mem arguments position)
  refine @Sequential.callOperands _ _ operands operands (Preserves.sequential _) asks context node name
    ?begins ?reads ?writes
  case begins =>
    intro world holds
    rw [leaves_ok (beginCall_eq context node world)]
    exact setNode_hasFlag holds _ _ _
  case reads => exact fun world holds => holds
  case writes =>
    intro workspace world holds
    rw [leaves_ok (Workspace.write_eq context.store node workspace world), World.HasFlag,
      World.isCancelled_setWorkspace]
    exact holds

theorem recordResult_preserves (store : StoreId) (node : NodeId) (v : Value) :
    (Walk.modifyMemory store fun memory => memory.recordResult node v).Preserves (World.HasFlag id flag) := by
  intro world holds
  rw [leaves_ok (recordResult_eq store node v world)]
  exact setNode_hasFlag holds _ _ _

/-! ## Expressions and formulas -/

theorem evaluate_preserves_flag {enter : Context → Formula → Walk Value}
    (quiet : ∀ handler ∈ context.identifierHandlers ++ context.functionHandlers, handler.SetsNoFlag)
    (enters : ∀ name f, context.find? name = some (.formula f) →
      (enter context f).Preserves (World.HasFlag id flag)) (e : Expr) :
    (evaluate enter context e).Preserves (World.HasFlag id flag) := by
  have sequential := Preserves.sequential (World.HasFlag id flag)
  refine sequential.evaluate ?names ?calls
  case names =>
    intro name
    refine Preserves.evaluateIdentifier (enters name) (consult_preserves ?_ ?_ _)
    · exact fun handler member => quiet handler (List.mem_append_left _ member)
    · exact fun argument member => absurd member List.not_mem_nil
  case calls =>
    intro application _ arguments
    have preserves : ∀ argument ∈ delay enter context application.arguments,
        argument.value.Preserves (World.HasFlag id flag) := by
      intro argument member
      rw [delay_eq_map] at member
      rcases List.mem_map.mp member with ⟨e, present, rfl⟩
      exact arguments e present
    refine Preserves.evaluateCall (consult_preserves ?_ preserves _)
      (callFunction_preserves preserves _ _) (recordResult_preserves _ _)
    exact fun handler member => quiet handler (List.mem_append_right _ member)

/-- However deep formulas are nested, a walk keeps all flags if no handler sets one. -/
theorem walk_preserves_flag (depth : Nat) (quiet : context.AllHandlers Handler.SetsNoFlag) (e : Expr) :
    (walk depth context e).Preserves (World.HasFlag id flag) := by
  induction depth generalizing context e with
  | zero => exact (Preserves.sequential _).stops .exhausted
  | succ depth ih =>
    exact evaluate_preserves_flag quiet.own (fun name f found => ih (quiet.enter found) f.expression) e

end Flags

/-- If no handler sets a flag, evaluating leaves all flags as they are. -/
theorem Formula.isCancelled_evaluateTo {f : Formula} (quiet : f.AllHandlers Handler.SetsNoFlag) (depth : Nat)
    (clock : Clock) (world : World) (id : StoreId) :
    (f.evaluateTo depth clock world).2.isCancelled id = world.isCancelled id := by
  rw [evaluateTo_snd]
  exact walk_preserves_flag depth (.ofFormula quiet clock) f.expression world rfl

end ClockedFormula
