import ClockedFormula.Proofs.Evaluation.Turn
import ClockedFormula.Proofs.Function.Retention

namespace ClockedFormula

open Formula (Sharing)
open Walk

/-!
# Accounts of a memory

A call of a function of one argument changes its memory at its own beginnings and ends only, and a host
changes it when it feeds or resets the call.  So the turns of the call, in the order in which they come, give
an account of the memory: whatever is a function of them and is right about each single turn is right about
all walks and all histories.

The same call can begin again while its argument is evaluated.  An account takes the inner beginning and end
like any others; this is why it goes by turns and not by calls.
-/

/-- A call of a function of one argument, and where it keeps its memory. -/
structure SingleCall where
  store : StoreId
  options : Options
  id : NodeId
  name : String
  argument : Expr
  function : TemporalFunction
  resolved : Function.resolve name options.ignoreCase = .ok (.temporal function)
  single : (function.recipe? 1).isSome = true

def SingleCall.application (node : SingleCall) : Application := ⟨node.id, node.name, [node.argument]⟩

/-- Whether a call is one of a formula. -/
structure Formula.Has (f : Formula) (node : SingleCall) : Prop where
  store : f.store = node.store
  options : f.options = node.options
  member : node.application ∈ f.expression.applications

/-- A call of a formula is one of every formula with the same store. -/
theorem Formula.Has.of_sharing {all : List Formula} {unclaimed : StoreId → Prop}
    (sharing : Sharing all unclaimed) {f g : Formula} (known : f ∈ all) {node : SingleCall}
    (has : f.Has node) (also : g ∈ all) (same : g.store = node.store) : g.Has node := by
  rcases sharing.single g also f known (same.trans has.store.symm) with ⟨expression, options⟩
  exact ⟨same, options.trans has.options, expression ▸ has.member⟩

namespace Moment

/-- The memory with which a call begins, once it is registered at the clock. -/
def begun (call : Moment) : NodeState :=
  ((call.world.node call.context.store call.id).beginCall call.context.clock.step
    call.context.options.resetOnNewRun).2

/-- The world in which a call is registered. -/
def registered (call : Moment) : World :=
  call.world.setNode call.context.store call.id call.begun

end Moment

namespace SingleCall

/-- Whether a call in a walk is the given one, and no handler can claim it. -/
structure Is (node : SingleCall) (call : Moment) : Prop where
  place : call.At node.store node.id
  name : call.name = node.name
  options : call.context.options = node.options
  unhandled : call.context.functionHandlers = []
  /-- The argument is to be evaluated where the call stands. -/
  argument : ∃ depth, call.arguments = [⟨node.argument, evaluate (enterTo depth) call.context node.argument⟩]

variable {node : SingleCall} {call : Moment}

theorem exists_recipe (node : SingleCall) : ∃ recipe, node.function.recipe? 1 = some recipe :=
  Option.isSome_iff_exists.mp node.single

/-- Whether a call comes to a value whatever its argument is, and changes nothing but its own memory. -/
def GivesAtOnce (node : SingleCall) (call : Moment) (v : Value) : Prop :=
  let last := call.world.setNode node.store node.id (node.function.putDown v call.begun)
  call.walk call.world = .ok v last ∧
    ∀ argument, evaluateCall call.context call.id call.name [argument] call.world = .ok v last

/-- Whether a call comes to what its argument comes to once the call is registered, and puts down a value. -/
def GivesArgument (node : SingleCall) (call : Moment) : Prop :=
  ∃ depth,
    let argument := evaluate (enterTo depth) call.context node.argument
    call.arguments = [⟨node.argument, argument⟩] ∧
      call.walk call.world =
        match argument call.registered with
        | .ok v after => .ok v (after.setNode node.store node.id
            (node.function.putDown v (after.node node.store node.id)))
        | .error reason after => .error reason after

/-- What the call comes to if it is given some argument. -/
theorem Is.evaluateCall_eq (is : node.Is call) (argument : Argument) :
    evaluateCall call.context call.id call.name [argument] call.world =
      match node.function.held? call.begun with
      | some v => .ok v
          (call.registered.setNode node.store node.id (node.function.putDown v call.begun))
      | none =>
        match argument.value call.registered with
        | .ok v after => .ok v
            (after.setNode node.store node.id
              (node.function.putDown v (after.node node.store node.id)))
        | .error reason after => .error reason after := by
  rcases node.exists_recipe with ⟨recipe, accepted⟩
  have resolved : Function.resolve call.name call.context.options.ignoreCase =
      .ok (.temporal node.function) := by
    rw [is.name, is.options]
    exact node.resolved
  rw [TemporalFunction.evaluateCall_single is.unhandled resolved accepted, ← is.place.1, ← is.place.2]
  rfl

/-- The call goes by what its memory holds when it is registered. -/
theorem Is.gives (is : node.Is call) :
    match node.function.held? call.begun with
    | some v => node.GivesAtOnce call v
    | none => node.GivesArgument call := by
  rcases is.argument with ⟨depth, given⟩
  have walked := is.evaluateCall_eq ⟨node.argument, evaluate (enterTo depth) call.context node.argument⟩
  rw [← given] at walked
  cases held : node.function.held? call.begun with
  | some v =>
    have same : (.ok v (call.registered.setNode node.store node.id
          (node.function.putDown v call.begun)) : EStateM.Result Interruption World Value) =
        .ok v (call.world.setNode node.store node.id (node.function.putDown v call.begun)) := by
      rw [Moment.registered, is.place.1, is.place.2, World.setNode_setNode]
    rw [held] at walked
    refine ⟨walked.trans same, fun argument => ?_⟩
    have given := is.evaluateCall_eq argument
    rw [held] at given
    exact given.trans same
  | none =>
    rw [held] at walked
    exact ⟨depth, given, walked⟩

/-- The call passes nothing between its beginning and its end but its argument, if it asks for it. -/
theorem callTurns_eq (node : SingleCall) {context : Context} (unhandled : context.functionHandlers = [])
    (options : context.options = node.options) (argument : Argument) (inner : Nat → World → List Turn)
    (world : World) :
    let call : Moment := ⟨context, node.id, node.name, [argument], world⟩
    callTurns context node.id node.name [argument] inner world =
      .begins call ::
        (match node.function.held? call.begun with
          | some _ => []
          | none => inner 0 call.registered) ++ [.ends call] := by
  rcases node.exists_recipe with ⟨recipe, accepted⟩
  have resolved : Function.resolve node.name context.options.ignoreCase =
      .ok (.temporal node.function) := by
    rw [options]
    exact node.resolved
  have asked : ∀ world : World,
      inSequence (consult context context.functionHandlers (context.foldName node.name) [argument])
          (consultTrail context (context.foldName node.name) [argument] inner
            context.functionHandlers none)
          (unclaimedTurns context node.id node.name [argument] inner) world =
        duringCall context node.id node.name 1 (fun position => ([argument].get position).value)
          (fun position => inner position) world := by
    intro world
    rw [unhandled]
    rfl
  rw [callTurns, asked, duringCall, resolved]
  dsimp only
  rw [accepted]
  dsimp only
  rw [beginCall_eq]
  dsimp only
  rw [TemporalFunction.trail_single accepted, World.node_setNode_self]
  rfl

end SingleCall

/-! ## Accounts -/

/-- An account of a memory. -/
structure Account (σ : Type) where
  /-- What the account says of a memory. -/
  reads : NodeState → σ
  /-- How the account goes on with a turn of the call. -/
  goesOn : Turn → σ → σ

namespace Account

variable {σ : Type}

/-- What an account says after some turns, the last one first.  Turns of other calls are passed over. -/
def after (account : Account σ) (node : SingleCall) : List Turn → σ
  | [] => account.reads .blank
  | turn :: past =>
    if turn.Concerns node.store node.id then account.goesOn turn (account.after node past)
    else account.after node past

/-- Whether an account goes on with each turn as the memory does. -/
structure Right (account : Account σ) (node : SingleCall) : Prop where
  begins : ∀ {call}, node.Is call → ∀ state, account.goesOn (.begins call) (account.reads state) =
    account.reads (state.beginCall call.context.clock.step call.context.options.resetOnNewRun).2
  comes : ∀ {call v}, node.Is call → call.ending = .ok v → ∀ state,
    account.goesOn (.ends call) (account.reads state) = account.reads (node.function.putDown v state)
  stops : ∀ {call reason}, node.Is call → call.ending = .error reason → ∀ state,
    account.goesOn (.ends call) (account.reads state) = account.reads state
  feeds : ∀ v state, account.goesOn (.feeds node.store node.id v) (account.reads state) =
    account.reads { state with injected := some v }
  resets : ∀ state, account.goesOn (.resets node.store node.id) (account.reads state) =
    account.reads state.reset
  resetsAll : ∀ state, account.goesOn (.resetsAll node.store) (account.reads state) =
    account.reads state.reset
  founds : ∀ said, account.goesOn (.founds node.store) said = account.reads .blank

variable {account : Account σ} {node : SingleCall} {turn : Turn} {past : List Turn}

theorem after_of_concerns (concerns : turn.Concerns node.store node.id) :
    account.after node (turn :: past) = account.goesOn turn (account.after node past) :=
  if_pos concerns

theorem after_of_not (elsewhere : ¬ turn.Concerns node.store node.id) :
    account.after node (turn :: past) = account.after node past :=
  if_neg elsewhere

/-- Whether an account has told the memory at every beginning of the call among the turns so far. -/
def Told (account : Account σ) (node : SingleCall) : List Turn → Prop
  | [] => True
  | turn :: past =>
    (∀ call, turn = .begins call → call.At node.store node.id →
      node.Is call ∧ account.reads (call.world.node node.store node.id) = account.after node past) ∧
    account.Told node past

theorem Told.of_mem {call : Moment} {later earlier : List Turn}
    (told : account.Told node (later ++ .begins call :: earlier)) (place : call.At node.store node.id) :
    node.Is call ∧ account.reads (call.world.node node.store node.id) = account.after node earlier := by
  induction later with
  | nil => exact told.1 call rfl place
  | cons turn later ih => exact ih told.2

/-- Whether an account tells the memory in a world after the turns so far, and has always told it. -/
structure TellsUpTo (account : Account σ) (node : SingleCall) (past : List Turn) (world : World) :
    Prop where
  memory : account.reads (world.node node.store node.id) = account.after node past
  calls : account.Told node past

namespace TellsUpTo

variable {world other : World} {call : Moment}

/-- A change of the world that is no turn of the call does not count. -/
theorem of_same (told : account.TellsUpTo node past world)
    (same : other.node node.store node.id = world.node node.store node.id) :
    account.TellsUpTo node past other :=
  ⟨same ▸ told.memory, told.calls⟩

/-- A turn of another call does not count. -/
theorem others (told : account.TellsUpTo node past world)
    (elsewhere : ¬ turn.Concerns node.store node.id) : account.TellsUpTo node (turn :: past) world := by
  refine ⟨told.memory.trans (after_of_not elsewhere).symm, fun call begins place => ?_, told.calls⟩
  subst begins
  exact absurd place elsewhere

/-- What is no beginning changes the memory of the call as the account goes on. -/
theorem changes (told : account.TellsUpTo node past world) (notBegin : ∀ call, turn ≠ .begins call)
    (inside : turn.Concerns node.store node.id →
      account.goesOn turn (account.reads (world.node node.store node.id)) =
        account.reads (other.node node.store node.id))
    (outside : ¬ turn.Concerns node.store node.id →
      other.node node.store node.id = world.node node.store node.id) :
    account.TellsUpTo node (turn :: past) other := by
  by_cases concerns : turn.Concerns node.store node.id
  · refine ⟨?_, fun call begins => absurd begins (notBegin call), told.calls⟩
    rw [after_of_concerns concerns, ← told.memory, inside concerns]
  · exact (told.others concerns).of_same (outside concerns)

theorem begins (right : account.Right node) (is : node.Is call)
    (told : account.TellsUpTo node past call.world) :
    account.TellsUpTo node (.begins call :: past) call.registered := by
  have place : Turn.Concerns node.store node.id (.begins call) := is.place
  refine ⟨?_, fun _ same _ => ?_, told.calls⟩
  · rw [Moment.registered, is.place.1, is.place.2, World.node_setNode_self, Moment.begun, is.place.1,
      is.place.2, after_of_concerns place, ← told.memory, right.begins is]
  · cases same
    exact ⟨is, told.memory⟩

theorem comes (right : account.Right node) (is : node.Is call) {v : Value} (ended : call.ending = .ok v)
    (told : account.TellsUpTo node past world) :
    account.TellsUpTo node (.ends call :: past) (world.setNode node.store node.id
      (node.function.putDown v (world.node node.store node.id))) := by
  refine told.changes (fun _ => Turn.noConfusion) (fun _ => ?_) fun elsewhere => absurd is.place elsewhere
  rw [World.node_setNode_self]
  exact right.comes is ended _

theorem stops (right : account.Right node) (is : node.Is call) {reason : Interruption}
    (ended : call.ending = .error reason) (told : account.TellsUpTo node past world) :
    account.TellsUpTo node (.ends call :: past) world :=
  told.changes (fun _ => Turn.noConfusion) (fun _ => right.stops is ended _)
    fun elsewhere => absurd is.place elsewhere

end TellsUpTo

end Account

/-! ## Walks -/

/-- Whether the turns of a walk continue an account. -/
def Continues {σ : Type} (account : Account σ) (node : SingleCall) (first : World) (turns : List Turn)
    (last : World) : Prop :=
  ∀ past, account.TellsUpTo node past first → account.TellsUpTo node (turns.reverse ++ past) last

namespace Continues

variable {σ : Type} {account : Account σ} {node : SingleCall}

/-- What does not change the memory continues every account. -/
theorem of_same {first last : World}
    (same : last.node node.store node.id = first.node node.store node.id) :
    Continues account node first [] last :=
  fun _ told => told.of_same same

theorem joining (account : Account σ) (node : SingleCall) : Joins (Continues account node) where
  stay _ := of_same rfl
  compose := by
    intro first second third turns later here there past told
    rw [List.reverse_append, List.append_assoc]
    exact there _ (here past told)
  cancels place world := by
    apply of_same
    unfold World.cancelAt
    cases world.hosted[place]? with
    | none => rfl
    | some store =>
      have same := (world.alike_setCancelled store node.store true).memory.symm
      exact congrArg (fun memory => memory.state node.id) same
  notes _ _ := of_same rfl

/-- The call itself continues every account, if its argument does. -/
theorem around_own (right : account.Right node) {context : Context}
    (store : context.store = node.store) (options : context.options = node.options)
    (unhandled : context.functionHandlers = []) (depth : Nat) :
    Joins.Around (Continues account node) (enterTo depth) context node.application := by
  intro inner known world past told
  let argument : Argument := ⟨node.argument, evaluate (enterTo depth) context node.argument⟩
  let call : Moment := ⟨context, node.id, node.name, [argument], world⟩
  have is : node.Is call := ⟨⟨store, rfl⟩, rfl, options, unhandled, depth, rfl⟩
  have begun : account.TellsUpTo node (.begins call :: past) call.registered := .begins right is told
  have walked : call.walk world = _ := is.evaluateCall_eq argument
  have passed : callTurns context node.id node.name [argument] inner world = _ :=
    node.callTurns_eq unhandled options argument inner world
  change account.TellsUpTo node ((callTurns context node.id node.name [argument] inner world).reverse ++ past)
    (call.walk.leaves world)
  rw [passed]
  cases held : node.function.held? call.begun with
  | some v =>
    rw [held] at walked
    have found : call.registered.node node.store node.id = call.begun := by
      rw [Moment.registered, is.place.1, World.node_setNode_self]
    rw [← found] at walked
    rw [leaves_ok walked]
    exact .comes right is (ending_ok walked) begun
  | none =>
    rw [held] at walked
    have located : [argument][0]? = some argument := rfl
    have reached := known.inside located call.registered _ begun
    simp only [List.reverse_append, List.reverse_cons, List.reverse_nil, List.nil_append,
      List.cons_append, List.append_assoc]
    cases outcome : argument.value call.registered with
    | ok v after =>
      dsimp only at walked
      rw [outcome] at walked
      rw [leaves_ok outcome] at reached
      rw [leaves_ok walked]
      exact .comes right is (ending_ok walked) reached
    | error reason after =>
      dsimp only at walked
      rw [outcome] at walked
      rw [leaves_error outcome] at reached
      rw [leaves_error walked]
      exact .stops right is (by rw [Moment.ending, ending, walked]) reached

/-- Every call of formulas that are clones wherever they share the store continues every account. -/
theorem around (right : account.Right node) {all : List Formula} {unclaimed : StoreId → Prop}
    (sharing : Sharing all unclaimed) (alone : unclaimed node.store)
    (fits : ∀ g ∈ all, g.store = node.store → g.Has node) {g : Formula} (known : g ∈ all)
    {application : Application} (inside : application ∈ g.expression.applications) {context : Context}
    (of : context.Of g) (depth : Nat) :
    Joins.Around (Continues account node) (enterTo depth) context application := by
  by_cases own : context.store = node.store ∧ application.id = node.id
  · have store : g.store = node.store := of.store.symm.trans own.1
    have has := fits g known store
    have itself : application = node.application :=
      sharing.consistent g known application inside node.application has.member own.2
    have unhandled : context.functionHandlers = [] :=
      of.functionHandlers.trans (sharing.unhandled g known (store ▸ alone))
    rw [itself]
    exact around_own right own.1 (of.options.trans has.options) unhandled depth
  · intro inner arguments world
    have elsewhere : ∀ call : Moment, call.At context.store application.id →
        ¬ call.At node.store node.id := by
      rintro call ⟨store, id⟩ ⟨also, same⟩
      exact own ⟨store.symm.trans also, id.symm.trans same⟩
    refine (joining account node).evaluateCall context application.id application.name arguments
      (fun call place world past told => told.others (elsewhere call place))
      (fun call place world past told => told.others (elsewhere call place))
      (fun workspace world => of_same ?_) world
    exact World.node_setWorkspace_elsewhere (fun same => own ⟨same.1.symm, same.2.symm⟩) workspace world

end Continues

/-- The turns of an evaluation continue every account, whichever formulas it opens. -/
theorem Account.TellsUpTo.evaluateTo {σ : Type} {account : Account σ} {node : SingleCall}
    (right : account.Right node) {all : List Formula} {unclaimed : StoreId → Prop}
    (sharing : Sharing all unclaimed) (alone : unclaimed node.store)
    (fits : ∀ g ∈ all, g.store = node.store → g.Has node)
    (tree : ∀ f ∈ all, Bindings.Within all f.bindings) {f : Formula} (known : f ∈ all) {past : List Turn}
    {world : World} (told : account.TellsUpTo node past world) (depth : Nat) (clock : Clock) :
    account.TellsUpTo node ((f.turnsTo depth clock world).reverse ++ past)
      (f.evaluateTo depth clock world).2 := by
  rw [Formula.evaluateTo_snd]
  have of : (Context.ofFormula f clock).Of f := ⟨rfl, rfl, rfl⟩
  exact (Continues.joining account node).walk tree
    (fun g known _ inside _ of depth => .around right sharing alone fits known inside of depth)
    known of (tree f known) depth world past told

end ClockedFormula
