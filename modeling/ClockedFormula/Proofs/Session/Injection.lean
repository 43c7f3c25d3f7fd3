import ClockedFormula.Proofs.Evaluation.Feeding
import ClockedFormula.Proofs.Session.Course
import ClockedFormula.Session.Operation

namespace ClockedFormula

open TemporalFunction Walk

/-!
# Values that are fed in

What the host feeds into a call of `externalUpdate` is what the call gives, until it is reset: in the next run
too, and whether it has been made before or not.  It does not evaluate its argument then.  As long as nothing
is fed in, it gives its argument.  Either way it shows the value to the host.

What is fed into any other call is never asked for, so that a host cannot tell whether it was fed in.
-/

/-- What a call has been fed last, after a turn of it.  A new run does not take it back. -/
def Fed.goOn : Turn → Option Value → Option Value
  | .feeds _ _ v, _ => some v
  | .begins _, fed | .ends _, fed => fed
  | .resets _ _, _ | .resetsAll _, _ | .founds _, _ => none

namespace Fed

def account : Account (Option Value) where
  reads := NodeState.injected
  goesOn := goOn

theorem account_right (node : SingleCall) : account.Right node where
  begins _ state := (state.injected_beginCall _ _).symm
  comes := by
    intro call v _ _ state
    cases node.function <;> rfl
  stops _ _ _ := rfl
  feeds _ _ := rfl
  resets _ := rfl
  resetsAll _ := rfl
  founds _ := rfl

end Fed

/-- What the host has fed into a call last, since it was reset, after some turns, the last one first. -/
def lastFed (node : SingleCall) (past : List Turn) : Option Value := Fed.account.after node past

/-- A call that gives a value at once, or the value of its argument, puts the value down at the end. -/
theorem SingleCall.putsDown {node : SingleCall} {call : Moment} {v : Value}
    (gives : (∃ w, node.GivesAtOnce call w) ∨ node.GivesArgument call) (ended : call.ending = .ok v) :
    ∃ state, call.after.node node.store node.id = node.function.putDown v state := by
  rcases gives with ⟨w, walked, _⟩ | ⟨depth, _, walked⟩
  · have same : w = v := Except.ok.inj ((ending_ok walked).symm.trans ended)
    rw [Moment.after, leaves_ok walked, World.node_setNode_self, same]
    exact ⟨_, rfl⟩
  · cases came : evaluate (enterTo depth) call.context node.argument call.registered with
    | ok w after =>
      rw [came] at walked
      have same : w = v := Except.ok.inj ((ending_ok walked).symm.trans ended)
      rw [Moment.after, leaves_ok walked, World.node_setNode_self, same]
      exact ⟨_, rfl⟩
    | error reason after =>
      rw [Moment.ending, ending, walked, came] at ended
      cases ended

namespace Session

/-! ## What is fed in elsewhere -/

/-- Whether two sessions differ in nothing but what the host has fed into calls that do not heed it. -/
structure FedApart (heeded : StoreId → NodeId → Prop) (session twin : Session) : Prop where
  formulas : twin.formulas = session.formulas
  heeds : ∀ f ∈ session.all, ∀ id, f.Calls id .externalUpdate → heeded f.store id
  worlds : World.FedApart heeded session.world twin.world

/-- Something that a host can ask of a formula. -/
inductive Request where
  | command (command : Command)
  | operation (operation : FormulaOperation)

namespace Request

/-- Whether a host asks for the memory of a call as it is, or for the number of calls that have one. -/
def inspects : Request → Bool
  | .command (.memory _) | .command .memorySize => true
  | _ => false

end Request

/-- Do what is asked of the formula at an index, if there is one. -/
def ask? (session : Session) (index : Nat) : Request → Option (Reply × Session)
  | .command command => session.perform? index command
  | .operation operation => session.operate? index operation

/-- What the host learns from one request after the other. -/
def answersTo (session : Session) : List (Nat × Request) → List (Option Reply)
  | [] => []
  | (index, request) :: rest =>
    match session.ask? index request with
    | some (reply, after) => some reply :: after.answersTo rest
    | none => none :: session.answersTo rest

namespace FedApart

variable {heeded : StoreId → NodeId → Prop} {session twin : Session} {index : Nat} {f : Formula}

theorem evaluateTo (apart : FedApart heeded session twin) (known : f ∈ session.all) (depth : Nat)
    (clock : Clock) :
    (f.evaluateTo depth clock session.world).1 = (f.evaluateTo depth clock twin.world).1 ∧
      FedApart heeded { session with world := (f.evaluateTo depth clock session.world).2 }
        { twin with world := (f.evaluateTo depth clock twin.world).2 } := by
  have tree : ∀ g ∈ session.all, Bindings.Within session.all g.bindings :=
    fun g member => g.bindings_within.of_subset (inner_subset_all member)
  rcases Formula.evaluateTo_fedApart tree apart.heeds known depth clock apart.worlds with
    ⟨outcome, worlds⟩
  exact ⟨outcome, apart.formulas, apart.heeds, worlds⟩

/-- The same formula gets the same bindings in both sessions. -/
theorem rebind (apart : FedApart heeded session twin) (found : session.formulas[index]? = some f)
    {bindings : Bindings} (inside : { f with bindings := bindings }.inner ⊆ session.all) :
    FedApart heeded (session.replace index { f with bindings := bindings })
      (twin.replace index { f with bindings := bindings }) where
  formulas := by rw [replace, replace, apart.formulas]
  heeds g member id called := by
    rcases mem_all_replace inside member with rfl | before
    · exact apart.heeds f (mem_all_of_mem (List.mem_of_getElem? found)) id called
    · exact apart.heeds g before id called
  worlds := apart.worlds

theorem clone (apart : FedApart heeded session twin) (known : f ∈ session.all) :
    FedApart heeded ⟨session.formulas ++ [f], session.world.host f.store⟩
      ⟨twin.formulas ++ [f], twin.world.host f.store⟩ where
  formulas := by rw [apart.formulas]
  heeds g member id called := by
    rcases mem_all_add (inner_subset_all known) member with rfl | before
    · exact apart.heeds g known id called
    · exact apart.heeds g before id called
  worlds := apart.worlds.host f.store

theorem onWorlds (apart : FedApart heeded session twin) {world other : World}
    (worlds : World.FedApart heeded world other) :
    FedApart heeded { session with world := world } { twin with world := other } :=
  ⟨apart.formulas, apart.heeds, worlds⟩

/-- The answers to a request in two sessions, and what comes after them. -/
abbrev Answered (heeded : StoreId → NodeId → Prop) : (first second : Option (Reply × Session)) → Prop :=
  Option.Rel fun first second => first.1 = second.1 ∧ FedApart heeded first.2 second.2

theorem Answered.bind {α : Type} {found : Option α} {next later : α → Option (Reply × Session)}
    (rest : ∀ a, found = some a → Answered heeded (next a) (later a)) :
    Answered heeded (found.bind next) (found.bind later) := by
  cases present : found with
  | none => exact .none
  | some a => exact rest a present

/-- Every command is answered alike that does not show the raw memory. -/
theorem perform (apart : FedApart heeded session twin) (found : session.formulas[index]? = some f)
    {command : Command} (blind : (Request.command command).inspects = false) :
    Answered heeded (session.perform? index command) (twin.perform? index command) := by
  rcases twin with ⟨formulas, other⟩
  have same := apart.formulas
  dsimp only at same
  subst same
  have known := mem_all_of_mem (List.mem_of_getElem? found)
  simp only [perform?, found, Option.bind_eq_bind, Option.bind_some]
  cases command with
  | evaluate clock =>
    rcases apart.evaluateTo known depthLimit clock with ⟨outcome, after⟩
    exact .some ⟨congrArg Reply.outcome outcome, after⟩
  | bind name draft =>
    have same : binding? ⟨session.formulas, other⟩ draft = session.binding? draft := by
      cases draft <;> rfl
    dsimp only
    rw [same]
    refine .bind fun binding bound => .some ⟨rfl, apart.rebind found ?_⟩
    exact List.Subset.trans (f.inner_bind_subset name binding)
      (List.append_subset.mpr ⟨inner_subset_all known, innerOfBinding_subset_all bound⟩)
  | unbind name =>
    exact .some ⟨rfl, apart.rebind found
      (List.Subset.trans (f.inner_unbind_subset name) (inner_subset_all known))⟩
  | clone => exact .some ⟨rfl, apart.clone known⟩
  | lastValue place =>
    refine Answered.bind fun id _ => ?_
    exact .some ⟨congrArg Reply.value (apart.worlds.nodes f.store id).lastValue, apart⟩
  | externalValue place =>
    refine Answered.bind fun id _ => ?_
    exact .some ⟨congrArg Reply.value (apart.worlds.nodes f.store id).external, apart⟩
  | inject place v =>
    refine Answered.bind fun id _ => ?_
    exact .some ⟨rfl, apart.onWorlds (apart.worlds.inject f.store id v)⟩
  | reset => exact .some ⟨rfl, apart.onWorlds (apart.worlds.resetAll f.store)⟩
  | resetCall place =>
    refine Answered.bind fun id _ => ?_
    exact .some ⟨rfl, apart.onWorlds (apart.worlds.resetCall f.store id)⟩
  | cancel => exact .some ⟨rfl, apart.onWorlds (apart.worlds.setCancelled f.store true)⟩
  | clearCancel => exact .some ⟨rfl, apart.onWorlds (apart.worlds.setCancelled f.store false)⟩
  | isCancelled => exact .some ⟨congrArg Reply.flag (apart.worlds.cancelled f.store), apart⟩
  | memory | memorySize => cases blind
  | boundNames | callNames | find | options | handlers => exact .some ⟨rfl, apart⟩

/-- Every operation is answered alike, also on nodes that are no calls of the formula. -/
theorem operate (apart : FedApart heeded session twin) (found : session.formulas[index]? = some f)
    (operation : FormulaOperation) :
    Answered heeded (session.operate? index operation) (twin.operate? index operation) := by
  have also : twin.formulas[index]? = some f := apart.formulas ▸ found
  cases operation with
  | evaluate clock => exact apart.perform found (rfl : (Request.command (.evaluate clock)).inspects = false)
  | bind name v =>
    exact apart.perform found (rfl : (Request.command (.bind name (.value v))).inspects = false)
  | unbind name => exact apart.perform found (rfl : (Request.command (.unbind name)).inspects = false)
  | clone => exact apart.perform found (rfl : (Request.command .clone).inspects = false)
  | reset => exact apart.perform found (rfl : (Request.command .reset).inspects = false)
  | inject id v =>
    rw [operate?_inject found, operate?_inject also]
    exact .some ⟨rfl, apart.onWorlds (apart.worlds.inject f.store id v)⟩
  | resetCall id =>
    rw [operate?_resetCall found, operate?_resetCall also]
    exact .some ⟨rfl, apart.onWorlds (apart.worlds.resetCall f.store id)⟩
  | externalValue id =>
    rw [operate?_externalValue found, operate?_externalValue also]
    exact .some ⟨congrArg Reply.value (apart.worlds.nodes f.store id).external, apart⟩

theorem ask (apart : FedApart heeded session twin) {request : Request} (blind : request.inspects = false) :
    Answered heeded (session.ask? index request) (twin.ask? index request) := by
  cases found : session.formulas[index]? with
  | none =>
    have also : twin.formulas[index]? = none := apart.formulas ▸ found
    cases request with
    | command command =>
      rw [ask?, ask?, perform?, perform?, found, also]
      exact .none
    | operation operation =>
      rw [ask?, ask?, operate?_of_none found, operate?_of_none also]
      exact .none
  | some f =>
    cases request with
    | command command => exact apart.perform found blind
    | operation operation => exact apart.operate found operation

/-- Sessions that differ in what nobody asks for give the same answers for ever. -/
theorem answersTo (apart : FedApart heeded session twin) (requests : List (Nat × Request))
    (blind : ∀ entry ∈ requests, entry.2.inspects = false) :
    session.answersTo requests = twin.answersTo requests := by
  induction requests generalizing session twin with
  | nil => rfl
  | cons entry rest ih =>
    rcases entry with ⟨index, request⟩
    have later : ∀ entry ∈ rest, entry.2.inspects = false :=
      fun entry member => blind entry (List.mem_cons_of_mem _ member)
    have here : Answered heeded (session.ask? index request) (twin.ask? index request) :=
      apart.ask (blind (index, request) List.mem_cons_self)
    rw [Session.answersTo, Session.answersTo]
    generalize session.ask? index request = first at here ⊢
    generalize twin.ask? index request = second at here ⊢
    cases here with
    | none => exact congrArg (none :: ·) (ih apart later)
    | @some answer also both =>
      rcases answer with ⟨reply, after⟩
      rcases also with ⟨alsoReply, last⟩
      rcases both with ⟨rfl, again⟩
      exact congrArg (some reply :: ·) (ih again later)

end FedApart

section Courses

variable {unclaimed : StoreId → Prop} {past : List Turn} {session : Session} {f : Formula}
  {node : SingleCall}

/-- A session in which a value has been fed into a call of another function. -/
theorem Shaped.fedApart (shaped : session.Shaped unclaimed) (known : f ∈ session.all) {id : NodeId}
    (unheeded : ¬ f.Calls id externalUpdate) (v : Value) :
    FedApart (fun store id => ∃ g ∈ session.all, g.store = store ∧ g.Calls id externalUpdate) session
      (session.modifyMemory f fun memory => memory.inject id v) where
  formulas := rfl
  heeds g member id called := ⟨g, member, rfl, called⟩
  worlds := by
    refine World.FedApart.of_unheeded ?_ session.world v
    rintro ⟨g, member, same, called⟩
    rw [shaped.sharing.calls_eq member known same] at called
    exact unheeded called

/-- A call gives what it has been fed last, and evaluates its argument if it has been fed nothing. -/
theorem Course.gives_fed (course : Course unclaimed past session) (known : f ∈ session.all)
    (alone : unclaimed f.store) (has : f.Has node) (updates : node.function = externalUpdate)
    {call : Moment} {later earlier : List Turn} (moment : past = later ++ .begins call :: earlier)
    (place : call.At node.store node.id) :
    match lastFed node earlier with
    | some v => node.GivesAtOnce call v
    | none => node.GivesArgument call := by
  have concerns : Turn.Concerns node.store node.id (.begins call) := place
  have tells : ∀ state, id (Fed.account.reads state) = node.function.held? state := by
    intro state
    rw [updates]
    rfl
  have gives := course.gives (Fed.account_right node) tells known alone has moment place
  rwa [Account.after_of_concerns concerns] at gives

/-- What the host has fed into a call of `externalUpdate` since it was reset is what the call gives, without
evaluating its argument; otherwise the call gives its argument.  Whenever the call comes to a value, it shows
this value.  Where a call is not one of `externalUpdate`, nothing that a host asks for is answered differently
when a value is fed into it. -/
theorem injection_holds (course : Course unclaimed past session) (known : f ∈ session.all)
    (alone : unclaimed f.store) :
    (∀ node : SingleCall, f.Has node → node.function = externalUpdate →
      ∀ later call earlier, past = later ++ .begins call :: earlier → call.At node.store node.id →
        (match lastFed node earlier with
          | some v => node.GivesAtOnce call v
          | none => node.GivesArgument call) ∧
        ∀ v, call.ending = .ok v → (call.after.node node.store node.id).external = some v) ∧
    ∀ id v, ¬ f.Calls id externalUpdate → ∀ requests : List (Nat × Request),
      (∀ entry ∈ requests, entry.2.inspects = false) →
        (session.modifyMemory f fun memory => memory.inject id v).answersTo requests =
          session.answersTo requests := by
  refine ⟨fun node has updates later call earlier moment place => ?_,
    fun id v unheeded requests blind => ?_⟩
  · have gives := course.gives_fed known alone has updates moment place
    refine ⟨gives, fun v ended => ?_⟩
    have either : (∃ w, node.GivesAtOnce call w) ∨ node.GivesArgument call := by
      cases fed : lastFed node earlier with
      | some w =>
        rw [fed] at gives
        exact .inl ⟨w, gives⟩
      | none =>
        rw [fed] at gives
        exact .inr gives
    rcases SingleCall.putsDown either ended with ⟨state, put⟩
    rw [put, updates]
    rfl
  · exact ((course.shaped.fedApart known unheeded v).answersTo requests blind).symm

end Courses

/-! ## A level that the host feeds in -/

def fedExpression : Expr :=
  .call ⟨0⟩ "externalUpdate" [.call ⟨1⟩ "init" [.identifier "x"]]

/-- A level that starts at a parameter, until the host feeds in another one. -/
def fedLevel : Formula :=
  (Formula.ofExpr fedExpression .default ⟨0⟩).bind "x" (.value (.integer 4))

def fedCall : SingleCall where
  store := ⟨0⟩
  options := .default
  id := ⟨0⟩
  name := "externalUpdate"
  argument := .call ⟨1⟩ "init" [.identifier "x"]
  function := externalUpdate
  resolved := by decide
  single := rfl

def fedDraft : FormulaDraft := ⟨.literal .null, .default, [("x", .value (.integer 4))], [], []⟩

/-- The session of this formula. -/
def fedSession : Session := (empty.define? fedExpression fedDraft).getD empty

/-- The session after the host has fed in null, before the level was ever evaluated, and then has evaluated the
level at a step. -/
def laterSession : Session where
  formulas := [fedLevel]
  world := (fedLevel.evaluateTo 1 ⟨none, some 3, none⟩
    (fedSession.modifyMemory fedLevel fun memory => memory.inject ⟨0⟩ .null).world).2

/-- In the next run the level is still null, and shown as that.  Feeding another value into the inner call makes
no difference, not even when the level is reset and has to ask the inner call. -/
theorem fedLevel_holds :
    ∃ second : Moment,
      fedLevel.turnsTo 1 ⟨none, some 1, none⟩ laterSession.world = [.begins second, .ends second] ∧
      fedCall.GivesAtOnce second .null ∧
      (second.after.node ⟨0⟩ ⟨0⟩).external = some .null ∧
      let requests : List (Nat × Request) :=
        [(0, .operation (.resetCall ⟨0⟩)), (0, .command (.evaluate ⟨none, some 5, none⟩)),
          (0, .command (.lastValue 1))]
      let last : Session :=
        { laterSession with world := (fedLevel.evaluateTo 1 ⟨none, some 1, none⟩ laterSession.world).2 }
      (last.modifyMemory fedLevel fun memory => memory.inject ⟨1⟩ (.integer 7)).answersTo requests =
        last.answersTo requests := by
  have consistent : fedExpression.Consistent :=
    fun _ inFirst _ inSecond same => List.inj_on_of_nodup_map (by decide) inFirst inSecond same
  have defined : empty.define? fedExpression fedDraft = some fedSession := rfl
  have founded : Course (fun _ => True) [.founds ⟨0⟩] fedSession :=
    .step .empty (.defines consistent (fun _ => rfl) defined)
  have known : fedLevel ∈ fedSession.all := mem_all_of_mem List.mem_cons_self
  have fed := founded.step (.feeds ⟨0⟩ .null known)
  have evaluated : ∃ first : Moment, fedLevel.turnsTo 1 ⟨none, some 3, none⟩
      (fedSession.modifyMemory fedLevel fun memory => memory.inject ⟨0⟩ .null).world =
        [.begins first, .ends first] := ⟨_, rfl⟩
  have again : ∃ second : Moment, fedLevel.turnsTo 1 ⟨none, some 1, none⟩ laterSession.world =
      [.begins second, .ends second] ∧ second.At ⟨0⟩ ⟨0⟩ ∧ second.ending = .ok .null :=
    ⟨_, rfl, by decide, rfl⟩
  rcases evaluated with ⟨first, firstTurns⟩
  rcases again with ⟨second, secondTurns, secondPlace, ended⟩
  have still : fedLevel ∈
      (fedSession.modifyMemory fedLevel fun memory => memory.inject ⟨0⟩ .null).all := known
  have later : Course (fun _ => True)
      [.ends first, .begins first, .feeds ⟨0⟩ ⟨0⟩ .null, .founds ⟨0⟩] laterSession := by
    have stepped := fed.step (.evaluates 1 ⟨none, some 3, none⟩ still)
    rwa [firstTurns] at stepped
  have present : fedLevel ∈ laterSession.all := mem_all_of_mem List.mem_cons_self
  have course := later.step (.evaluates 1 ⟨none, some 1, none⟩ present)
  rw [secondTurns] at course
  have has : fedLevel.Has fedCall := ⟨rfl, rfl, List.mem_cons_self⟩
  have other : ¬ fedLevel.Calls ⟨1⟩ externalUpdate := by
    rintro ⟨name, member, resolved⟩
    have calls : fedLevel.expression.calls = [(⟨0⟩, "externalUpdate"), (⟨1⟩, "init")] := rfl
    have freezes : Function.resolve "init" fedLevel.options.ignoreCase = .ok (.temporal init) := rfl
    rw [calls] at member
    have named : name = "init" := by simpa using member
    subst named
    cases freezes.symm.trans resolved
  rcases injection_holds course present trivial with ⟨holds, elsewhere⟩
  rcases holds fedCall has rfl [.ends second] second
    [.ends first, .begins first, .feeds ⟨0⟩ ⟨0⟩ .null, .founds ⟨0⟩] rfl secondPlace with ⟨gives, shows⟩
  have null : lastFed fedCall [.ends first, .begins first, .feeds ⟨0⟩ ⟨0⟩ .null, .founds ⟨0⟩] =
      some .null := by
    simp [lastFed, Account.after, Fed.account, Fed.goOn, Turn.Concerns, fedCall]
  rw [null] at gives
  exact ⟨second, secondTurns, gives, shows .null ended,
    elsewhere ⟨1⟩ (.integer 7) other _ (by decide)⟩

end Session

end ClockedFormula
