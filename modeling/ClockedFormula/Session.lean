import ClockedFormula.Evaluation
import ClockedFormula.Expr.Draft
import ClockedFormula.Handler.Script
/-!
# Sessions

A host works with several formulas at once.  It defines them, perhaps with expressions in common and
bound to one another, and then evaluates them, changes their bindings, resets and feeds their calls,
and reads what they show.  A session is the state of such work, a command is one step of it, and the
reply to a command is all that the host learns from it besides the notes of the handlers.
-/

namespace ClockedFormula

/-! ## Definitions -/

/-- What a name is to be bound to; a formula is meant by its place in the session. -/
inductive BindingDraft where
  | value (v : Value)
  | formula (index : Nat)

/-- A formula to be defined. -/
structure FormulaDraft where
  expression : Draft
  options : Options
  bindings : List (String × BindingDraft)
  identifierScripts : List Script
  functionScripts : List Script

/-- The formulas of a host, and everything their evaluations have left behind. -/
structure Session where
  formulas : List Formula
  world : World

namespace Session

def empty : Session := ⟨[], .empty⟩

/-- A binding to a value or to the formula as it is now. -/
def binding? (session : Session) : BindingDraft → Option (Binding Formula)
  | .value v => some (.value v)
  | .formula index => (session.formulas[index]?).map .formula

/-- Bind names in order. -/
def bindAll? (session : Session) (f : Formula) : List (String × BindingDraft) → Option Formula
  | [] => some f
  | (name, draft) :: rest => do
    let binding ← session.binding? draft
    session.bindAll? (f.bind name binding) rest

/-- The handlers of scripts, labelled by the formula that defines them, their chain and their place
in it. -/
def handlers (index : Nat) (chain : String) (scripts : List Script) : List Handler :=
  scripts.mapIdx fun place script => script.handler s!"{index}:{chain}{place}"

/-- Define one more formula, whose expression is numbered already, with a store of its own. -/
def define? (session : Session) (expression : Expr) (draft : FormulaDraft) : Option Session := do
  let index := session.formulas.length
  let store : StoreId := ⟨index⟩
  let plain := Formula.ofExpr expression draft.options store
  let bound ← session.bindAll? plain draft.bindings
  let f :=
    { bound with
      identifierHandlers := handlers index "p" draft.identifierScripts
      functionHandlers := handlers index "f" draft.functionScripts }
  return {
    formulas := session.formulas ++ [f]
    world := (session.world.setStore store (Store.ofSeed draft.options.randomSeed)).host store }

/-- Number and define formulas in order. -/
def defineAll (known : List (String × Expr)) (session : Session) :
    List FormulaDraft → Numbering Session
  | [] => return session
  | draft :: rest => do
    let expression ← draft.expression.number known
    let session ← (session.define? expression draft : Option Session)
    defineAll known session rest

/-- The session of some formulas, given the expressions to which they can refer by name. -/
def start? (shared : List (String × Draft)) (formulas : List FormulaDraft) : Option Session :=
  let numbering : Numbering Session := do
    let known ← Draft.numberNamed [] shared
    defineAll known empty formulas
  (numbering.run 0).map Prod.fst

end Session

/-! ## Commands -/

/-- A command on one formula.  Calls are meant by their place in the text of the formula. -/
inductive Command where
  | evaluate (clock : Clock)
  | bind (name : String) (binding : BindingDraft)
  | unbind (name : String)
  | boundNames
  | clone
  | callNames
  /-- The places of the calls of a function. -/
  | find (name : String)
  | lastValue (call : Nat)
  | externalValue (call : Nat)
  | memory (call : Nat)
  | memorySize
  | inject (call : Nat) (v : Value)
  | reset
  | resetCall (call : Nat)
  | cancel
  | clearCancel
  | isCancelled
  | options
  | handlers

/-- What the host learns from a command. -/
inductive Reply where
  | done
  | outcome (outcome : Outcome)
  | flag (b : Bool)
  | names (names : List String)
  | index (index : Nat)
  | indices (indices : List Nat)
  | value (v : Option Value)
  | memory (state : Option NodeState)
  | size (count : Nat)
  | options (options : Options)
  | handlers (isEmpty : Bool) (summary : String)

namespace Session

/-- Put a formula in the place of another. -/
def replace (session : Session) (index : Nat) (f : Formula) : Session :=
  { session with formulas := session.formulas.set index f }

/-- The memory of the calls of a formula. -/
def memoryOf (session : Session) (f : Formula) : NodeMemory := (session.world.store f.store).memory

/-- Change the memory of the calls of a formula. -/
def modifyMemory (session : Session) (f : Formula) (change : NodeMemory → NodeMemory) : Session :=
  { session with world := session.world.modifyMemory f.store change }

/-- Set or clear the cancel flag of a formula. -/
def setCancelled (session : Session) (f : Formula) (cancelled : Bool) : Session :=
  { session with world := session.world.setCancelled f.store cancelled }

/-- The identity of the call at a place. -/
def call? (f : Formula) (place : Nat) : Option NodeId := (f.expression.calls[place]?).map Prod.fst

/-- The first place of a call. -/
def placeOf (f : Formula) (id : NodeId) : Nat :=
  (f.expression.calls.map Prod.fst).idxOf id

/-- Carry out a command on the formula at an index.  There is no reply if the formula does not exist,
or the command means a call or a formula that does not. -/
def perform? (session : Session) (index : Nat) (command : Command) : Option (Reply × Session) := do
  let f ← session.formulas[index]?
  match command with
  | .evaluate clock =>
    let (outcome, world) := f.evaluateAt clock session.world
    return (.outcome outcome, { session with world := world })
  | .bind name draft =>
    let binding ← session.binding? draft
    return (.done, session.replace index (f.bind name binding))
  | .unbind name =>
    return (.flag (f.bindings.get? name).isSome, session.replace index (f.unbind name))
  | .boundNames => return (.names f.bindings.keys, session)
  | .clone =>
    let kept : Session :=
      { formulas := session.formulas ++ [f], world := session.world.host f.store }
    return (.index session.formulas.length, kept)
  | .callNames => return (.names (f.expression.calls.map Prod.snd), session)
  | .find name => return (.indices ((f.callsTo name).map (placeOf f)), session)
  | .lastValue place =>
    let id ← call? f place
    return (.value ((session.memoryOf f).state id).lastValue, session)
  | .externalValue place =>
    let id ← call? f place
    return (.value ((session.memoryOf f).state id).external, session)
  | .memory place =>
    let id ← call? f place
    return (.memory ((session.memoryOf f).get? id), session)
  | .memorySize => return (.size (session.memoryOf f).size, session)
  | .inject place v =>
    let id ← call? f place
    return (.done, session.modifyMemory f fun memory => memory.inject id v)
  | .reset => return (.done, session.modifyMemory f NodeMemory.resetAll)
  | .resetCall place =>
    let id ← call? f place
    return (.done, session.modifyMemory f fun memory => memory.reset id)
  | .cancel => return (.done, session.setCancelled f true)
  | .clearCancel => return (.done, session.setCancelled f false)
  | .isCancelled => return (.flag (session.world.store f.store).cancelled, session)
  | .options => return (.options f.options, session)
  | .handlers => return (.handlers (!f.hasHandlers) f.handlerSummary, session)

/-- The notes taken since the last time they were collected, and the session without them. -/
def collectNotes (session : Session) : List Note × Session :=
  (session.world.journal, { session with world := { session.world with journal := [] } })

end Session

end ClockedFormula
