import ClockedFormula.Proofs.Walk.Node

namespace ClockedFormula

open Walk

/-!
# Handlers in the world of a walk

A handler is asked, its program runs, and where the program asks for an argument or gives back control
the walk may be interrupted.  The equations of this module say what each of these steps does from a
given world, in which it is known whether the walk is cancelled.
-/

/-- Whether the cancel flag of a store is set. -/
def World.isCancelled (world : World) (id : StoreId) : Bool := (world.store id).cancelled

/-- A change of a store that leaves its flag alone leaves all flags alone. -/
theorem World.isCancelled_modifyStore {root : StoreId} (store : StoreId) {change : Store → Store}
    (spares : ∀ contents, (change contents).cancelled = contents.cancelled) (world : World) :
    (world.modifyStore store change).isCancelled root = world.isCancelled root := by
  unfold World.isCancelled
  by_cases itself : root = store
  · subst itself
    rw [World.store_modifyStore_self]
    exact spares _
  · rw [World.store_modifyStore_of_ne _ itself]

theorem World.isCancelled_setWorkspace {root : StoreId} (world : World) (store : StoreId) (id : NodeId)
    (workspace : Workspace) :
    (world.setWorkspace store id workspace).isCancelled root = world.isCancelled root := by
  unfold World.setWorkspace
  rw [isCancelled_modifyStore store]
  exact fun _ => rfl

theorem World.isCancelled_setNode {root : StoreId} (world : World) (store : StoreId) (id : NodeId)
    (state : NodeState) : (world.setNode store id state).isCancelled root = world.isCancelled root := by
  rw [setNode_eq_setWorkspace, isCancelled_setWorkspace]

/-- A world with one more note in its journal. -/
def World.addNote (world : World) (note : Note) : World :=
  { world with journal := world.journal ++ [note] }

/-- A world in which the formula at a place of the host is cancelled, if there is one. -/
def World.cancelAt (world : World) (place : Nat) : World :=
  match world.hosted[place]? with
  | some id => world.setCancelled id true
  | none => world

/-- A flag that is set is not taken back by setting flags. -/
theorem World.isCancelled_cancelAt {root : StoreId} {world : World}
    (cancelled : world.isCancelled root = true) (place : Nat) :
    (world.cancelAt place).isCancelled root = true := by
  unfold World.cancelAt
  cases world.hosted[place]? with
  | none => exact cancelled
  | some id =>
    unfold World.isCancelled World.setCancelled
    by_cases itself : root = id
    · subst itself
      rw [World.store_modifyStore_self]
    · rw [World.store_modifyStore_of_ne _ itself]
      exact cancelled

theorem isCancelled_eq (id : StoreId) (world : World) :
    Walk.isCancelled id world = .ok (world.isCancelled id) world := rfl

theorem note_eq (note : Note) (world : World) :
    Walk.note note world = .ok () (world.addNote note) := rfl

theorem timesAsked_eq (label : String) (world : World) :
    Walk.timesAsked label world = .ok (world.timesAsked label) world := rfl

theorem readouts_eq (store : StoreId) (id : NodeId) (world : World) :
    Walk.readouts store id world = .ok (world.readouts store id) world := rfl

theorem cancel_eq (place : Nat) (world : World) :
    Walk.cancel place world = .ok () (world.cancelAt place) := rfl

/-- What a program is answered that asks for an argument. -/
def answerAt (arguments : List Argument) (position : Nat) : Walk (Attempt Value) :=
  match arguments[position]? with
  | some argument => argument.value.outcome
  | none => pure (.error (.handler s!"no argument {position}"))

namespace Program

variable {root : StoreId} {arguments : List Argument} {claimed : Option Value}

theorem run_evaluate (position : Nat) (next : Attempt Value → Program) :
    (evaluate position next).run root arguments claimed =
      answerAt arguments position >>= fun result => (next result).run root arguments claimed := by
  rw [run, answerAt]
  cases arguments[position]? <;> rfl

/-- A program that gives back control does not go on in a cancelled walk. -/
theorem run_suspend_of_cancelled {world : World} (cancelled : world.isCancelled root = true)
    (next : Program) : (suspend next).run root arguments claimed world = .error .dropped world := by
  unfold Program.run
  rw [bind_ok (isCancelled_eq root world), cancelled]
  rfl

theorem run_suspend_of_not {world : World} (going : world.isCancelled root = false)
    (next : Program) :
    (suspend next).run root arguments claimed world = next.run root arguments claimed world := by
  rw [run, bind_ok (isCancelled_eq root world), going]
  rfl

end Program

namespace consult

variable {context : Context} {name : String} {arguments : List Argument}

/-- What a handler does about a name when it is asked in a world. -/
def response (context : Context) (name : String) (arguments : List Argument) (handler : Handler)
    (world : World) : Program :=
  handler.respond (context.request name arguments (world.timesAsked handler.label))

/-- A handler is asked if the walk is not cancelled, and those behind it after that. -/
theorem ask_cons_eq (handler : Handler) (rest : List Handler) (claimed : Option Value) :
    ask context name arguments (handler :: rest) claimed =
      Walk.isCancelled context.root >>= fun cancelled =>
        if cancelled then Walk.fail .cancelled
        else Walk.timesAsked handler.label >>= fun timesAsked =>
          Walk.note (.asked handler.label name) >>= fun _ =>
            (handler.respond (context.request name arguments timesAsked)).run context.root arguments
                claimed >>=
              ask context name arguments rest := rfl

/-- No handler is asked in a cancelled walk. -/
theorem ask_of_cancelled {world : World} (cancelled : world.isCancelled context.root = true)
    (handler : Handler) (rest : List Handler) (claimed : Option Value) :
    ask context name arguments (handler :: rest) claimed world =
      .error (.failed .cancelled) world := by
  unfold ask
  rw [bind_ok (isCancelled_eq context.root world), cancelled]
  rfl

theorem ask_of_not {world : World} (going : world.isCancelled context.root = false)
    (handler : Handler) (rest : List Handler) (claimed : Option Value) :
    ask context name arguments (handler :: rest) claimed world =
      ((response context name arguments handler world).run context.root arguments claimed >>=
        ask context name arguments rest) (world.addNote (.asked handler.label name)) := by
  rw [ask, bind_ok (isCancelled_eq context.root world), going]
  rfl

end consult

end ClockedFormula
