import ClockedFormula.Formula
/-!
# Walks

A walk is one evaluation of a formula, together with everything it leaves behind.  It reads and changes
a world: the stores of all formulas and the journal of the handlers.

A walk that does not come to a value is interrupted.  A failure can be met by a handler that has asked
for the value of an argument.  The two other interruptions pass every handler: a walk is dropped when a
handler that gave back control may not go on, and it is exhausted when too many formulas are open
inside one another.
-/

namespace ClockedFormula

/-- What the evaluations of a formula and its clones leave behind. -/
structure Store where
  memory : NodeMemory
  random : RandomStream
  cancelled : Bool

namespace Store

/-- The store of a new formula.  Without a seed the random numbers are those of the seed zero. -/
def ofSeed (seed : Option UInt64) : Store := ⟨.empty, ⟨seed.getD 0, 0⟩, false⟩

instance : Inhabited Store := ⟨ofSeed none⟩

end Store

/-- The stores of all formulas, and the notes that their handlers have taken. -/
structure World where
  stores : Table StoreId Store
  /-- The stores of the formulas that the host keeps, in the order of the formulas.  Handlers mean a
  formula by its place among them. -/
  hosted : List StoreId
  journal : List Note

namespace World

def empty : World := ⟨.empty, [], []⟩

instance : Inhabited World := ⟨empty⟩

/-- The store of an identity. -/
def store (world : World) (id : StoreId) : Store := (world.stores.get? id).getD default

/-- Replace the store of an identity. -/
def setStore (world : World) (id : StoreId) (store : Store) : World :=
  { world with stores := world.stores.insert id store }

/-- Change the store of an identity. -/
def modifyStore (world : World) (id : StoreId) (change : Store → Store) : World :=
  world.setStore id (change (world.store id))

/-- Change the memory of the calls in a store. -/
def modifyMemory (world : World) (id : StoreId) (change : NodeMemory → NodeMemory) : World :=
  world.modifyStore id fun store => { store with memory := change store.memory }

/-- Let the host keep one more formula, by its store. -/
def host (world : World) (id : StoreId) : World := { world with hosted := world.hosted ++ [id] }

/-- How often a handler has been asked since the notes were last collected. -/
def timesAsked (world : World) (label : String) : Nat :=
  world.journal.countP (Note.saysAsked label)

/-- What a call shows. -/
def readouts (world : World) (store : StoreId) (id : NodeId) : Readouts :=
  let node := (world.store store).memory.state id
  ⟨node.lastValue, node.external⟩

/-- Set or clear a cancel flag. -/
def setCancelled (world : World) (id : StoreId) (cancelled : Bool) : World :=
  world.modifyStore id fun store => { store with cancelled := cancelled }

@[simp]
theorem store_setStore_self (world : World) (id : StoreId) (store : Store) :
    (world.setStore id store).store id = store := by
  simp [World.store, setStore]

theorem store_setStore_of_ne (world : World) {id other : StoreId} (distinct : other ≠ id)
    (store : Store) : (world.setStore id store).store other = world.store other := by
  simp [World.store, setStore, Table.get?_insert_of_ne _ distinct]

@[simp]
theorem store_modifyStore_self (world : World) (id : StoreId) (change : Store → Store) :
    (world.modifyStore id change).store id = change (world.store id) :=
  store_setStore_self world id _

theorem store_modifyStore_of_ne (world : World) {id other : StoreId} (distinct : other ≠ id)
    (change : Store → Store) : (world.modifyStore id change).store other = world.store other :=
  store_setStore_of_ne world distinct _

@[simp]
theorem store_host (world : World) (id store : StoreId) :
    (world.host id).store store = world.store store := rfl

end World

/-- Why a walk has come to no value. -/
inductive Interruption where
  | failed (e : EvalError)
  /-- A handler may not go on. -/
  | dropped
  /-- Too many formulas are open inside one another. -/
  | exhausted

/-- A walk: it changes the world, and yields a result or is interrupted. -/
abbrev Walk (α : Type) : Type := EStateM Interruption World α

namespace Walk

variable {α : Type}

def fail (e : EvalError) : Walk α := throw (.failed e)

/-- A computation that does not touch the world. -/
def ofAttempt : Attempt α → Walk α
  | .ok a => pure a
  | .error e => fail e

/-- The outcome of a walk; a failure is an outcome, any other interruption goes on. -/
def outcome (walk : Walk α) : Walk (Attempt α) := fun world =>
  match walk world with
  | .ok a after => .ok (.ok a) after
  | .error (.failed e) after => .ok (.error e) after
  | .error interruption after => .error interruption after

/-- Read a store. -/
def store (id : StoreId) : Walk Store := do return (← get).store id

/-- Change the memory of the calls in a store. -/
def modifyMemory (id : StoreId) (change : NodeMemory → NodeMemory) : Walk Unit :=
  modify fun world => world.modifyMemory id change

/-- Set the cancel flag of the formula at a place, if the host keeps one there. -/
def cancel (place : Nat) : Walk Unit :=
  modify fun world =>
    match world.hosted[place]? with
    | some id => world.setCancelled id true
    | none => world

/-- Whether a cancel flag is set. -/
def isCancelled (id : StoreId) : Walk Bool := do return (← store id).cancelled

/-- Look how often a handler has been asked. -/
def timesAsked (label : String) : Walk Nat := do return (← get).timesAsked label

/-- Look at what a call shows. -/
def readouts (store : StoreId) (id : NodeId) : Walk Readouts := do return (← get).readouts store id

/-- Take a note. -/
def note (note : Note) : Walk Unit :=
  modify fun world => { world with journal := world.journal ++ [note] }

end Walk

end ClockedFormula
