import ClockedFormula.Clock
import ClockedFormula.Expr
import ClockedFormula.Table
/-!
# What function calls remember

A formula keeps a memory for each of its function calls: the last result, the clock step at which it
was last called, what a function carries from step to step, the value it shows to the host and the
value the host has fed into it.

A call at a step before the last one starts a new run, if the options say so: everything that the
previous run has gathered goes.  A reset by the host also takes back what the host has fed in.  The
last result survives both.
-/

namespace ClockedFormula

/-- What a function carries from step to step. -/
inductive Temporal where
  | empty
  /-- The value at which a call is frozen. -/
  | frozen (v : Value)
  /-- The stages of a smoothing. -/
  | stages (levels : List Double)
deriving DecidableEq

/-- The memory of one function call. -/
structure NodeState where
  lastValue : Option Value
  lastStep : Option UInt64
  temporal : Temporal
  /-- The value that the call shows to the host. -/
  external : Option Value
  /-- The value that the host has fed in. -/
  injected : Option Value
deriving DecidableEq

namespace NodeState

/-- The memory of a call that has not happened. -/
def blank : NodeState := ⟨none, none, .empty, none, none⟩

instance : Inhabited NodeState := ⟨blank⟩

/-- Drop what the run so far has gathered. -/
def startRun (state : NodeState) : NodeState :=
  { state with lastStep := none, temporal := .empty, external := none }

/-- Drop what the run has gathered and what the host has fed in. -/
def reset (state : NodeState) : NodeState := { state.startRun with injected := none }

end NodeState

/-- How the clock has moved since the previous call of a node. -/
inductive Progress where
  /-- The clock shows no step. -/
  | unclocked
  /-- The first call of the run. -/
  | fresh
  /-- The step of the previous call. -/
  | repeated
  | advanced
deriving DecidableEq

namespace Progress

/-- Whether smoothing moves on. -/
def integrates : Progress → Bool
  | unclocked => true
  | advanced => true
  | fresh => false
  | repeated => false

end Progress

namespace NodeState

/-- Register a call at a clock step, if there is one: how the clock has moved, and the memory with
which the call begins. -/
def beginCall (state : NodeState) (step : Option UInt64) (resetOnNewRun : Bool) :
    Progress × NodeState :=
  match step, state.lastStep with
  | none, _ => (.unclocked, state)
  | some now, none => (.fresh, { state with lastStep := some now })
  | some now, some last =>
    if now < last ∧ resetOnNewRun then (.fresh, { state.startRun with lastStep := some now })
    else if now = last then (.repeated, state)
    else (.advanced, { state with lastStep := some now })

section BeginCall

variable {state : NodeState} {now last : UInt64}

theorem beginCall_first (first : state.lastStep = none) (now : UInt64) (resetOnNewRun : Bool) :
    state.beginCall (some now) resetOnNewRun = (.fresh, { state with lastStep := some now }) := by
  simp only [beginCall, first]

theorem beginCall_back (called : state.lastStep = some last) (back : now < last) :
    state.beginCall (some now) true = (.fresh, { state.startRun with lastStep := some now }) := by
  simp only [beginCall, called, back, and_self, if_true]

theorem beginCall_repeated (called : state.lastStep = some now) (resetOnNewRun : Bool) :
    state.beginCall (some now) resetOnNewRun = (.repeated, state) := by
  have stays : ¬ now < now := UInt64.lt_irrefl now
  simp only [beginCall, called, stays, false_and, if_false, if_true]

theorem beginCall_advanced (called : state.lastStep = some last) (advanced : last < now)
    (resetOnNewRun : Bool) :
    state.beginCall (some now) resetOnNewRun =
      (.advanced, { state with lastStep := some now }) := by
  have forward : ¬ now < last := UInt64.lt_asymm advanced
  have moved : ¬ now = last := (UInt64.ne_of_lt advanced).symm
  simp only [beginCall, called, forward, moved, false_and, if_false]

end BeginCall

end NodeState

/-- The memories of the calls of a formula. -/
structure NodeMemory where
  nodes : Table NodeId NodeState

namespace NodeMemory

def empty : NodeMemory := ⟨.empty⟩

instance : Inhabited NodeMemory := ⟨empty⟩

/-- The memory of a call that has one. -/
def get? (memory : NodeMemory) (id : NodeId) : Option NodeState := memory.nodes.get? id

/-- The memory of a call; one without an entry remembers nothing. -/
def state (memory : NodeMemory) (id : NodeId) : NodeState := (memory.get? id).getD .blank

/-- Replace the memory of a call. -/
def setState (memory : NodeMemory) (id : NodeId) (state : NodeState) : NodeMemory :=
  ⟨memory.nodes.insert id state⟩

/-- Change the memory of a call, which gets an entry if it has none. -/
def modify (memory : NodeMemory) (id : NodeId) (change : NodeState → NodeState) : NodeMemory :=
  memory.setState id (change (memory.state id))

/-- Register a call at a clock. -/
def beginCall (memory : NodeMemory) (id : NodeId) (clock : Clock) (resetOnNewRun : Bool) :
    Progress × NodeMemory :=
  let (progress, state) := (memory.state id).beginCall clock.step resetOnNewRun
  (progress, memory.setState id state)

/-- Note the result of a call. -/
def recordResult (memory : NodeMemory) (id : NodeId) (v : Value) : NodeMemory :=
  memory.modify id fun state => { state with lastValue := some v }

def setTemporal (memory : NodeMemory) (id : NodeId) (temporal : Temporal) : NodeMemory :=
  memory.modify id fun state => { state with temporal := temporal }

/-- Show a value to the host. -/
def setExternal (memory : NodeMemory) (id : NodeId) (v : Value) : NodeMemory :=
  memory.modify id fun state => { state with external := some v }

/-- Feed in a value from the host. -/
def inject (memory : NodeMemory) (id : NodeId) (v : Value) : NodeMemory :=
  memory.modify id fun state => { state with injected := some v }

/-- Reset one call; one without an entry does not get any. -/
def reset (memory : NodeMemory) (id : NodeId) : NodeMemory :=
  match memory.get? id with
  | some state => memory.setState id state.reset
  | none => memory

/-- Reset all calls. -/
def resetAll (memory : NodeMemory) : NodeMemory := ⟨memory.nodes.mapValues NodeState.reset⟩

/-- The number of calls with an entry. -/
def size (memory : NodeMemory) : Nat := memory.nodes.size

/-- Whether a call has an entry. -/
def Holds (memory : NodeMemory) (id : NodeId) : Prop := (memory.get? id).isSome = true

@[simp]
theorem state_setState_self (memory : NodeMemory) (id : NodeId) (state : NodeState) :
    (memory.setState id state).state id = state := by
  simp [NodeMemory.state, get?, setState]

theorem state_setState_of_ne (memory : NodeMemory) {id other : NodeId} (distinct : other ≠ id)
    (state : NodeState) : (memory.setState id state).state other = memory.state other := by
  simp [NodeMemory.state, get?, setState, Table.get?_insert_of_ne _ distinct]

@[simp]
theorem state_reset_self (memory : NodeMemory) (id : NodeId) :
    (memory.reset id).state id = (memory.state id).reset := by
  cases found : memory.get? id with
  | none =>
    have unknown : memory.state id = .blank := by rw [NodeMemory.state, found]; rfl
    have kept : memory.reset id = memory := by rw [reset, found]
    rw [kept, unknown]
    rfl
  | some state =>
    have known : memory.state id = state := by rw [NodeMemory.state, found]; rfl
    have changed : memory.reset id = memory.setState id state.reset := by rw [reset, found]
    rw [changed, known, state_setState_self]

theorem state_reset_of_ne (memory : NodeMemory) {id other : NodeId} (distinct : other ≠ id) :
    (memory.reset id).state other = memory.state other := by
  cases found : memory.get? id with
  | none => simp only [reset, found]
  | some state => simp only [reset, found, state_setState_of_ne _ distinct]

theorem state_resetAll (memory : NodeMemory) (id : NodeId) :
    (memory.resetAll).state id = (memory.state id).reset := by
  simp only [NodeMemory.state, get?, resetAll, Table.get?_mapValues]
  cases memory.nodes.get? id <;> rfl

theorem get?_setState_of_ne (memory : NodeMemory) {id other : NodeId} (distinct : other ≠ id)
    (state : NodeState) : (memory.setState id state).get? other = memory.get? other :=
  Table.get?_insert_of_ne _ distinct state

/-- Only the call whose memory is replaced can get an entry. -/
theorem holds_setState {memory : NodeMemory} {id other : NodeId} {state : NodeState}
    (holds : (memory.setState id state).Holds other) : other = id ∨ memory.Holds other := by
  by_cases itself : other = id
  · exact .inl itself
  · rw [Holds, get?_setState_of_ne _ itself] at holds
    exact .inr holds

/-- A call does not get an entry when a call is reset. -/
theorem holds_reset {memory : NodeMemory} {id other : NodeId}
    (holds : (memory.reset id).Holds other) : memory.Holds other := by
  cases found : memory.get? id with
  | none =>
    rw [reset, found] at holds
    exact holds
  | some state =>
    rw [reset, found] at holds
    rcases holds_setState holds with rfl | before
    · rw [Holds, found]
      rfl
    · exact before

theorem holds_resetAll {memory : NodeMemory} {id : NodeId} :
    memory.resetAll.Holds id ↔ memory.Holds id := by
  rw [Holds, Holds, get?, get?, resetAll, Table.get?_mapValues, Option.isSome_map]

end NodeMemory

end ClockedFormula
