import ClockedFormula.NodeMemory
/-!
# Operations on the memory of calls

The ways in which the memory of function calls is changed and read, as data: a history of a memory is a
list of operations.
-/

namespace ClockedFormula

/-- An operation on the memory of one call, or of all. -/
inductive MemoryOperation where
  | beginCall (id : NodeId) (clock : Clock) (resetOnNewRun : Bool)
  | recordResult (id : NodeId) (v : Value)
  | setTemporal (id : NodeId) (temporal : Temporal)
  | setExternal (id : NodeId) (v : Value)
  | inject (id : NodeId) (v : Value)
  | reset (id : NodeId)
  | resetAll
deriving DecidableEq

namespace NodeMemory

/-- Carry out an operation; only the beginning of a call tells something. -/
def operate (memory : NodeMemory) : MemoryOperation → Option Progress × NodeMemory
  | .beginCall id clock resetOnNewRun =>
    let (progress, memory) := memory.beginCall id clock resetOnNewRun
    (some progress, memory)
  | .recordResult id v => (none, memory.recordResult id v)
  | .setTemporal id temporal => (none, memory.setTemporal id temporal)
  | .setExternal id v => (none, memory.setExternal id v)
  | .inject id v => (none, memory.inject id v)
  | .reset id => (none, memory.reset id)
  | .resetAll => (none, memory.resetAll)

/-- The memory after a history of operations. -/
def afterHistory (memory : NodeMemory) (history : List MemoryOperation) : NodeMemory :=
  history.foldl (fun memory operation => (memory.operate operation).2) memory

end NodeMemory

end ClockedFormula
