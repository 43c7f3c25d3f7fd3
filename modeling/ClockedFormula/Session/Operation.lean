import ClockedFormula.Session
/-!
# Operations on formulas

What a host does again and again with a formula and its clones, as data: it evaluates them, binds names to
values, feeds and resets calls, and looks at what calls show.  Most of this is carried out by commands, but
here calls are meant by their identity, and need not occur in the formula.
-/

namespace ClockedFormula

/-- An operation on a formula. -/
inductive FormulaOperation where
  | evaluate (clock : Clock)
  | bind (name : String) (v : Value)
  | unbind (name : String)
  | clone
  | inject (id : NodeId) (v : Value)
  | resetCall (id : NodeId)
  | reset
  | externalValue (id : NodeId)

namespace Session

/-- Carry out an operation on the formula at an index, if there is one. -/
def operate? (session : Session) (index : Nat) : FormulaOperation → Option (Reply × Session)
  | .evaluate clock => session.perform? index (.evaluate clock)
  | .bind name v => session.perform? index (.bind name (.value v))
  | .unbind name => session.perform? index (.unbind name)
  | .clone => session.perform? index .clone
  | .inject id v => session.formulas[index]?.map fun f =>
    (.done, session.modifyMemory f fun memory => memory.inject id v)
  | .resetCall id => session.formulas[index]?.map fun f =>
    (.done, session.modifyMemory f fun memory => memory.reset id)
  | .reset => session.perform? index .reset
  | .externalValue id => session.formulas[index]?.map fun f =>
    (.value ((session.memoryOf f).state id).external, session)

section Found

variable {session : Session} {index : Nat} {f : Formula}

theorem operate?_of_none (absent : session.formulas[index]? = none) (operation : FormulaOperation) :
    session.operate? index operation = none := by
  cases operation <;> simp [operate?, perform?, absent]

theorem operate?_evaluate (found : session.formulas[index]? = some f) (clock : Clock) :
    session.operate? index (.evaluate clock) =
      some (.outcome (f.evaluateAt clock session.world).1,
        { session with world := (f.evaluateAt clock session.world).2 }) := by
  simp [operate?, perform?, found]

theorem operate?_bind (found : session.formulas[index]? = some f) (name : String) (v : Value) :
    session.operate? index (.bind name v) =
      some (.done, session.replace index (f.bind name (.value v))) := by
  simp [operate?, perform?, found, binding?]

theorem operate?_unbind (found : session.formulas[index]? = some f) (name : String) :
    session.operate? index (.unbind name) =
      some (.flag (f.bindings.get? name).isSome, session.replace index (f.unbind name)) := by
  simp [operate?, perform?, found]

theorem operate?_clone (found : session.formulas[index]? = some f) :
    session.operate? index .clone =
      some (.index session.formulas.length,
        ⟨session.formulas ++ [f], session.world.host f.store⟩) := by
  simp [operate?, perform?, found]

theorem operate?_inject (found : session.formulas[index]? = some f) (id : NodeId) (v : Value) :
    session.operate? index (.inject id v) =
      some (.done, session.modifyMemory f fun memory => memory.inject id v) := by
  simp [operate?, found]

theorem operate?_resetCall (found : session.formulas[index]? = some f) (id : NodeId) :
    session.operate? index (.resetCall id) =
      some (.done, session.modifyMemory f fun memory => memory.reset id) := by
  simp [operate?, found]

theorem operate?_reset (found : session.formulas[index]? = some f) :
    session.operate? index .reset = some (.done, session.modifyMemory f NodeMemory.resetAll) := by
  simp [operate?, perform?, found]

theorem operate?_externalValue (found : session.formulas[index]? = some f) (id : NodeId) :
    session.operate? index (.externalValue id) =
      some (.value ((session.memoryOf f).state id).external, session) := by
  simp [operate?, found]

/-- Where a call is meant by its place, a command is an operation on the call at that place. -/
theorem perform?_eq_operate? (found : session.formulas[index]? = some f) {place : Nat} {id : NodeId}
    (called : call? f place = some id) (v : Value) :
    session.perform? index (.inject place v) = session.operate? index (.inject id v) ∧
      session.perform? index (.resetCall place) = session.operate? index (.resetCall id) ∧
      session.perform? index (.externalValue place) = session.operate? index (.externalValue id) := by
  simp [operate?, perform?, found, called]

end Found

/-- What the host learns from one operation after the other; it learns nothing from an operation on a
formula that does not exist. -/
def repliesTo (session : Session) : List (Nat × FormulaOperation) → List (Option Reply)
  | [] => []
  | (index, operation) :: rest =>
    match session.operate? index operation with
    | some (reply, after) => some reply :: after.repliesTo rest
    | none => none :: session.repliesTo rest

end Session

end ClockedFormula
