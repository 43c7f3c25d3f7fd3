import ClockedFormula.NodeMemory.Operation
import ClockedFormula.Proofs.Table.Overlay
import Mathlib.Data.Finset.Card

namespace ClockedFormula

/-!
# What a memory tells about its history

The memory of calls is kept up to date operation by operation and stores no operation.  Nevertheless
everything that it holds of a call can be read off the history: each component is what the latest of
certain operations has set, and the components differ in how far one may look back for it.  A recorded
result is looked for in the whole history, a value from the host only back to the last reset, and what
a run gathers only back to the last reset or the start of the run.

The past of a memory is its history with the latest operation first.
-/

namespace MemoryOperation

/-! ## What an operation says about a call -/

/-- Whether an operation resets a call. -/
@[simp]
def resets (id : NodeId) : MemoryOperation → Bool
  | reset other => other = id
  | resetAll => true
  | _ => false

/-- The call that an operation other than a reset is about. -/
def touched? : MemoryOperation → Option NodeId
  | beginCall id _ _ => some id
  | recordResult id _ => some id
  | setTemporal id _ => some id
  | setExternal id _ => some id
  | inject id _ => some id
  | reset _ => none
  | resetAll => none

/-- Whether an operation is about a call: it touches the call or resets it. -/
def concerns (id : NodeId) (operation : MemoryOperation) : Bool :=
  operation.touched? = some id || operation.resets id

@[simp]
def recorded? (id : NodeId) : MemoryOperation → Option Value
  | recordResult other v => if other = id then some v else none
  | _ => none

@[simp]
def carried? (id : NodeId) : MemoryOperation → Option Temporal
  | setTemporal other temporal => if other = id then some temporal else none
  | _ => none

@[simp]
def shown? (id : NodeId) : MemoryOperation → Option Value
  | setExternal other v => if other = id then some v else none
  | _ => none

@[simp]
def fedIn? (id : NodeId) : MemoryOperation → Option Value
  | inject other v => if other = id then some v else none
  | _ => none

/-- The step at which an operation begins a call, if the clock shows one. -/
@[simp]
def begunAt? (id : NodeId) : MemoryOperation → Option UInt64
  | beginCall other clock _ => if other = id then clock.step else none
  | _ => none

/-- Whether a step lies before the last one, if there are both. -/
def goesBack : (step last : Option UInt64) → Bool
  | some now, some last => now < last
  | some _, none => false
  | none, _ => false

/-- Whether an operation starts a new run of a call that was last begun at a step: it begins the call
at an earlier step, and new runs reset. -/
@[simp]
def startsRun (id : NodeId) (last : Option UInt64) : MemoryOperation → Bool
  | beginCall other clock resetOnNewRun => other = id && resetOnNewRun && goesBack clock.step last
  | _ => false

end MemoryOperation

namespace NodeMemory

open MemoryOperation

/-! ## Looking back -/

/-- The operations since the last reset of a call. -/
def sinceReset (id : NodeId) (past : List MemoryOperation) : List MemoryOperation :=
  past.takeWhile fun operation => ! operation.resets id

/-- The step of the last clocked beginning of a call since its last reset. -/
def lastBegun? (id : NodeId) (past : List MemoryOperation) : Option UInt64 :=
  (sinceReset id past).findSome? (begunAt? id)

/-- The operations since the last reset of a call and since its run has started. -/
def sinceRun (id : NodeId) : (past : List MemoryOperation) → List MemoryOperation
  | [] => []
  | operation :: past =>
    if operation.resets id || operation.startsRun id (lastBegun? id past) then []
    else operation :: sinceRun id past

/-- What a past makes of the memory of a call. -/
def remembered (id : NodeId) (past : List MemoryOperation) : NodeState where
  lastValue := past.findSome? (recorded? id)
  lastStep := lastBegun? id past
  temporal := ((sinceRun id past).findSome? (carried? id)).getD .empty
  external := (sinceRun id past).findSome? (shown? id)
  injected := (sinceReset id past).findSome? (fedIn? id)

/-- How the clock has moved at the beginning of a call with a past. -/
def progressAfter (id : NodeId) (past : List MemoryOperation) (clock : Clock)
    (resetOnNewRun : Bool) : Progress :=
  match clock.step with
  | none => .unclocked
  | some now =>
    if lastBegun? id past = none ∨
        (MemoryOperation.beginCall id clock resetOnNewRun).startsRun id (lastBegun? id past) then
      .fresh
    else if lastBegun? id past = some now then .repeated
    else .advanced

theorem findSome?_cons_eq_or {α : Type} (tells? : MemoryOperation → Option α)
    (operation : MemoryOperation) (past : List MemoryOperation) :
    (operation :: past).findSome? tells? = (tells? operation).or (past.findSome? tells?) := by
  rw [List.findSome?_cons]
  cases tells? operation <;> rfl

theorem findSome?_sinceReset_cons {α : Type} (tells? : MemoryOperation → Option α) (id : NodeId)
    (operation : MemoryOperation) (past : List MemoryOperation) :
    (sinceReset id (operation :: past)).findSome? tells? =
      if operation.resets id then none
      else (tells? operation).or ((sinceReset id past).findSome? tells?) := by
  rw [sinceReset, List.takeWhile_cons]
  cases operation.resets id with
  | true => rfl
  | false => exact findSome?_cons_eq_or tells? operation (sinceReset id past)

theorem findSome?_sinceRun_cons {α : Type} (tells? : MemoryOperation → Option α) (id : NodeId)
    (operation : MemoryOperation) (past : List MemoryOperation) :
    (sinceRun id (operation :: past)).findSome? tells? =
      if operation.resets id || operation.startsRun id (lastBegun? id past) then none
      else (tells? operation).or ((sinceRun id past).findSome? tells?) := by
  rw [sinceRun]
  cases operation.resets id || operation.startsRun id (lastBegun? id past) with
  | true => rfl
  | false => exact findSome?_cons_eq_or tells? operation (sinceRun id past)

end NodeMemory

/-! ## One operation -/

/-- What an operation makes of the memory of a call: it takes back what a reset or a new run takes
back, and sets what it tells. -/
def NodeState.undergo (state : NodeState) (id : NodeId) (operation : MemoryOperation) : NodeState where
  lastValue := (operation.recorded? id).or state.lastValue
  lastStep := if operation.resets id then none else (operation.begunAt? id).or state.lastStep
  temporal :=
    if operation.resets id || operation.startsRun id state.lastStep then .empty
    else (operation.carried? id).getD state.temporal
  external :=
    if operation.resets id || operation.startsRun id state.lastStep then none
    else (operation.shown? id).or state.external
  injected := if operation.resets id then none else (operation.fedIn? id).or state.injected

/-- The beginning of a call notes the step, and drops what the previous run has gathered if it starts
a new one. -/
theorem NodeState.beginCall_snd (state : NodeState) (step : Option UInt64) (resetOnNewRun : Bool) :
    (state.beginCall step resetOnNewRun).2 =
      { (if resetOnNewRun && MemoryOperation.goesBack step state.lastStep then state.startRun
          else state) with
        lastStep := step.or state.lastStep } := by
  rcases state with ⟨lastValue, lastStep, temporal, external, injected⟩
  cases step with
  | none => cases resetOnNewRun <;> rfl
  | some now =>
    cases lastStep with
    | none => cases resetOnNewRun <;> rfl
    | some last =>
      by_cases back : now < last
      · have moved : now ≠ last := UInt64.ne_of_lt back
        cases resetOnNewRun <;> simp [beginCall, MemoryOperation.goesBack, back, moved, startRun]
      · by_cases same : now = last
        · simp [beginCall, MemoryOperation.goesBack, same]
        · simp [beginCall, MemoryOperation.goesBack, back, same]

namespace NodeState

theorem undergo_beginCall (state : NodeState) (id : NodeId) (clock : Clock) (resetOnNewRun : Bool) :
    state.undergo id (.beginCall id clock resetOnNewRun) =
      (state.beginCall clock.step resetOnNewRun).2 := by
  rw [beginCall_snd]
  cases back : resetOnNewRun && MemoryOperation.goesBack clock.step state.lastStep <;>
    simp [undergo, startRun, back]

theorem undergo_of_resets {operation : MemoryOperation} {id : NodeId}
    (resets : operation.resets id = true) (state : NodeState) :
    state.undergo id operation = state.reset := by
  cases operation with
  | reset other =>
    have itself : other = id := by simpa using resets
    simp [undergo, reset, startRun, itself]
  | resetAll => simp [undergo, reset, startRun]
  | _ => simp at resets

theorem undergo_of_not_concerns {operation : MemoryOperation} {id : NodeId}
    (apart : operation.concerns id = false) (state : NodeState) :
    state.undergo id operation = state := by
  cases operation <;> simp_all [MemoryOperation.concerns, MemoryOperation.touched?, undergo]

end NodeState

namespace NodeMemory

open MemoryOperation

/-- An operation other than a reset changes the memory of the call that it is about, which has an entry
from then on. -/
theorem operate_of_touched {operation : MemoryOperation} {other : NodeId}
    (touched : operation.touched? = some other) (memory : NodeMemory) :
    (memory.operate operation).2 = memory.modify other fun state => state.undergo other operation := by
  cases operation with
  | beginCall id clock resetOnNewRun =>
    cases Option.some.inj touched
    simp only [NodeState.undergo_beginCall]
    rfl
  | recordResult id v =>
    cases Option.some.inj touched
    simp [NodeState.undergo, operate, recordResult]
  | setTemporal id temporal =>
    cases Option.some.inj touched
    simp [NodeState.undergo, operate, setTemporal]
  | setExternal id v =>
    cases Option.some.inj touched
    simp [NodeState.undergo, operate, setExternal]
  | inject id v =>
    cases Option.some.inj touched
    simp [NodeState.undergo, operate, inject]
  | reset id => cases touched
  | resetAll => cases touched

/-- A reset finds entries and makes none. -/
theorem get?_operate_of_untouched {operation : MemoryOperation}
    (untouched : operation.touched? = none) (memory : NodeMemory) (id : NodeId) :
    (memory.operate operation).2.get? id =
      (memory.get? id).map fun state => state.undergo id operation := by
  cases operation with
  | reset other =>
    change (memory.reset other).get? id = _
    by_cases itself : other = id
    · have resets : (MemoryOperation.reset other).resets id = true := by simpa using itself
      subst itself
      simp only [NodeState.undergo_of_resets resets]
      cases found : memory.get? other with
      | none => simp only [NodeMemory.reset, found, Option.map_none]
      | some state =>
        simp only [NodeMemory.reset, found, Option.map_some]
        exact Table.get?_insert_self memory.nodes other state.reset
    · have apart : (MemoryOperation.reset other).concerns id = false := by
        simpa [concerns, touched?] using itself
      simp only [NodeState.undergo_of_not_concerns apart, Option.map_id']
      cases found : memory.get? other with
      | none => simp only [NodeMemory.reset, found]
      | some state => simp only [NodeMemory.reset, found, get?_setState_of_ne _ (Ne.symm itself)]
  | resetAll =>
    have resets : MemoryOperation.resetAll.resets id = true := rfl
    simp only [NodeState.undergo_of_resets resets]
    exact Table.get?_mapValues memory.nodes NodeState.reset id
  | beginCall => cases untouched
  | recordResult => cases untouched
  | setTemporal => cases untouched
  | setExternal => cases untouched
  | inject => cases untouched

theorem get?_operate (memory : NodeMemory) (id : NodeId) (operation : MemoryOperation) :
    (memory.operate operation).2.get? id =
      if operation.touched? = some id then some ((memory.state id).undergo id operation)
      else (memory.get? id).map fun state => state.undergo id operation := by
  cases touched : operation.touched? with
  | none =>
    rw [if_neg nofun]
    exact get?_operate_of_untouched touched memory id
  | some other =>
    rw [operate_of_touched touched, modify]
    by_cases itself : other = id
    · subst itself
      rw [if_pos rfl, get?, setState, Table.get?_insert_self]
    · have named : some other ≠ some id := fun equal => itself (Option.some.inj equal)
      have kept : operation.concerns id = false := by
        cases operation <;> simp_all [concerns, touched?]
      rw [if_neg named, get?_setState_of_ne memory (Ne.symm itself)]
      simp only [NodeState.undergo_of_not_concerns kept, Option.map_id']

theorem state_operate (memory : NodeMemory) (id : NodeId) (operation : MemoryOperation) :
    (memory.operate operation).2.state id = (memory.state id).undergo id operation := by
  rw [NodeMemory.state, get?_operate]
  by_cases touched : operation.touched? = some id
  · rw [if_pos touched]
    rfl
  · rw [if_neg touched, NodeMemory.state]
    cases memory.get? id with
    | some state => rfl
    | none =>
      -- Only an operation that touches the call could give it something to remember.
      cases operation <;> simp_all [touched?, NodeState.undergo, NodeState.blank]

theorem keys_operate (memory : NodeMemory) (operation : MemoryOperation) :
    (memory.operate operation).2.nodes.keys =
      match operation.touched? with
      | some id => if id ∈ memory.nodes.keys then memory.nodes.keys else memory.nodes.keys ++ [id]
      | none => memory.nodes.keys := by
  cases operation with
  | reset id =>
    change (memory.reset id).nodes.keys = memory.nodes.keys
    cases found : memory.get? id with
    | none => simp only [NodeMemory.reset, found]
    | some state =>
      have present : id ∈ memory.nodes.keys := Table.mem_keys_iff.mpr ⟨state, found⟩
      simp only [NodeMemory.reset, found, setState, Table.keys_insert, if_pos present]
  | resetAll => exact List.map_map
  | beginCall id clock resetOnNewRun => exact Table.keys_insert memory.nodes id _
  | recordResult id v => exact Table.keys_insert memory.nodes id _
  | setTemporal id temporal => exact Table.keys_insert memory.nodes id _
  | setExternal id v => exact Table.keys_insert memory.nodes id _
  | inject id v => exact Table.keys_insert memory.nodes id _

/-- Looking back over one more operation is what the operation makes of the memory. -/
theorem remembered_cons (id : NodeId) (operation : MemoryOperation) (past : List MemoryOperation) :
    remembered id (operation :: past) = (remembered id past).undergo id operation := by
  have step : lastBegun? id (operation :: past) =
      if operation.resets id then none else (operation.begunAt? id).or (lastBegun? id past) :=
    findSome?_sinceReset_cons (begunAt? id) id operation past
  have carried : (((sinceRun id (operation :: past)).findSome? (carried? id)).getD .empty) =
      if operation.resets id || operation.startsRun id (lastBegun? id past) then .empty
      else (operation.carried? id).getD
        (((sinceRun id past).findSome? (carried? id)).getD .empty) := by
    rw [findSome?_sinceRun_cons, apply_ite (Option.getD · Temporal.empty), Option.getD_or]
    rfl
  rw [remembered, step, carried, findSome?_sinceReset_cons, findSome?_sinceRun_cons,
    findSome?_cons_eq_or]
  rfl

/-! ## Whole histories -/

theorem afterHistory_concat (memory : NodeMemory) (history : List MemoryOperation)
    (operation : MemoryOperation) :
    memory.afterHistory (history ++ [operation]) =
      ((memory.afterHistory history).operate operation).2 := by
  rw [afterHistory, List.foldl_append]
  rfl

theorem state_afterHistory (history : List MemoryOperation) (id : NodeId) :
    (empty.afterHistory history).state id = remembered id history.reverse := by
  induction history using List.reverseRecOn with
  | nil => rfl
  | append_singleton history operation ih =>
    rw [afterHistory_concat, state_operate, ih, List.reverse_concat, remembered_cons]

/-- The calls with an entry are those that an operation other than a reset has been about, each of
them once. -/
theorem keys_afterHistory (history : List MemoryOperation) :
    (empty.afterHistory history).nodes.Distinct ∧
      ∀ id, id ∈ (empty.afterHistory history).nodes.keys ↔ id ∈ history.filterMap touched? := by
  induction history using List.reverseRecOn with
  | nil => exact ⟨List.nodup_nil, fun id => Iff.rfl⟩
  | append_singleton history operation ih =>
    rcases ih with ⟨distinct, members⟩
    rw [afterHistory_concat]
    cases touched : operation.touched? with
    | none =>
      have kept := keys_operate (empty.afterHistory history) operation
      rw [touched] at kept
      constructor
      · rw [Table.Distinct, kept]
        exact distinct
      · intro id
        simp [kept, members, touched]
    | some other =>
      constructor
      · rw [operate_of_touched touched]
        exact distinct.insert other _
      · intro id
        have last : [operation].filterMap touched? = [other] := by simp [touched]
        rw [keys_operate, touched, List.filterMap_append, List.mem_append, last,
          List.mem_singleton, ← members id]
        by_cases present : other ∈ (empty.afterHistory history).nodes.keys
        · simp only [if_pos present]
          constructor
          · exact .inl
          · rintro (before | rfl)
            · exact before
            · exact present
        · simp only [if_neg present, List.mem_append, List.mem_singleton]

theorem get?_afterHistory_filter (history : List MemoryOperation) (id : NodeId) :
    (empty.afterHistory (history.filter (concerns id))).get? id =
      (empty.afterHistory history).get? id := by
  induction history using List.reverseRecOn with
  | nil => rfl
  | append_singleton history operation ih =>
    rw [List.filter_append, afterHistory_concat]
    cases about : operation.concerns id with
    | true =>
      have same : (empty.afterHistory (history.filter (concerns id))).state id =
          (empty.afterHistory history).state id := by
        rw [NodeMemory.state, ih, NodeMemory.state]
      rw [List.filter_singleton, about, cond_true, afterHistory_concat, get?_operate, get?_operate,
        ih, same]
    | false =>
      have untouched : operation.touched? ≠ some id := by
        intro touched
        simp [concerns, touched] at about
      rw [List.filter_singleton, about, cond_false, List.append_nil, get?_operate,
        if_neg untouched, ih]
      simp only [NodeState.undergo_of_not_concerns about, Option.map_id']

theorem beginCall_fst {memory : NodeMemory} {id : NodeId} {past : List MemoryOperation}
    (tells : memory.state id = remembered id past) (clock : Clock) (resetOnNewRun : Bool) :
    (memory.beginCall id clock resetOnNewRun).1 = progressAfter id past clock resetOnNewRun := by
  have step : (memory.state id).lastStep = lastBegun? id past := congrArg NodeState.lastStep tells
  rw [beginCall, progressAfter]
  cases shown : clock.step with
  | none => cases (memory.state id).lastStep <;> rfl
  | some now =>
    cases called : lastBegun? id past with
    | none => simp [NodeState.beginCall, step, called]
    | some last =>
      by_cases back : now < last ∧ resetOnNewRun = true
      · simp [NodeState.beginCall, step, called, shown, goesBack, back.1, back.2]
      · by_cases same : now = last
        · simp [NodeState.beginCall, step, called, shown, goesBack, same]
        · have differs : last ≠ now := Ne.symm same
          have stays : ¬ (resetOnNewRun = true ∧ now < last) := fun both => back both.symm
          simp [NodeState.beginCall, step, called, shown, goesBack, same, differs, back, stays]

theorem size_afterHistory (history : List MemoryOperation) :
    (empty.afterHistory history).size = (history.filterMap touched?).toFinset.card := by
  rcases keys_afterHistory history with ⟨distinct, members⟩
  have same : (empty.afterHistory history).nodes.keys.toFinset =
      (history.filterMap touched?).toFinset := by
    ext id
    rw [List.mem_toFinset, List.mem_toFinset, members]
  rw [← same, List.toFinset_card_of_nodup distinct, Table.keys, List.length_map]
  rfl

/-- After any history each component of the memory of a call is what the history tells: the fed-in value
is the last one since the last reset, the result the last one recorded, what the run carries and shows
is what was last set since the run has started, and the next beginning of the call tells how the clock
has moved since the last one.  Operations on other calls do not matter, a reset makes no entry, and the
entries are those of the calls that other operations have been about. -/
theorem memory_tells_history (history : List MemoryOperation) (id : NodeId) :
    ((empty.afterHistory history).state id).injected =
        (sinceReset id history.reverse).findSome? (fedIn? id) ∧
      ((empty.afterHistory history).state id).lastValue =
        history.reverse.findSome? (recorded? id) ∧
      ((empty.afterHistory history).state id).temporal =
        ((sinceRun id history.reverse).findSome? (carried? id)).getD .empty ∧
      ((empty.afterHistory history).state id).external =
        (sinceRun id history.reverse).findSome? (shown? id) ∧
      (∀ clock resetOnNewRun,
        ((empty.afterHistory history).operate (.beginCall id clock resetOnNewRun)).1 =
            some (progressAfter id history.reverse clock resetOnNewRun) ∧
          ((empty.afterHistory history).operate (.beginCall id clock resetOnNewRun)).2.state id =
            { (if (MemoryOperation.beginCall id clock resetOnNewRun).startsRun id
                    (lastBegun? id history.reverse) then
                  ((empty.afterHistory history).state id).startRun
                else (empty.afterHistory history).state id) with
              lastStep := clock.step.or (lastBegun? id history.reverse) }) ∧
      (empty.afterHistory history).get? id =
        (empty.afterHistory (history.filter (concerns id))).get? id ∧
      ((empty.afterHistory history).reset id).nodes.keys =
        (empty.afterHistory history).nodes.keys ∧
      ((empty.afterHistory history).Holds id ↔ id ∈ history.filterMap touched?) ∧
      (empty.afterHistory history).size = (history.filterMap touched?).toFinset.card := by
  have tells := state_afterHistory history id
  refine ⟨congrArg NodeState.injected tells, congrArg NodeState.lastValue tells,
    congrArg NodeState.temporal tells, congrArg NodeState.external tells, ?_,
    (get?_afterHistory_filter history id).symm,
    keys_operate (empty.afterHistory history) (.reset id), ?_, size_afterHistory history⟩
  · intro clock resetOnNewRun
    constructor
    · exact congrArg some (beginCall_fst tells clock resetOnNewRun)
    · have step := congrArg NodeState.lastStep tells
      rw [state_operate, NodeState.undergo_beginCall, NodeState.beginCall_snd, step]
      simp [remembered]
  · rw [← (keys_afterHistory history).2 id, Table.mem_keys_iff, Holds, Option.isSome_iff_exists]
    rfl

end NodeMemory

end ClockedFormula
