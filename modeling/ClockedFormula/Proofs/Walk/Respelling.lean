import ClockedFormula.Proofs.Text.LetterCase
import ClockedFormula.Proofs.Walk.Parallel

namespace ClockedFormula

open Walk

/-!
# Walks that differ in the spelling of names

A failure carries the name that it is about, in the spelling of the expression.  Two walks that differ in
spelling come to failures that differ in spelling, handlers are told of them, and may fail in the same way or
write them down.  All else is the same: values, stores, and what handlers are asked.

So walks are compared from worlds that differ only in what the notes say of failures.  A handler is taken by
the name that it is asked about: its programs for two requests with the same name do the same, whatever
spelling they meet in failures.
-/

/-! ## Failures and notes -/

/-- Whether two failures are the same but for the spelling of a name. -/
inductive EvalError.Respelled : EvalError → EvalError → Prop
  | same (e : EvalError) : Respelled e e
  | parameter {first second : String} (names : Text.Respelled first second) :
    Respelled (.parameterNotDefined first) (.parameterNotDefined second)
  | function {first second : String} (names : Text.Respelled first second) (hint : Option String) :
    Respelled (.functionNotFound first hint) (.functionNotFound second hint)

/-- Whether two attempts come to the same result, or fail in the same way but for the spelling of a name. -/
inductive Attempt.Respelled {α : Type} : Attempt α → Attempt α → Prop
  | ok (a : α) : Respelled (.ok a) (.ok a)
  | error {first second : EvalError} (failures : first.Respelled second) :
    Respelled (.error first) (.error second)

theorem Attempt.Respelled.refl {α : Type} (attempt : Attempt α) : Respelled attempt attempt := by
  cases attempt with
  | ok a => exact .ok a
  | error e => exact .error (.same e)

/-- Whether two interruptions are the same but for the spelling of a name. -/
inductive Interruption.Respelled : Interruption → Interruption → Prop
  | failed {first second : EvalError} (failures : first.Respelled second) :
    Respelled (.failed first) (.failed second)
  | dropped : Respelled .dropped .dropped
  | exhausted : Respelled .exhausted .exhausted

theorem Interruption.Respelled.refl (reason : Interruption) : reason.Respelled reason := by
  cases reason with
  | failed e => exact .failed (.same e)
  | dropped => exact .dropped
  | exhausted => exact .exhausted

/-- Whether two notes are the same but for the spelling of a name in a failure. -/
inductive Note.Respelled : Note → Note → Prop
  | same (note : Note) : Respelled note note
  | evaluated {first second : Attempt Value} (results : Attempt.Respelled first second) :
    Respelled (.evaluated first) (.evaluated second)

/-- The handler that was asked, and the name. -/
def Note.asked? : Note → Option (String × String)
  | asked handler name => some (handler, name)
  | claim _ => none
  | evaluated _ => none
  | form _ => none
  | context _ _ _ _ => none

/-- How often a handler has been asked is told by the notes that say so. -/
theorem World.timesAsked_eq_countP (world : World) (label : String) :
    world.timesAsked label = (world.journal.filterMap Note.asked?).countP fun call => call.1 == label := by
  have told : ∀ entry : Note, entry.saysAsked label = (entry.asked?.map fun call => call.1 == label).getD false := by
    intro entry
    cases entry <;> rfl
  rw [World.timesAsked, List.countP_filterMap]
  exact List.countP_congr fun entry _ => by rw [told]

theorem Note.Respelled.asked?_eq {first second : Note} (respelled : first.Respelled second) :
    first.asked? = second.asked? := by
  cases respelled <;> rfl

/-! ## Worlds -/

/-- Whether two worlds are the same but for the spelling of names in the failures that were noted. -/
structure World.Respelled (first second : World) : Prop where
  stores : first.stores = second.stores
  hosted : first.hosted = second.hosted
  journal : List.Forall₂ Note.Respelled first.journal second.journal

namespace World.Respelled

variable {first second : World}

theorem refl (world : World) : world.Respelled world :=
  ⟨rfl, rfl, List.forall₂_same.mpr fun note _ => .same note⟩

theorem store_eq (respelled : first.Respelled second) (id : StoreId) :
    first.store id = second.store id := by
  rw [World.store, World.store, respelled.stores]

theorem modifyStore (respelled : first.Respelled second) (id : StoreId) (change : Store → Store) :
    (first.modifyStore id change).Respelled (second.modifyStore id change) where
  stores := by
    unfold World.modifyStore World.setStore
    rw [respelled.store_eq, respelled.stores]
  hosted := respelled.hosted
  journal := respelled.journal

theorem cancelAt (respelled : first.Respelled second) (place : Nat) :
    (first.cancelAt place).Respelled (second.cancelAt place) := by
  unfold World.cancelAt
  rw [respelled.hosted]
  cases second.hosted[place]? with
  | none => exact respelled
  | some id => exact respelled.modifyStore id _

theorem addNote (respelled : first.Respelled second) {note other : Note}
    (notes : note.Respelled other) : (first.addNote note).Respelled (second.addNote other) where
  stores := respelled.stores
  hosted := respelled.hosted
  journal := List.rel_append respelled.journal (.cons notes .nil)

/-- Handlers are asked about the same names in the same order. -/
theorem asked_eq (respelled : first.Respelled second) :
    first.journal.filterMap Note.asked? = second.journal.filterMap Note.asked? := by
  have asked : ∀ {notes others : List Note}, List.Forall₂ Note.Respelled notes others →
      notes.filterMap Note.asked? = others.filterMap Note.asked? := by
    intro notes others related
    induction related with
    | nil => rfl
    | cons note _ ih => rw [List.filterMap_cons, List.filterMap_cons, note.asked?_eq, ih]
  exact asked respelled.journal

/-- Handlers have been asked as often. -/
theorem asked_as_often (respelled : first.Respelled second) (label : String) :
    first.timesAsked label = second.timesAsked label := by
  rw [World.timesAsked_eq_countP, World.timesAsked_eq_countP, respelled.asked_eq]

theorem sharesMemory : SharesMemory World.Respelled where
  node respelled store id := by rw [World.node, World.node, respelled.store_eq]
  random respelled store := by rw [World.random, World.random, respelled.store_eq]
  setWorkspace respelled store _ _ := respelled.modifyStore store _

/-- What a walk does is not changed by what the notes say. -/
theorem congruence (root : StoreId) : Congruence root (Parallel World.Respelled) where
  toSequential := Parallel.sequential _
  calls asks context id name :=
    (Parallel.sequential _).callOperands asks context id name (sharesMemory.begins context id)
      (sharesMemory.reads context.store id) (sharesMemory.writes context.store id)
  records := sharesMemory.records
  checks := .of_ok (isCancelled_eq root) (isCancelled_eq root) fun _ _ respelled =>
    ⟨congrArg Store.cancelled (respelled.store_eq root), respelled⟩
  cancels place := .of_ok (cancel_eq place) (cancel_eq place) fun _ _ respelled =>
    ⟨rfl, respelled.cancelAt place⟩
  notes entry := .of_ok (note_eq entry) (note_eq entry) fun _ _ respelled =>
    ⟨rfl, respelled.addNote (.same entry)⟩
  counts label := .of_ok (timesAsked_eq label) (timesAsked_eq label) fun _ _ respelled =>
    ⟨respelled.asked_as_often label, respelled⟩
  shows := sharesMemory.shows

end World.Respelled

/-! ## Walks -/

/-- Whether two walks come to values that are related, or are interrupted in the same way but for the
spelling of a name. -/
inductive Walk.Ends {α : Type} (values : α → α → Prop) :
    EStateM.Result Interruption World α → EStateM.Result Interruption World α → Prop
  | ok {a b : α} {after last : World} (related : values a b) (worlds : after.Respelled last) :
    Ends values (.ok a after) (.ok b last)
  | error {reason other : Interruption} {after last : World} (reasons : reason.Respelled other)
    (worlds : after.Respelled last) : Ends values (.error reason after) (.error other last)

/-- Whether two walks do the same but for the spelling of names, and come to values that are related. -/
def Walk.RespelledBy {α : Type} (values : α → α → Prop) (walk other : Walk α) : Prop :=
  ∀ first second, first.Respelled second → Ends values (walk first) (other second)

/-- Whether two walks do the same but for the spelling of names. -/
abbrev Walk.Respelled : Walk.Relation := fun walk other => RespelledBy Eq walk other

namespace Walk.RespelledBy

variable {α β : Type} {values : α → α → Prop} {results : β → β → Prop} {walk other : Walk α}

theorem yields {a b : α} (related : values a b) :
    RespelledBy values (pure a : Walk α) (pure b) :=
  fun _ _ worlds => .ok related worlds

theorem stops {reason also : Interruption} (reasons : reason.Respelled also) :
    RespelledBy values (throw reason : Walk α) (throw also) :=
  fun _ _ worlds => .error reasons worlds

theorem fails {e also : EvalError} (failures : e.Respelled also) :
    RespelledBy values (Walk.fail e : Walk α) (Walk.fail also) :=
  stops (.failed failures)

/-- What two walks come to from worlds that differ in spelling. -/
theorem cases (respelled : RespelledBy values walk other) {first second : World}
    (worlds : first.Respelled second) :
    (∃ a b after last, walk first = .ok a after ∧ other second = .ok b last ∧ values a b ∧
        after.Respelled last) ∨
      ∃ reason also after last, walk first = .error reason after ∧ other second = .error also last ∧
        reason.Respelled also ∧ after.Respelled last := by
  have ends := respelled first second worlds
  generalize walk first = result, other second = alsoResult at ends ⊢
  cases ends with
  | ok related worlds => exact .inl ⟨_, _, _, _, rfl, rfl, related, worlds⟩
  | error reasons worlds => exact .inr ⟨_, _, _, _, rfl, rfl, reasons, worlds⟩

theorem bind (respelled : RespelledBy values walk other) {next later : α → Walk β}
    (rest : ∀ a b, values a b → RespelledBy results (next a) (later b)) :
    RespelledBy results (walk >>= next) (other >>= later) := by
  intro first second worlds
  rcases respelled.cases worlds with ⟨a, b, after, last, here, there, related, kept⟩ |
    ⟨reason, also, after, last, here, there, reasons, kept⟩
  · rw [bind_ok here, bind_ok there]
    exact rest a b related after last kept
  · rw [bind_error here, bind_error there]
    exact .error reasons kept

theorem of_parallel (parallel : Parallel World.Respelled walk other) : Walk.Respelled walk other := by
  intro first second worlds
  rcases parallel.cases worlds with ⟨a, after, last, here, there, kept⟩ |
    ⟨reason, after, last, here, there, kept⟩
  · rw [here, there]
    exact .ok rfl kept
  · rw [here, there]
    exact .error (.refl reason) kept

theorem sequential : Sequential Walk.Respelled where
  yields _ := yields rfl
  stops reason := stops (.refl reason)
  sequences respelled rest := bind respelled fun a _ same => same ▸ rest a

/-- What handlers are told of two walks differs in the spelling of failures. -/
theorem outcome (respelled : Walk.Respelled walk other) :
    RespelledBy Attempt.Respelled walk.outcome other.outcome := by
  intro first second worlds
  unfold Walk.outcome
  rcases respelled.cases worlds with ⟨a, b, after, last, here, there, same, kept⟩ |
    ⟨reason, also, after, last, here, there, reasons, kept⟩
  · rw [here, there]
    exact .ok (same ▸ .ok a) kept
  · rw [here, there]
    cases reasons with
    | failed failures => exact .ok (.error failures) kept
    | dropped => exact .error .dropped kept
    | exhausted => exact .error .exhausted kept

end Walk.RespelledBy

/-! ## Handlers -/

/-- Whether two programs do the same, whatever spelling they meet in the failures that they are told of. -/
inductive Program.Respelled : Program → Program → Prop
  | done : Respelled .done .done
  | fail {e also : EvalError} (failures : e.Respelled also) : Respelled (.fail e) (.fail also)
  | claim (v : Value) {next later : Program} (rest : Respelled next later) :
    Respelled (.claim v next) (.claim v later)
  | look {next later : Option Value → Program} (rest : ∀ claimed, Respelled (next claimed) (later claimed)) :
    Respelled (.look next) (.look later)
  | evaluate (position : Nat) {next later : Attempt Value → Program}
    (rest : ∀ result also, Attempt.Respelled result also → Respelled (next result) (later also)) :
    Respelled (.evaluate position next) (.evaluate position later)
  | peek (store : StoreId) (id : NodeId) {next later : Readouts → Program}
    (rest : ∀ shown, Respelled (next shown) (later shown)) :
    Respelled (.peek store id next) (.peek store id later)
  | suspend {next later : Program} (rest : Respelled next later) :
    Respelled (.suspend next) (.suspend later)
  | cancel (place : Nat) {next later : Program} (rest : Respelled next later) :
    Respelled (.cancel place next) (.cancel place later)
  | note {entry also : Note} (notes : entry.Respelled also) {next later : Program}
    (rest : Respelled next later) : Respelled (.note entry next) (.note also later)

/-- Whether what a handler does depends only on the name that it is asked about, and on what it remembers. -/
def Handler.GoesByName (handler : Handler) : Prop :=
  ∀ first second : Request, first.name = second.name → first.timesAsked = second.timesAsked →
    (handler.respond first).Respelled (handler.respond second)

section Handlers

variable {root : StoreId} {context : Context} {arguments others : List Argument}

/-- Whether the walks to two rows of arguments do the same but for the spelling of names. -/
abbrev RespelledArguments (arguments others : List Argument) : Prop :=
  Walk.Relation.OfArguments Walk.Respelled arguments others

theorem answerAt_respelled (agree : RespelledArguments arguments others) (position : Nat) :
    RespelledBy Attempt.Respelled (answerAt arguments position) (answerAt others position) := by
  unfold answerAt
  by_cases inside : position < arguments.length
  · have also : position < others.length := agree.length_eq ▸ inside
    rw [List.getElem?_eq_getElem inside, List.getElem?_eq_getElem also]
    exact RespelledBy.outcome (agree.get inside also)
  · have also : ¬ position < others.length := agree.length_eq ▸ inside
    rw [List.getElem?_eq_none (Nat.not_lt.mp inside), List.getElem?_eq_none (Nat.not_lt.mp also)]
    exact .yields (.refl _)

theorem Program.Respelled.run (agree : RespelledArguments arguments others) {program other : Program}
    (respelled : program.Respelled other) (claimed : Option Value) :
    Walk.Respelled (program.run root arguments claimed) (other.run root others claimed) := by
  have steps := World.Respelled.congruence root
  induction respelled generalizing claimed with
  | done => exact .yields rfl
  | fail failures => exact .fails failures
  | claim v rest ih => exact ih (claimed.or (some v))
  | look rest ih => exact ih claimed claimed
  | evaluate position rest ih =>
    rw [Program.run_evaluate, Program.run_evaluate]
    exact (answerAt_respelled agree position).bind fun result also same => ih result also same claimed
  | peek store id rest ih =>
    refine (RespelledBy.of_parallel (steps.shows store id)).bind fun shown also same => ?_
    subst same
    exact ih shown claimed
  | suspend rest ih =>
    refine (RespelledBy.of_parallel steps.checks).bind fun cancelled also same => ?_
    subst same
    cases cancelled with
    | true => exact .stops .dropped
    | false => exact ih claimed
  | cancel place rest ih =>
    exact (RespelledBy.of_parallel (steps.cancels place)).bind fun _ _ _ => ih claimed
  | @note entry also notes next later rest ih =>
    have noted : Walk.Respelled (Walk.note entry) (Walk.note also) :=
      fun _ _ worlds => .ok rfl (worlds.addNote notes)
    exact noted.bind fun _ _ _ => ih claimed

/-- Handlers that go by names do the same if they are asked about the same name. -/
theorem consult_respelled {handlers : List Handler} (goByName : ∀ handler ∈ handlers, handler.GoesByName)
    (agree : RespelledArguments arguments others) (name : String) :
    Walk.Respelled (consult context handlers name arguments)
      (consult context handlers name others) := by
  have steps := World.Respelled.congruence context.root
  have asked : ∀ claimed, Walk.Respelled (consult.ask context name arguments handlers claimed)
      (consult.ask context name others handlers claimed) := by
    induction handlers with
    | nil => exact fun claimed => .yields rfl
    | cons handler rest ih =>
      intro claimed
      unfold consult.ask
      refine (RespelledBy.of_parallel steps.checks).bind fun cancelled also same => ?_
      subst same
      cases cancelled with
      | true => exact .fails (.same .cancelled)
      | false =>
        refine (RespelledBy.of_parallel (steps.counts _)).bind fun timesAsked also same => ?_
        subst same
        refine (RespelledBy.of_parallel (steps.notes _)).bind fun _ _ _ => ?_
        have answers := goByName handler List.mem_cons_self (context.request name arguments timesAsked)
          (context.request name others timesAsked) rfl rfl
        refine (answers.run agree claimed).bind fun claim also same => ?_
        subst same
        exact ih (fun other member => goByName other (List.mem_cons_of_mem handler member)) claim
  exact asked none

end Handlers

end ClockedFormula
