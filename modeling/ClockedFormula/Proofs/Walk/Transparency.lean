import ClockedFormula.Proofs.Walk.Respelling

namespace ClockedFormula

open Walk

/-!
# Handlers that keep out of the way

A handler is passive if it neither claims nor fails, evaluates no argument and sets no flag.  All that is left
of it is that it was asked, and what it notes itself.  So two walks that differ in passive handlers are
compared from worlds that differ in their journals: the second one has notes between those of the first one.

There is one thing that a passive handler does to a walk.  Before any handler is asked, and when one goes on
that gave back control, the cancel flag is obeyed, and a walk without handlers would not look at it.  The
comparison is therefore one of walks that end with the flag clear.  Since no walk takes a flag back, it was
clear all the time, and it is for the first walk alone to keep it so.

A handler that is there already may go by how often it has been asked.  It is not to be asked more often
because of handlers that are inserted, so these have to be others.
-/

/-! ## Lists with more in them -/

/-- Whether a list is another one with extra elements inserted anywhere. -/
inductive Interspersed {α : Type} (extra : α → Prop) : List α → List α → Prop
  | nil : Interspersed extra [] []
  | keep (a : α) {list longer : List α} (rest : Interspersed extra list longer) :
    Interspersed extra (a :: list) (a :: longer)
  | insert {a : α} (isExtra : extra a) {list longer : List α} (rest : Interspersed extra list longer) :
    Interspersed extra list (a :: longer)

namespace Interspersed

variable {α β : Type} {extra : α → Prop} {list longer : List α}

theorem refl (extra : α → Prop) (list : List α) : Interspersed extra list list := by
  induction list with
  | nil => exact .nil
  | cons a rest ih => exact .keep a ih

theorem of_extras {extras : List α} (known : ∀ a ∈ extras, extra a) : Interspersed extra [] extras := by
  induction extras with
  | nil => exact .nil
  | cons a rest ih =>
    exact .insert (known a List.mem_cons_self) (ih fun b member => known b (List.mem_cons_of_mem a member))

theorem append (first : Interspersed extra list longer) {rest more : List α}
    (second : Interspersed extra rest more) : Interspersed extra (list ++ rest) (longer ++ more) := by
  induction first with
  | nil => exact second
  | keep a _ ih => exact .keep a ih
  | insert isExtra _ ih => exact .insert isExtra ih

theorem append_extras (interspersed : Interspersed extra list longer) {extras : List α}
    (known : ∀ a ∈ extras, extra a) : Interspersed extra list (longer ++ extras) := by
  have appended := interspersed.append (of_extras known)
  rwa [List.append_nil] at appended

/-- Where the extra elements do not count, there is no difference. -/
theorem filterMap_eq (interspersed : Interspersed extra list longer) {select : α → Option β}
    (passes : ∀ a, extra a → select a = none) : longer.filterMap select = list.filterMap select := by
  induction interspersed with
  | nil => rfl
  | keep a _ ih => rw [List.filterMap_cons, List.filterMap_cons, ih]
  | insert isExtra _ ih => rw [List.filterMap_cons_none (passes _ isExtra), ih]

end Interspersed

/-! ## Passive handlers -/

/-- Whether a program comes to its end without claiming anything, evaluating an argument or setting a flag.
That a handler was asked is noted by whoever asks it. -/
inductive Program.IsPassive : Program → Prop
  | done : IsPassive .done
  | look {next : Option Value → Program} (rest : ∀ claimed, IsPassive (next claimed)) :
    IsPassive (.look next)
  | peek (store : StoreId) (id : NodeId) {next : Readouts → Program}
    (rest : ∀ shown, IsPassive (next shown)) : IsPassive (.peek store id next)
  | suspend {next : Program} (rest : IsPassive next) : IsPassive (.suspend next)
  | note {entry : Note} (own : entry.asked? = none) {next : Program} (rest : IsPassive next) :
    IsPassive (.note entry next)

/-- Whether a handler answers everything with passive programs. -/
def Handler.IsPassive (handler : Handler) : Prop := ∀ request, (handler.respond request).IsPassive

/-- Whether a handler does not go by how often it has been asked. -/
def Handler.IsForgetful (handler : Handler) : Prop :=
  ∀ (request : Request) (timesAsked : Nat),
    handler.respond { request with timesAsked := timesAsked } = handler.respond request

/-- Whether a handler is none of those that are inserted, or does not go by how often it has been asked. -/
def Handler.StandsApart (inserted : Handler → Prop) (handler : Handler) : Prop :=
  (∀ other, inserted other → other.label ≠ handler.label) ∨ handler.IsForgetful

/-- Whether a note does not say that a handler was asked, or says so of one of the given handlers. -/
def Note.IsExtra (inserted : Handler → Prop) (entry : Note) : Prop :=
  ∀ label name, entry.asked? = some (label, name) → ∃ handler, inserted handler ∧ handler.label = label

theorem Note.isExtra_of_asked?_eq_none {inserted : Handler → Prop} {entry : Note}
    (own : entry.asked? = none) : entry.IsExtra inserted := by
  intro label name asked
  rw [own] at asked
  cases asked

/-- A world with more notes. -/
def World.addNotes (world : World) (notes : List Note) : World :=
  { world with journal := world.journal ++ notes }

section Passive

variable {context : Context} {root : StoreId} {arguments : List Argument} {world : World}

/-- A passive program leaves what is claimed as it is, and takes notes of its own. -/
theorem Program.IsPassive.run_eq {program : Program} (passive : program.IsPassive)
    (going : world.isCancelled root = false) (claimed : Option Value) :
    ∃ notes : List Note, (∀ entry ∈ notes, entry.asked? = none) ∧
      program.run root arguments claimed world = .ok claimed (world.addNotes notes) := by
  induction passive generalizing world with
  | done =>
    refine ⟨[], fun entry member => absurd member List.not_mem_nil, ?_⟩
    rw [World.addNotes, List.append_nil]
    rfl
  | look rest ih => exact ih claimed going
  | peek store id rest ih => exact ih (world.readouts store id) going
  | suspend rest ih =>
    rw [Program.run_suspend_of_not going]
    exact ih going
  | @note entry own next rest ih =>
    rcases @ih (world.addNote entry) going with ⟨notes, known, ran⟩
    refine ⟨entry :: notes, List.forall_mem_cons.mpr ⟨own, known⟩, ?_⟩
    have noted : (world.addNote entry).addNotes notes = world.addNotes (entry :: notes) := by
      simp [World.addNote, World.addNotes]
    rw [← noted, ← ran]
    rfl

/-- Asking a passive handler comes to asking those behind it, with notes in between. -/
theorem Handler.IsPassive.ask_eq {handler : Handler} (passive : handler.IsPassive)
    (going : world.isCancelled context.root = false) (name : String) (rest : List Handler)
    (claimed : Option Value) :
    ∃ notes : List Note, (∀ entry ∈ notes, entry.asked? = none) ∧
      consult.ask context name arguments (handler :: rest) claimed world =
        consult.ask context name arguments rest claimed
          (world.addNotes (.asked handler.label name :: notes)) := by
  have asked : (world.addNote (.asked handler.label name)).isCancelled context.root = false := going
  rcases (passive _).run_eq asked claimed with ⟨notes, own, ran⟩
  refine ⟨notes, own, ?_⟩
  have noted : (world.addNote (.asked handler.label name)).addNotes notes =
      world.addNotes (.asked handler.label name :: notes) := by
    simp [World.addNote, World.addNotes]
  rw [consult.ask_of_not going, consult.response, bind_ok ran, noted]

end Passive

/-! ## Worlds and walks -/

/-- The calls of some handlers that a journal holds, with the names about which they were asked. -/
def World.callsOf (world : World) (counts : String → Bool) : List (String × String) :=
  world.journal.filterMap fun entry => entry.asked?.filter fun call => counts call.1

theorem World.timesAsked_eq_length (world : World) (label : String) :
    world.timesAsked label = (world.callsOf (· == label)).length := by
  rw [timesAsked_eq_countP, List.countP_eq_length_filter, List.filter_filterMap]
  rfl

/-- Whether a world is another one with extra notes in its journal. -/
inductive World.HasExtraNotes (inserted : Handler → Prop) : World → World → Prop
  | intro (world : World) {journal : List Note}
    (notes : Interspersed (Note.IsExtra inserted) world.journal journal) :
    HasExtraNotes inserted world { world with journal := journal }

namespace World.HasExtraNotes

variable {inserted : Handler → Prop} {first second : World}

theorem refl (inserted : Handler → Prop) (world : World) : HasExtraNotes inserted world world :=
  .intro world (.refl _ _)

theorem journal (extra : HasExtraNotes inserted first second) :
    Interspersed (Note.IsExtra inserted) first.journal second.journal := by
  obtain ⟨interspersed⟩ := extra
  exact interspersed

/-- Inserted notes say nothing of the other handlers. -/
theorem callsOf_eq (extra : HasExtraNotes inserted first second) {counts : String → Bool}
    (others : ∀ handler, inserted handler → counts handler.label = false) :
    second.callsOf counts = first.callsOf counts := by
  refine extra.journal.filterMap_eq fun entry isExtra => ?_
  cases asked : entry.asked? with
  | none => rfl
  | some call =>
    obtain ⟨handler, isInserted, label⟩ := isExtra call.1 call.2 asked
    rw [Option.filter_some, ← label, others handler isInserted]
    rfl

theorem timesAsked_eq (extra : HasExtraNotes inserted first second) {label : String}
    (other : ∀ handler, inserted handler → handler.label ≠ label) :
    first.timesAsked label = second.timesAsked label := by
  have calls : second.callsOf (· == label) = first.callsOf (· == label) :=
    extra.callsOf_eq fun handler isInserted => beq_eq_false_iff_ne.mpr (other handler isInserted)
  rw [World.timesAsked_eq_length, World.timesAsked_eq_length, calls]

theorem addNotes (extra : HasExtraNotes inserted first second) {notes : List Note}
    (known : ∀ entry ∈ notes, entry.IsExtra inserted) :
    HasExtraNotes inserted first (second.addNotes notes) := by
  obtain ⟨interspersed⟩ := extra
  exact .intro first (interspersed.append_extras known)

theorem addNote (extra : HasExtraNotes inserted first second) (note : Note) :
    HasExtraNotes inserted (first.addNote note) (second.addNote note) := by
  obtain ⟨interspersed⟩ := extra
  exact .intro (first.addNote note) (interspersed.append (.refl _ [note]))

theorem cancelAt (extra : HasExtraNotes inserted first second) (place : Nat) :
    HasExtraNotes inserted (first.cancelAt place) (second.cancelAt place) := by
  obtain ⟨interspersed⟩ := extra
  unfold World.cancelAt
  dsimp only
  cases first.hosted[place]? with
  | none => exact .intro first interspersed
  | some id => exact .intro (first.setCancelled id true) interspersed

theorem isCancelled_eq (extra : HasExtraNotes inserted first second) (id : StoreId) :
    first.isCancelled id = second.isCancelled id := by
  obtain ⟨interspersed⟩ := extra
  rfl

theorem sharesMemory (inserted : Handler → Prop) : SharesMemory (HasExtraNotes inserted) where
  node := by
    rintro world _ ⟨notes⟩ store id
    rfl
  random := by
    rintro world _ ⟨notes⟩ store
    rfl
  setWorkspace := by
    rintro world _ ⟨notes⟩ store id workspace
    exact .intro (world.setWorkspace store id workspace) notes

end World.HasExtraNotes

/-- Whether a walk that ends with the flag clear is not disturbed by notes that are inserted, and the other
walk inserts no others.  The flag is never taken back. -/
structure Walk.Undisturbed (root : StoreId) (inserted : Handler → Prop) {α : Type} (walk other : Walk α) :
    Prop where
  stays : ∀ world, world.isCancelled root = true → (walk.leaves world).isCancelled root = true
  agrees : ∀ {first second}, World.HasExtraNotes inserted first second →
    (walk.leaves first).isCancelled root = false →
      walk.ending first = other.ending second ∧
        World.HasExtraNotes inserted (walk.leaves first) (other.leaves second)

namespace Walk.Undisturbed

open World (HasExtraNotes)

variable {root : StoreId} {inserted : Handler → Prop} {α β : Type} {walk other : Walk α}

theorem of_parallel (parallel : Parallel (HasExtraNotes inserted) walk other)
    (stays : ∀ world, world.isCancelled root = true → (walk.leaves world).isCancelled root = true) :
    Undisturbed root inserted walk other where
  stays := stays
  agrees extra _ := parallel _ _ extra

/-- The flag was clear at the beginning if it is clear in the end. -/
theorem going (undisturbed : Undisturbed root inserted walk other) {world : World}
    (after : (walk.leaves world).isCancelled root = false) : world.isCancelled root = false := by
  cases flag : world.isCancelled root with
  | false => rfl
  | true => exact absurd (undisturbed.stays world flag) (by rw [after]; decide)

theorem bind (undisturbed : Undisturbed root inserted walk other) {next later : α → Walk β}
    (rest : ∀ a, Undisturbed root inserted (next a) (later a)) :
    Undisturbed root inserted (walk >>= next) (other >>= later) where
  stays world set := by
    have kept := undisturbed.stays world set
    unfold leaves at kept ⊢
    cases done : walk world with
    | ok a after =>
      rw [done] at kept
      rw [bind_ok done]
      exact (rest a).stays after kept
    | error reason after =>
      rw [done] at kept
      rw [bind_error done]
      exact kept
  agrees {first second} extra clear := by
    cases done : walk first with
    | ok a after =>
      rw [leaves, bind_ok done] at clear
      have there : (walk.leaves first).isCancelled root = false := by
        rw [leaves_ok done]
        exact (rest a).going clear
      rcases undisturbed.agrees extra there with ⟨same, kept⟩
      rcases cases_of_ending same with ⟨b, here, alsoDone⟩ | ⟨reason, stopped, -⟩
      · cases done.symm.trans here
        unfold ending leaves
        rw [bind_ok done, bind_ok alsoDone]
        exact (rest a).agrees kept clear
      · cases done.symm.trans stopped
    | error reason after =>
      rw [leaves, bind_error done] at clear
      have there : (walk.leaves first).isCancelled root = false := by
        rw [leaves_error done]
        exact clear
      rcases undisturbed.agrees extra there with ⟨same, kept⟩
      rcases cases_of_ending same with ⟨b, here, -⟩ | ⟨other, stopped, alsoStopped⟩
      · cases done.symm.trans here
      · cases done.symm.trans stopped
        unfold ending leaves
        rw [bind_error done, bind_error alsoStopped]
        exact ⟨rfl, kept⟩

theorem catches (root : StoreId) (inserted : Handler → Prop) :
    Relation.Catches (Undisturbed root inserted) := by
  intro α walk other undisturbed
  exact {
    stays := fun world set => leaves_outcome walk world ▸ undisturbed.stays world set
    agrees := fun {first second} extra clear => by
      rw [leaves_outcome] at clear
      rcases undisturbed.agrees extra clear with ⟨ends, kept⟩
      refine ⟨?_, leaves_outcome walk first ▸ leaves_outcome other second ▸ kept⟩
      unfold ending outcome
      rcases cases_of_ending ends with ⟨a, here, there⟩ | ⟨reason, here, there⟩
      · rw [here, there]
      · rw [here, there]
        cases reason <;> rfl }

theorem sequential (root : StoreId) (inserted : Handler → Prop) : Sequential (Undisturbed root inserted) where
  yields a := .of_parallel ((Parallel.sequential _).yields a) fun _ => id
  stops reason := .of_parallel ((Parallel.sequential _).stops reason) fun _ => id
  sequences first rest := first.bind rest

/-- What handlers do on their own account is undisturbed. -/
theorem consulting (root : StoreId) (inserted : Handler → Prop) :
    Consulting root (Undisturbed root inserted) where
  toSequential := sequential root inserted
  checks := .of_parallel (.of_ok (isCancelled_eq root) (isCancelled_eq root) fun _ _ extra =>
    ⟨extra.isCancelled_eq root, extra⟩) fun _ => id
  cancels place := .of_parallel (.of_ok (cancel_eq place) (cancel_eq place) fun _ _ extra =>
    ⟨rfl, extra.cancelAt place⟩) fun _ set => World.isCancelled_cancelAt set place
  notes entry := .of_parallel (.of_ok (note_eq entry) (note_eq entry) fun _ _ extra =>
    ⟨rfl, extra.addNote entry⟩) fun _ => id

theorem shows (root : StoreId) (inserted : Handler → Prop) :
    Relation.Shows (Undisturbed root inserted) :=
  fun store id => .of_parallel ((HasExtraNotes.sharesMemory inserted).shows store id) fun _ set => set

/-- Calls are undisturbed. -/
theorem calling (root : StoreId) (inserted : Handler → Prop) : Calling (Undisturbed root inserted) where
  toSequential := sequential root inserted
  calls asks context id name := by
    have memory := HasExtraNotes.sharesMemory inserted
    refine (sequential root inserted).callOperands asks context id name
      (.of_parallel (memory.begins context id) fun world set => ?_)
      (.of_parallel (memory.reads context.store id) fun _ set => set)
      fun workspace => .of_parallel (memory.writes context.store id workspace) fun world set => ?_
    · rw [leaves_ok (beginCall_eq context id world), World.isCancelled_setNode, set]
    · rw [leaves_ok (Workspace.write_eq context.store id workspace world),
        World.isCancelled_setWorkspace, set]
  records store id v :=
    .of_parallel ((HasExtraNotes.sharesMemory inserted).records store id v) fun world set => by
      rw [leaves_ok (recordResult_eq store id v world), World.isCancelled_setNode, set]

/-- A handler has been asked as often in both walks if it is none of those that are inserted. -/
theorem counts (root : StoreId) {label : String}
    (other : ∀ handler, inserted handler → handler.label ≠ label) :
    Undisturbed root inserted (Walk.timesAsked label) (Walk.timesAsked label) :=
  .of_parallel (.of_ok (timesAsked_eq label) (timesAsked_eq label) fun _ _ extra =>
    ⟨extra.timesAsked_eq other, extra⟩) fun _ set => set

end Walk.Undisturbed

/-! ## Chains of handlers -/

section Chains

variable {inserted : Handler → Prop} {context other : Context} {arguments others : List Argument}

/-- A walk is not disturbed by handing the other one to a passive handler first. -/
theorem Walk.Undisturbed.ask_inserted {handler : Handler} (isInserted : inserted handler)
    (passive : handler.IsPassive) {name : String} {rest : List Handler} {claimed : Option Value}
    {walk : Walk (Option Value)}
    (undisturbed : Undisturbed other.root inserted walk (consult.ask other name others rest claimed)) :
    Undisturbed other.root inserted walk (consult.ask other name others (handler :: rest) claimed) where
  stays := undisturbed.stays
  agrees {first second} extra clear := by
    have going : second.isCancelled other.root = false :=
      (extra.isCancelled_eq other.root).symm.trans (undisturbed.going clear)
    rcases passive.ask_eq going name rest claimed with ⟨notes, own, asked⟩
    have known : ∀ entry ∈ Note.asked handler.label name :: notes, entry.IsExtra inserted := by
      refine List.forall_mem_cons.mpr ⟨fun label also same => ?_,
        fun entry member => Note.isExtra_of_asked?_eq_none (own entry member)⟩
      cases same
      exact ⟨handler, isInserted, rfl⟩
    unfold ending leaves
    rw [asked]
    exact undisturbed.agrees (extra.addNotes known) clear

/-- A chain of handlers claims the same with passive handlers inserted into it. -/
theorem Walk.Undisturbed.consult (passive : ∀ handler, inserted handler → handler.IsPassive)
    (views : context.view = other.view) (roots : context.root = other.root)
    (agree : Walk.Relation.OfArguments (Undisturbed context.root inserted) arguments others)
    (same : SameViews arguments others) {handlers longer : List Handler}
    (chains : Interspersed inserted handlers longer)
    (apart : ∀ handler ∈ handlers, handler.StandsApart inserted) (name : String) :
    Undisturbed context.root inserted (ClockedFormula.consult context handlers name arguments)
      (ClockedFormula.consult other longer name others) := by
  have steps := consulting context.root inserted
  have asked : ∀ claimed, Undisturbed context.root inserted
      (consult.ask context name arguments handlers claimed)
      (consult.ask other name others longer claimed) := by
    induction chains with
    | nil => exact fun claimed => steps.yields claimed
    | keep handler rest ih =>
      intro claimed
      have known := List.forall_mem_cons.mp apart
      rw [consult.ask_cons_eq, consult.ask_cons_eq, ← roots]
      apply steps.sequences steps.checks
      intro cancelled
      cases cancelled with
      | true => exact steps.stops (.failed .cancelled)
      | false =>
        have shown := shows context.root inserted
        have goes : ∀ program : Program, Undisturbed context.root inserted
            (Walk.note (.asked handler.label name) >>= fun _ =>
              program.run context.root arguments claimed >>= consult.ask context name arguments _)
            (Walk.note (.asked handler.label name) >>= fun _ =>
              program.run context.root others claimed >>= consult.ask other name others _) :=
          fun program => steps.sequences (steps.notes _) fun _ => steps.sequences
            (steps.run (catches context.root inserted) agree program (.inl shown) claimed) (ih known.2)
        simp only [← Context.request_congr views same]
        rcases known.1 with others | forgetful
        · exact (counts context.root others).bind fun timesAsked => goes _
        · have response : ∀ timesAsked, handler.respond (context.request name arguments timesAsked) =
              handler.respond (context.request name arguments 0) :=
            fun timesAsked => forgetful (context.request name arguments 0) timesAsked
          simp only [response]
          exact goes _
    | insert isInserted rest ih =>
      intro claimed
      have here := ih apart claimed
      rw [roots] at here ⊢
      exact here.ask_inserted isInserted (passive _ isInserted)
  exact asked none

end Chains

end ClockedFormula
