import ClockedFormula.Proofs.Evaluation.Composition
import ClockedFormula.Proofs.Walk.Handler
import Mathlib.Data.List.Forall2

namespace ClockedFormula

open Walk

/-!
# Relations between walks

Walks are compared in several ways: one may go on where another one is interrupted, or both may start in
worlds that differ in something that should not matter.  Each way is a relation between walks.

A relation is a congruence if it relates every single step to itself, and walks in sequence if it relates
their parts.  Then it relates whole evaluations whose parts it relates.  This is proved here once, from
recipes up to expressions, so that whoever compares walks has to look at single steps only.

A call of a built-in function is such a step, given its operands.  What it reads of its memory need not be
the same in both walks, as long as nothing else comes of it.  Where it is the same,
`Walk.Sequential.callOperands` puts the call together from smaller steps.

Handlers can learn more than calls can: how often they have been asked, and what calls show to whoever looks.
Not every relation takes this to be the same in both walks, so these two are kept apart from the other steps.
-/

/-- A relation between walks with results of one type. -/
abbrev Walk.Relation : Type 1 := ∀ {α : Type}, Walk α → Walk α → Prop

/-- Whether a relation between walks holds where no world is touched, and carries over to sequences. -/
structure Walk.Sequential (related : Walk.Relation) : Prop where
  yields : ∀ {α : Type} (a : α), related (pure a : Walk α) (pure a)
  stops : ∀ {α : Type} (reason : Interruption), related (throw reason : Walk α) (throw reason)
  sequences : ∀ {α β : Type} {first second : Walk α} {next later : α → Walk β},
    related first second → (∀ a, related (next a) (later a)) →
      related (first >>= next) (second >>= later)

/-- Whether a relation between walks holds of calls whose operands are related, and carries over to
sequences. -/
structure Walk.Calling (related : Walk.Relation) : Prop extends Walk.Sequential related where
  calls : ∀ {count : Nat} {operands others : Fin count → Walk Value},
    (∀ position, related (operands position) (others position)) →
      ∀ context id name, related (callOperands context id name count operands)
        (callOperands context id name count others)
  records : ∀ store id v,
    related (Walk.modifyMemory store fun memory => memory.recordResult id v)
      (Walk.modifyMemory store fun memory => memory.recordResult id v)

/-- Whether a relation between walks that obey a cancel flag holds of what handlers do on their own account, and
carries over to sequences. -/
structure Walk.Consulting (root : StoreId) (related : Walk.Relation) : Prop
    extends Walk.Sequential related where
  checks : related (Walk.isCancelled root) (Walk.isCancelled root)
  cancels : ∀ place, related (Walk.cancel place) (Walk.cancel place)
  notes : ∀ entry, related (Walk.note entry) (Walk.note entry)

/-- Whether handlers remember the same besides. -/
structure Walk.Asking (root : StoreId) (related : Walk.Relation) : Prop
    extends Walk.Consulting root related where
  counts : ∀ label, related (Walk.timesAsked label) (Walk.timesAsked label)

/-- Whether what calls show is the same in both walks. -/
def Walk.Relation.Shows (related : Walk.Relation) : Prop :=
  ∀ store id, related (Walk.readouts store id) (Walk.readouts store id)

/-- Whether a relation between walks that obey a cancel flag holds of single steps and carries over to
sequences. -/
structure Walk.Congruence (root : StoreId) (related : Walk.Relation) : Prop
    extends Walk.Asking root related, Walk.Calling related where
  shows : Walk.Relation.Shows related

/-- Whether a relation carries over to the outcomes for which handlers ask. -/
def Walk.Relation.Catches (related : Walk.Relation) : Prop :=
  ∀ {α : Type} {first second : Walk α}, related first second → related first.outcome second.outcome

/-- Whether arguments stand for walks that are related, place by place. -/
def Walk.Relation.OfArguments (related : Walk.Relation) (arguments others : List Argument) : Prop :=
  List.Forall₂ (fun first second => related first.value second.value) arguments others

/-- Whether handlers see the same expressions in two rows of arguments. -/
def SameViews (arguments others : List Argument) : Prop :=
  arguments.map Argument.expression = others.map Argument.expression

/-- A handler is asked the same in contexts that look the same to it. -/
theorem Context.request_congr {context other : Context} (views : context.view = other.view)
    {arguments others : List Argument} (same : SameViews arguments others) (name : String)
    (timesAsked : Nat) :
    context.request name arguments timesAsked = other.request name others timesAsked := by
  have mapped := congrArg (List.map fun e => (⟨e, other.view⟩ : ArgumentView)) same
  rw [List.map_map, List.map_map] at mapped
  unfold request
  rw [views]
  exact congrArg (fun seen => (⟨name, seen, timesAsked⟩ : Request)) mapped

section Delay

variable {enter enterAlso : Context → Formula → Walk Value} {context other : Context}
  {arguments : List Expr}

/-- Arguments go together if the evaluations of their expressions do. -/
theorem Walk.Relation.ofArguments_delay {related : Walk.Relation}
    (evaluations : ∀ e ∈ arguments, related (evaluate enter context e) (evaluate enterAlso other e)) :
    related.OfArguments (delay enter context arguments) (delay enterAlso other arguments) := by
  rw [delay_eq_map, delay_eq_map, Walk.Relation.OfArguments, List.forall₂_map_left_iff,
    List.forall₂_map_right_iff, List.forall₂_same]
  exact evaluations

theorem sameViews_delay (enter enterAlso : Context → Formula → Walk Value) (context other : Context)
    (arguments : List Expr) :
    SameViews (delay enter context arguments) (delay enterAlso other arguments) := by
  rw [SameViews, delay_eq_map, delay_eq_map, List.map_map, List.map_map]
  rfl

end Delay

/-! ## Recipes and calls -/

namespace Walk.Sequential

variable {related : Walk.Relation} {α : Type}

theorem ofAttempt (sequential : Sequential related) (attempt : Attempt α) :
    related (Walk.ofAttempt attempt) (Walk.ofAttempt attempt) := by
  cases attempt with
  | ok a => exact sequential.yields a
  | error e => exact sequential.stops (.failed e)

variable {count : Nat} {operands others : Fin count → Walk Value}

/-- Walks to the operands that are related give walks that are related. -/
theorem follow (sequential : Sequential related)
    (asks : ∀ position, related (operands position) (others position)) {σ : Type} {read : Walk σ}
    {write : σ → Walk Unit} (reads : related read read)
    (writes : ∀ state, related (write state) (write state)) (recipe : Recipe σ count α) :
    related (recipe.follow operands read write) (recipe.follow others read write) := by
  induction recipe with
  | answer a => exact sequential.yields a
  | fail e => exact sequential.stops (.failed e)
  | ask position next ih => exact sequential.sequences (asks position) ih
  | readState next ih => exact sequential.sequences reads ih
  | writeState state next ih => exact sequential.sequences (writes state) fun _ => ih

theorem followPlain (sequential : Sequential related)
    (asks : ∀ position, related (operands position) (others position))
    (recipe : Recipe Unit count α) :
    related (recipe.followPlain operands) (recipe.followPlain others) :=
  sequential.follow asks (sequential.yields ()) (fun _ => sequential.yields ()) recipe

/-- A call is related if the steps are by which it comes to its memory. -/
theorem callOperands (sequential : Sequential related)
    (asks : ∀ position, related (operands position) (others position)) (context : Context)
    (id : NodeId) (name : String)
    (begins : related (beginCall context id) (beginCall context id))
    (reads : related (Workspace.read context.store id) (Workspace.read context.store id))
    (writes : ∀ workspace, related (Workspace.write context.store id workspace)
      (Workspace.write context.store id workspace)) :
    related (ClockedFormula.callOperands context id name count operands)
      (ClockedFormula.callOperands context id name count others) := by
  unfold ClockedFormula.callOperands
  apply sequential.sequences (sequential.ofAttempt _)
  intro f
  cases f with
  | math f =>
    dsimp only
    cases f.recipe? context.options.roundAwayFromZero count with
    | none => exact sequential.stops _
    | some recipe => exact sequential.followPlain asks recipe
  | temporal f =>
    dsimp only
    cases f.recipe? count with
    | none => exact sequential.stops _
    | some recipe =>
      exact sequential.sequences begins fun progress => sequential.follow asks reads writes _

/-- A name is related if the formula is to which it is bound, or else what the handlers claim. -/
theorem evaluateIdentifier (sequential : Sequential related) {context : Context}
    {enter enterAlso : Context → Formula → Walk Value} {name : String}
    (opens : ∀ f, context.find? name = some (.formula f) →
      related (enter context f) (enterAlso context f))
    (consulted : related (ClockedFormula.consult context context.identifierHandlers (context.foldName name) [])
      (ClockedFormula.consult context context.identifierHandlers (context.foldName name) [])) :
    related (ClockedFormula.evaluateIdentifier enter context name)
      (ClockedFormula.evaluateIdentifier enterAlso context name) := by
  unfold ClockedFormula.evaluateIdentifier
  cases found : context.find? name with
  | some binding =>
    cases binding with
    | value v => exact sequential.yields v
    | formula f => exact opens f found
  | none =>
    cases context.clockReading? name with
    | some v => exact sequential.yields v
    | none =>
      apply sequential.sequences consulted
      intro claimed
      cases claimed with
      | some v => exact sequential.yields v
      | none => exact sequential.stops _

/-- A call is related if what the handlers claim is, and what the built-in function does. -/
theorem evaluateCall (sequential : Sequential related) {context : Context} {id : NodeId} {name : String}
    {arguments others : List Argument}
    (consulted : related
      (ClockedFormula.consult context context.functionHandlers (context.foldName name) arguments)
      (ClockedFormula.consult context context.functionHandlers (context.foldName name) others))
    (called : related (callFunction context id name arguments) (callFunction context id name others))
    (records : ∀ v, related
      (Walk.modifyMemory context.store fun memory => memory.recordResult id v)
      (Walk.modifyMemory context.store fun memory => memory.recordResult id v)) :
    related (ClockedFormula.evaluateCall context id name arguments)
      (ClockedFormula.evaluateCall context id name others) := by
  have notes : ∀ v, related
      (Walk.modifyMemory context.store (fun memory => memory.recordResult id v) >>= fun _ => pure v)
      (Walk.modifyMemory context.store (fun memory => memory.recordResult id v) >>= fun _ => pure v) :=
    fun v => sequential.sequences (records v) fun _ => sequential.yields v
  unfold ClockedFormula.evaluateCall
  apply sequential.sequences consulted
  intro claimed
  cases claimed with
  | some v => exact notes v
  | none => exact sequential.sequences called notes

end Walk.Sequential

/-! ## Handlers -/

/-- Whether nothing that a program does depends on what it is shown of calls. -/
def Program.OverlooksReadouts : Program → Prop
  | done => True
  | fail _ => True
  | claim _ next => next.OverlooksReadouts
  | look next => ∀ claimed, (next claimed).OverlooksReadouts
  | evaluate _ next => ∀ result, (next result).OverlooksReadouts
  | peek _ _ next =>
    (∀ shown other, next shown = next other) ∧ ∀ shown, (next shown).OverlooksReadouts
  | suspend next => next.OverlooksReadouts
  | cancel _ next => next.OverlooksReadouts
  | note _ next => next.OverlooksReadouts

/-- Whether a handler answers everything with programs that do not depend on what they are shown of calls. -/
def Handler.OverlooksReadouts (handler : Handler) : Prop :=
  ∀ request, (handler.respond request).OverlooksReadouts

/-- A program that overlooks what it is shown goes on as if it had not looked. -/
theorem Program.run_peek_of_overlooks {store : StoreId} {id : NodeId} {next : Readouts → Program}
    (same : ∀ shown other, next shown = next other) (root : StoreId) (arguments : List Argument)
    (claimed : Option Value) (shown : Readouts) :
    (peek store id next).run root arguments claimed = (next shown).run root arguments claimed := by
  funext world
  rw [same shown (world.readouts store id)]
  rfl

namespace Walk.Consulting

variable {root : StoreId} {related : Walk.Relation} {arguments others : List Argument}

theorem answerAt (consulting : Consulting root related) (catches : related.Catches)
    (agree : related.OfArguments arguments others) (position : Nat) :
    related (ClockedFormula.answerAt arguments position)
      (ClockedFormula.answerAt others position) := by
  unfold ClockedFormula.answerAt
  by_cases inside : position < arguments.length
  · have also : position < others.length := agree.length_eq ▸ inside
    rw [List.getElem?_eq_getElem inside, List.getElem?_eq_getElem also]
    exact catches (agree.get inside also)
  · have also : ¬ position < others.length := agree.length_eq ▸ inside
    rw [List.getElem?_eq_none (Nat.not_lt.mp inside), List.getElem?_eq_none (Nat.not_lt.mp also)]
    exact consulting.yields _

/-- A program meets its arguments only by what they answer, and calls only by what they show. -/
theorem run (consulting : Consulting root related) (catches : related.Catches)
    (agree : related.OfArguments arguments others) (program : Program)
    (sees : related.Shows ∨ program.OverlooksReadouts) (claimed : Option Value) :
    related (program.run root arguments claimed) (program.run root others claimed) := by
  induction program generalizing claimed with
  | done => exact consulting.yields claimed
  | fail e => exact consulting.stops (.failed e)
  | claim v next ih => exact ih sees (claimed.or (some v))
  | look next ih => exact ih claimed (sees.imp_right fun rest => rest claimed) claimed
  | evaluate position next ih =>
    rw [Program.run_evaluate, Program.run_evaluate]
    exact consulting.sequences (consulting.answerAt catches agree position) fun result =>
      ih result (sees.imp_right fun rest => rest result) claimed
  | peek store id next ih =>
    rcases sees with shows | overlooks
    · exact consulting.sequences (shows store id) fun shown => ih shown (.inl shows) claimed
    · -- What is shown may differ, so both programs go on from the same thing in its place.
      rw [Program.run_peek_of_overlooks overlooks.1 root arguments claimed ⟨none, none⟩,
        Program.run_peek_of_overlooks overlooks.1 root others claimed ⟨none, none⟩]
      exact ih ⟨none, none⟩ (.inr (overlooks.2 ⟨none, none⟩)) claimed
  | suspend next ih =>
    apply consulting.sequences consulting.checks
    intro cancelled
    cases cancelled with
    | true => exact consulting.stops .dropped
    | false => exact ih sees claimed
  | cancel place next ih =>
    exact consulting.sequences (consulting.cancels place) fun _ => ih sees claimed
  | note entry next ih =>
    exact consulting.sequences (consulting.notes entry) fun _ => ih sees claimed

end Walk.Consulting

namespace Walk.Asking

variable {related : Walk.Relation} {arguments others : List Argument} {context : Context}

theorem consult (asking : Asking context.root related) (catches : related.Catches)
    (agree : related.OfArguments arguments others) (same : SameViews arguments others)
    {handlers : List Handler} (sees : related.Shows ∨ ∀ handler ∈ handlers, handler.OverlooksReadouts)
    (name : String) :
    related (ClockedFormula.consult context handlers name arguments)
      (ClockedFormula.consult context handlers name others) := by
  have asked : ∀ claimed, related (consult.ask context name arguments handlers claimed)
      (consult.ask context name others handlers claimed) := by
    induction handlers with
    | nil => exact fun claimed => asking.yields claimed
    | cons handler rest ih =>
      intro claimed
      have here := sees.imp_right fun overlook => overlook handler List.mem_cons_self
      have later := sees.imp_right fun overlook other member =>
        overlook other (List.mem_cons_of_mem handler member)
      rw [consult.ask_cons_eq, consult.ask_cons_eq]
      apply asking.sequences asking.checks
      intro cancelled
      cases cancelled with
      | true => exact asking.stops (.failed .cancelled)
      | false =>
        refine asking.sequences (asking.counts _) fun timesAsked => ?_
        refine asking.sequences (asking.notes _) fun _ => ?_
        rw [← Context.request_congr rfl same]
        exact asking.sequences
          (asking.run catches agree _ (here.imp_right fun overlooks => overlooks _) claimed)
          (ih later)
  exact asked none

/-- A name is determined by the formula to which it is bound, or else by what the handlers claim. -/
theorem evaluateIdentifier (asking : Asking context.root related) (catches : related.Catches)
    (sees : related.Shows ∨ ∀ handler ∈ context.identifierHandlers, handler.OverlooksReadouts)
    {enter enterAlso : Context → Formula → Walk Value} {name : String}
    (opens : ∀ f, context.find? name = some (.formula f) →
      related (enter context f) (enterAlso context f)) :
    related (ClockedFormula.evaluateIdentifier enter context name)
      (ClockedFormula.evaluateIdentifier enterAlso context name) :=
  asking.toSequential.evaluateIdentifier opens (asking.consult catches .nil rfl sees _)

end Walk.Asking

/-! ## Calls with arguments -/

section Arguments

variable {related : Walk.Relation} {arguments others : List Argument} {context : Context}

theorem Walk.Calling.callFunction (calling : Calling related)
    (agree : related.OfArguments arguments others) (id : NodeId) (name : String) :
    related (ClockedFormula.callFunction context id name arguments)
      (ClockedFormula.callFunction context id name others) := by
  rw [callFunction_eq_callOperands rfl, callFunction_eq_callOperands agree.length_eq.symm]
  apply calling.calls
  intro position
  exact agree.get position.isLt (agree.length_eq ▸ position.isLt)

/-- A call is determined by what the handlers claim and by the walks to its arguments. -/
theorem Walk.Calling.evaluateCall (calling : Calling related) {id : NodeId} {name : String}
    (consulted : related
      (ClockedFormula.consult context context.functionHandlers (context.foldName name) arguments)
      (ClockedFormula.consult context context.functionHandlers (context.foldName name) others))
    (agree : related.OfArguments arguments others) :
    related (ClockedFormula.evaluateCall context id name arguments)
      (ClockedFormula.evaluateCall context id name others) :=
  calling.toSequential.evaluateCall consulted (calling.callFunction agree id name)
    (calling.records context.store id)

end Arguments

/-! ## Expressions -/

section Evaluations

variable {root : StoreId} {related : Walk.Relation} {context : Context}
  {enter enterAlso : Context → Formula → Walk Value}

/-- Evaluations are related that open formulas in ways that are related. -/
theorem Walk.Asking.evaluate (asking : Asking context.root related) (calling : Calling related)
    (catches : related.Catches)
    (sees : related.Shows ∨
      ∀ handler ∈ context.identifierHandlers ++ context.functionHandlers, handler.OverlooksReadouts)
    (enters : ∀ name f, context.find? name = some (.formula f) →
      related (enter context f) (enterAlso context f)) (e : Expr) :
    related (ClockedFormula.evaluate enter context e)
      (ClockedFormula.evaluate enterAlso context e) := by
  have seesIdentifiers := sees.imp_right fun overlook handler member =>
    overlook handler (List.mem_append_left context.functionHandlers member)
  have seesFunctions := sees.imp_right fun overlook handler member =>
    overlook handler (List.mem_append_right context.identifierHandlers member)
  induction e using Expr.induct_composed with
  | literal v => exact asking.yields v
  | identifier name => exact asking.evaluateIdentifier catches seesIdentifiers (enters name)
  | composed e count recipe parts composed ih =>
    rw [composed.evaluate_eq, composed.evaluate_eq]
    exact asking.followPlain ih recipe
  | call id name arguments ih =>
    have agree : related.OfArguments (delay enter context arguments) (delay enterAlso context arguments) :=
      Walk.Relation.ofArguments_delay ih
    have same := sameViews_delay enter enterAlso context context arguments
    exact calling.evaluateCall (asking.consult catches agree same seesFunctions _) agree

theorem Walk.Congruence.evaluate (congruence : Congruence context.root related)
    (catches : related.Catches) (enters : ∀ f, related (enter context f) (enterAlso context f)) (e : Expr) :
    related (ClockedFormula.evaluate enter context e)
      (ClockedFormula.evaluate enterAlso context e) :=
  congruence.toAsking.evaluate congruence.toCalling catches (.inl congruence.shows)
    (fun _ f _ => enters f) e

/-- A walk that obeys the flag is related to itself, however deep formulas are nested. -/
theorem Walk.Congruence.walk (congruence : Congruence root related) (catches : related.Catches)
    (obeys : context.root = root) (depth : Nat) (e : Expr) :
    related (ClockedFormula.walk depth context e) (ClockedFormula.walk depth context e) := by
  induction depth generalizing context e with
  | zero => exact congruence.stops .exhausted
  | succ depth ih =>
    subst obeys
    exact congruence.evaluate catches (fun f => @ih (context.enter f) rfl f.expression) e

end Evaluations

/-- An evaluation is related to itself if this is so of its names and calls. -/
theorem Walk.Sequential.evaluate {related : Walk.Relation} (sequential : Sequential related)
    {enter : Context → Formula → Walk Value} {context : Context} {e : Expr}
    (names : ∀ name, related (ClockedFormula.evaluateIdentifier enter context name)
      (ClockedFormula.evaluateIdentifier enter context name))
    (calls : ∀ application ∈ e.applications,
      (∀ argument ∈ application.arguments, related (ClockedFormula.evaluate enter context argument)
        (ClockedFormula.evaluate enter context argument)) →
      related (ClockedFormula.evaluate enter context application.expression)
        (ClockedFormula.evaluate enter context application.expression)) :
    related (ClockedFormula.evaluate enter context e) (ClockedFormula.evaluate enter context e) := by
  induction e using Expr.induct_composed with
  | literal v => exact sequential.yields v
  | identifier name => exact names name
  | composed e count recipe parts composed ih =>
    rw [composed.evaluate_eq]
    refine sequential.followPlain (fun position => ih position fun application inside => ?_) recipe
    exact calls application (composed.applications_subset position inside)
  | call id name arguments ih =>
    refine calls ⟨id, name, arguments⟩ List.mem_cons_self fun argument member => ?_
    refine ih argument member fun application inside => calls application ?_
    exact List.mem_cons_of_mem _ (Expr.mem_applicationsOfAll.mpr ⟨argument, member, inside⟩)

end ClockedFormula
