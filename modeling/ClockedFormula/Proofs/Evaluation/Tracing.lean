import ClockedFormula.Proofs.Evaluation.Event
import ClockedFormula.Proofs.Formula.Tree

namespace ClockedFormula

open Walk

/-!
# What can be said of walks

What can be said of walks and their events is proved of evaluations once and for all, by following the
evaluation.  It has to be true of single steps and of sequences, of what handlers do, and wherever a formula
is opened.  A law of walks is the usual case; but one can also say what happens in two walks at once.

An evaluation changes the memory of its own calls only.  So a step that changes the memory of a call counts
only if the call is one of those that the walk can touch: the calls of the formulas in the tree of bindings,
each in the store of its formula.
-/

/-- Something that can be said of a walk with its events. -/
abbrev Walk.Tracing : Type 1 := ∀ {α : Type}, Walk α → (World → List Event) → Prop

namespace Walk.Tracing

/-- Whether it can be said of the arguments for which handlers can ask, and of what happens on the way to
them. -/
structure OfArguments (holds : Tracing) (arguments : List Argument)
    (inner : Nat → World → List Event) : Prop where
  inside : ∀ {position : Nat} {argument : Argument}, arguments[position]? = some argument →
    holds argument.value (inner position)
  outside : ∀ {position : Nat}, arguments[position]? = none → inner position = fun _ => []

/-- Whether something can be said of the single steps of an evaluation that touches some calls only, and of
walks in sequence. -/
structure Closed (root : StoreId) (touches : StoreId → NodeId → Prop) (holds : Tracing) : Prop where
  yields : ∀ {α : Type} (a : α), holds (pure a : Walk α) fun _ => []
  fails : ∀ {α : Type} (e : EvalError), holds (Walk.fail e : Walk α) fun _ => []
  sequences : ∀ {α β : Type} {walk : Walk α} {events : World → List Event} {next : α → Walk β}
    {later : α → World → List Event}, holds walk events → (∀ a, holds (next a) (later a)) →
      holds (walk >>= next) (inSequence walk events later)
  begins : ∀ context id, touches context.store id → holds (beginCall context id) fun _ => []
  reads : ∀ store id, holds (Workspace.read store id) fun _ => []
  writes : ∀ store id workspace, touches store id →
    holds (Workspace.write store id workspace) fun _ => []
  records : ∀ store id v, touches store id →
    holds (Walk.modifyMemory store fun memory => memory.recordResult id v) fun _ => []
  /-- Handlers are asked about a name. -/
  consults : ∀ context handlers name arguments inner, context.root = root →
    holds.OfArguments arguments inner →
      holds (consult context handlers name arguments)
        (consultEvents context name arguments inner handlers none)

namespace Closed

variable {root : StoreId} {touches : StoreId → NodeId → Prop} {holds : Tracing} {α β : Type}

/-- What comes after a walk without any events does not add to its events. -/
theorem sequences_quiet (closed : Closed root touches holds) {walk : Walk α}
    {events : World → List Event} (first : holds walk events) {next : α → Walk β}
    (quiet : ∀ a, holds (next a) fun _ => []) : holds (walk >>= next) events := by
  have nothing : inSequence walk events (fun _ _ => []) = events := by
    funext world
    rw [inSequence]
    cases walk world <;> exact List.append_nil _
  have whole := closed.sequences first quiet
  rwa [nothing] at whole

section Operands

variable {count : Nat} {operands : Fin count → Walk Value} {inner : Fin count → World → List Event}

/-- A recipe is followed as its operands are evaluated and its state is reached. -/
theorem follow (closed : Closed root touches holds)
    (asks : ∀ position, holds (operands position) (inner position))
    {σ : Type} {read : Walk σ} {write : σ → Walk Unit} (reads : holds read fun _ => [])
    (writes : ∀ state, holds (write state) fun _ => []) (recipe : Recipe σ count α) :
    holds (recipe.follow operands read write) (recipe.trail operands inner read write) := by
  induction recipe with
  | answer a => exact closed.yields a
  | fail e => exact closed.fails e
  | ask position next ih =>
    rw [trail_ask]
    exact closed.sequences (asks position) ih
  | readState next ih =>
    rw [trail_readState]
    exact closed.sequences reads ih
  | writeState state next ih =>
    rw [trail_writeState]
    exact closed.sequences (writes state) fun _ => ih

theorem followPlain (closed : Closed root touches holds)
    (asks : ∀ position, holds (operands position) (inner position))
    (recipe : Recipe Unit count α) :
    holds (recipe.followPlain operands)
      (recipe.trail operands inner (pure ()) fun _ => pure ()) :=
  closed.follow asks (closed.yields ()) (fun _ => closed.yields ()) recipe

/-- A call of a built-in function touches its own memory, besides what its operands touch. -/
theorem callOperands (closed : Closed root touches holds)
    (asks : ∀ position, holds (operands position) (inner position)) (context : Context)
    (id : NodeId) (own : touches context.store id) (name : String) :
    holds (ClockedFormula.callOperands context id name count operands)
      (duringCall context id name count operands inner) := by
  cases resolved : Function.resolve name context.options.ignoreCase with
  | error e =>
    rw [callOperands_unresolved resolved, duringCall_unresolved resolved]
    exact closed.fails e
  | ok f =>
    cases f with
    | math f =>
      rw [callOperands_math resolved, duringCall_math resolved]
      cases f.recipe? context.options.roundAwayFromZero count with
      | none => exact closed.fails _
      | some recipe => exact closed.followPlain asks recipe
    | temporal f =>
      rw [callOperands_registered resolved, duringCall_temporal resolved]
      cases f.recipe? count with
      | none => exact closed.fails _
      | some recipe =>
        exact closed.sequences (closed.begins context id own) fun progress =>
          closed.follow asks (closed.reads context.store id)
            (fun workspace => closed.writes context.store id workspace own) _

end Operands

section Evaluations

variable {enter : Context → Formula → Walk Value}
  {entering : Context → Formula → World → List Event} {context : Context}

/-- What can be said of the evaluation of arguments can be said of what handlers ask for. -/
theorem ofArguments {arguments : List Expr}
    (inside : ∀ e ∈ arguments, holds (ClockedFormula.evaluate enter context e)
      (events enter entering context e)) :
    holds.OfArguments (delay enter context arguments) fun position =>
      (eventsOfAll enter entering context arguments).getD position fun _ => [] where
  inside := by
    intro position argument located
    rw [delay_eq_map, List.getElem?_map] at located
    rcases Option.map_eq_some_iff.mp located with ⟨e, present, rfl⟩
    have kept := inside e (List.mem_of_getElem? present)
    rw [eventsOfAll_eq_map, List.getD_eq_getElem?_getD, List.getElem?_map, present]
    exact kept
  outside := by
    intro position missing
    rw [delay_eq_map, List.getElem?_map, Option.map_eq_none_iff] at missing
    rw [eventsOfAll_eq_map, List.getD_eq_getElem?_getD, List.getElem?_map, missing]
    rfl

theorem evaluateCall (closed : Closed root touches holds) (obeys : context.root = root) (id : NodeId)
    (own : touches context.store id) (name : String) {arguments : List Expr}
    (inside : ∀ e ∈ arguments, holds (ClockedFormula.evaluate enter context e)
      (events enter entering context e)) :
    holds (ClockedFormula.evaluate enter context (.call id name arguments))
      (events enter entering context (.call id name arguments)) := by
  have asks : ∀ position : Fin arguments.length,
      holds (ClockedFormula.evaluate enter context (arguments.get position))
        ((eventsOfAll enter entering context arguments).getD position fun _ => []) := by
    intro position
    have kept := inside _ (List.get_mem arguments position)
    simpa [eventsOfAll_eq_map] using kept
  have notes : ∀ v, holds
      (Walk.modifyMemory context.store (fun memory => memory.recordResult id v) >>= fun _ => pure v)
      fun _ => [] := fun v =>
    closed.sequences_quiet (closed.records context.store id v own) fun _ => closed.yields v
  have asked := closed.consults context context.functionHandlers (context.foldName name)
    (delay enter context arguments) _ obeys (ofArguments inside)
  refine closed.sequences asked fun claimed => ?_
  cases claimed with
  | some v => exact notes v
  | none =>
    have called := closed.callOperands asks context id own name
    rw [← callFunction_delay] at called
    exact closed.sequences_quiet called notes

theorem evaluateIdentifier (closed : Closed root touches holds) (obeys : context.root = root)
    (name : String)
    (opens : ∀ f, context.find? name = some (.formula f) →
      holds (enter context f) (openingEvents entering context f)) :
    holds (ClockedFormula.evaluateIdentifier enter context name)
      (identifierEvents entering context name) := by
  unfold ClockedFormula.evaluateIdentifier identifierEvents
  cases found : context.find? name with
  | some binding =>
    cases binding with
    | value v => exact closed.yields v
    | formula f => exact opens f found
  | none =>
    cases context.clockReading? name with
    | some v => exact closed.yields v
    | none =>
      have nobody : holds.OfArguments [] fun _ _ => [] := ⟨nofun, fun _ => rfl⟩
      have asked := closed.consults context context.identifierHandlers (context.foldName name) []
        (fun _ _ => []) obeys nobody
      refine closed.sequences_quiet asked fun claimed => ?_
      cases claimed with
      | some v => exact closed.yields v
      | none => exact closed.fails _

/-- What can be said wherever a formula is opened can be said of every evaluation that touches no other
calls than its own. -/
theorem evaluate (closed : Closed root touches holds) (obeys : context.root = root)
    (opens : ∀ name f, context.find? name = some (.formula f) →
      holds (enter context f) (openingEvents entering context f)) (e : Expr)
    (own : ∀ application ∈ e.applications, touches context.store application.id) :
    holds (ClockedFormula.evaluate enter context e) (events enter entering context e) := by
  induction e using Expr.induct_composed with
  | literal v => exact closed.yields v
  | identifier name => exact closed.evaluateIdentifier obeys name (opens name)
  | composed e count recipe parts composed ih =>
    rw [composed.evaluate_eq, composed.events_eq]
    refine closed.followPlain (fun position => ih position ?_) recipe
    exact fun application inside => own application (composed.applications_subset position inside)
  | call id name arguments ih =>
    refine closed.evaluateCall obeys id (own ⟨id, name, arguments⟩ List.mem_cons_self) name ?_
    intro e argument
    refine ih e argument fun application inside => own application ?_
    exact List.mem_cons_of_mem _ (Expr.mem_applicationsOfAll.mpr ⟨e, argument, inside⟩)

/-- What does not care how deep formulas are nested can be said of every walk in which all formulas come from
a tree of bindings. -/
theorem walk (closed : Closed root touches holds)
    (exhausts : holds (throw .exhausted : Walk Value) fun _ => [])
    (opens : ∀ f {walk : Walk Value} {events : World → List Event}, holds walk events →
      holds walk fun world => .outside world (.opens f) :: (events world).map (.insideFormula f))
    {all : List Formula} (tree : ∀ g ∈ all, Bindings.Within all g.bindings)
    (permitted : ∀ g ∈ all, ∀ application ∈ g.expression.applications,
      touches g.store application.id)
    (depth : Nat) (obeys : context.root = root) (within : Bindings.Within all context.bindings)
    (e : Expr) (own : ∀ application ∈ e.applications, touches context.store application.id) :
    holds (ClockedFormula.walk depth context e) (walkEvents depth context e) := by
  induction depth generalizing context e with
  | zero => exact exhausts
  | succ depth ih =>
    have entered : ∀ name f, context.find? name = some (.formula f) →
        holds (ClockedFormula.walk depth (context.enter f) f.expression)
          (openingEvents (fun outer f => walkEvents depth (outer.enter f) f.expression) context f) := by
      intro name f found
      have bound : f ∈ all := within.find? found
      have withinInside : Bindings.Within all (context.enter f).bindings :=
        (tree f bound).overlay within
      exact opens f (@ih (context.enter f) obeys withinInside f.expression (permitted f bound))
    exact closed.evaluate obeys entered e own

/-- The same of an evaluation of a formula: the tree is that of its bindings. -/
theorem evaluateTo {f : Formula} (closed : Closed f.store touches holds)
    (exhausts : holds (throw .exhausted : Walk Value) fun _ => [])
    (opens : ∀ f {walk : Walk Value} {events : World → List Event}, holds walk events →
      holds walk fun world => .outside world (.opens f) :: (events world).map (.insideFormula f))
    (permitted : ∀ g ∈ f :: f.inner, ∀ application ∈ g.expression.applications,
      touches g.store application.id) (depth : Nat) (clock : Clock) :
    holds (ClockedFormula.walk depth (Context.ofFormula f clock) f.expression)
      (f.eventsTo depth clock) :=
  closed.walk exhausts opens (fun _ inside => Formula.bindings_within_of_mem inside)
    (fun g inside => permitted g (List.mem_cons_of_mem f inside)) depth rfl f.bindings_within
    f.expression (permitted f List.mem_cons_self)

end Evaluations

end Closed

end Walk.Tracing

/-! ## Laws of evaluations -/

namespace Law

section

variable {root : StoreId} {law : Law} {touches : StoreId → NodeId → Prop}

/-- Every argument for which a handler can ask keeps a law if its evaluation does. -/
theorem Handling.keeps_answerAt (handling : law.Handling root) {arguments : List Argument}
    {inner : Nat → World → List Event} (known : Tracing.OfArguments (Keeps law) arguments inner)
    (position : Nat) :
    Keeps law (answerAt arguments position) fun world => (inner position world).map .underHandler := by
  rw [answerAt]
  cases located : arguments[position]? with
  | none =>
    rw [known.outside located]
    exact handling.keeps_pure _
  | some argument => exact handling.keeps_outcome (known.inside located)

/-- A law of handlers that holds of every change of a call that is touched. -/
theorem Handling.closed (handling : law.Handling root)
    (changes : ∀ store id workspace world, touches store id →
      law world [] none (world.setWorkspace store id workspace)) :
    Tracing.Closed root touches (Keeps law) where
  yields := handling.keeps_pure
  fails := handling.keeps_fail
  sequences kept rest := handling.keeps_bind kept rest
  begins context id own := Handling.keeps_of_ok (beginCall_eq context id) fun world =>
    changes context.store id ⟨_, world.random context.store⟩ world own
  reads store id := Handling.keeps_of_ok (Workspace.read_eq store id) handling.idle
  writes store id workspace own := Handling.keeps_of_ok (Workspace.write_eq store id workspace)
    fun world => changes store id workspace world own
  records store id v own := Handling.keeps_of_ok (recordResult_eq store id v) fun world =>
    changes store id ⟨_, world.random store⟩ world own
  consults context handlers name arguments inner obeys known := by
    subst obeys
    exact handling.keeps_ask (handling.keeps_answerAt known) name handlers none

/-- A basic law holds of every change. -/
theorem Basic.closed (basic : law.Basic root) :
    Tracing.Closed root (fun _ _ => True) (Keeps law) :=
  basic.toHandling.closed fun store _ _ world _ => basic.changes store _ world fun _ => rfl

end

/-- A basic law that holds wherever a formula is opened holds of every evaluation. -/
theorem Basic.keeps_evaluate {law : Law} {enter : Context → Formula → Walk Value}
    {entering : Context → Formula → World → List Event} {context : Context}
    (basic : law.Basic context.root)
    (opens : ∀ name f, context.find? name = some (.formula f) →
      Keeps law (enter context f) (openingEvents entering context f)) (e : Expr) :
    Keeps law (evaluate enter context e) (events enter entering context e) :=
  basic.closed.evaluate rfl opens e fun _ _ => trivial

end Law

end ClockedFormula
