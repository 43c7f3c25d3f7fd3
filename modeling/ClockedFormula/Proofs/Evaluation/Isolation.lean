import ClockedFormula.Proofs.Evaluation.Repetition

namespace ClockedFormula

/-!
# Runs from scratch

When the clock goes back, a new run begins.  No call is told so: each of them finds out when it is
called at a step that lies before the last step that it has seen.  What it has gathered before goes
then, and only then.  A call that the new run reaches too late goes on with what the earlier run has
left to it.

So a new run is a run from scratch under a condition on the calls: each of them that still has
something is first called, in the new run, before the last step that it has seen.  The proof compares
the two runs.  A call carries the same in both of them, or it is still to come in both.
-/

/-! ## Meanings that agree -/

section Agreement

variable {context other : Context} {memory others : NodeId → NodeState}

/-- Whether names mean the same in two contexts, and some calls cannot be told apart. -/
structure Agreement (context other : Context) (memory others : NodeId → NodeState)
    (calls : List Application) : Prop where
  reading : ∀ name, context.reading name = other.reading name
  value : ∀ called ∈ calls, ∀ values : Fin called.arguments.length → Attempt Value,
    (passage context called.name values (memory called.id)).value =
      (passage other called.name values (others called.id)).value
  asked : ∀ called ∈ calls, ∀ values : Fin called.arguments.length → Attempt Value,
    (passage context called.name values (memory called.id)).asked =
      (passage other called.name values (others called.id)).asked

theorem Agreement.of_subset {calls fewer : List Application}
    (agreement : Agreement context other memory others calls) (subset : fewer ⊆ calls) :
    Agreement context other memory others fewer :=
  { reading := agreement.reading
    value := fun called member => agreement.value called (subset member)
    asked := fun called member => agreement.asked called (subset member) }

/-- The calls of parts go by the parts that are asked for. -/
theorem flatMap_calls_congr {count : Nat} {first second : Fin count → Meaning}
    {positions : List (Fin count)} (agree : ∀ position ∈ positions, first position = second position) :
    positions.flatMap (fun position => (first position).calls) =
      positions.flatMap fun position => (second position).calls := by
  rw [List.flatMap_def, List.flatMap_def]
  exact congrArg List.flatten
    (List.map_congr_left fun position asked => congrArg Meaning.calls (agree position asked))

theorem Meaning.composed_congr {count : Nat} {recipe : Recipe Unit count Value}
    {first second : Fin count → Meaning}
    (agree : ∀ position ∈ recipe.asked (fun position => (second position).value) (),
      first position = second position) :
    Meaning.composed recipe first = Meaning.composed recipe second := by
  rcases recipe.run_congr ()
    fun position asked => congrArg Meaning.value (agree position asked) with ⟨results, positions⟩
  rw [Meaning.composed, Meaning.composed, results, positions, flatMap_calls_congr agree]

/-- A call is passed through alike if its arguments agree as far as they are asked for. -/
theorem Application.passage_agrees {application : Application}
    (agreement : Agreement context other memory others [application])
    (agree : ∀ position ∈ (application.passage other others).asked,
      application.part context memory position = application.part other others position) :
    (application.passage context memory).value = (application.passage other others).value ∧
      (application.passage context memory).asked = (application.passage other others).asked := by
  have same := passage_congr_values fun position asked =>
    congrArg Meaning.value (agree position asked)
  have value := agreement.value application List.mem_cons_self
    fun position => (application.part context memory position).value
  have asked := agreement.asked application List.mem_cons_self
    fun position => (application.part context memory position).value
  rw [same] at value asked
  exact ⟨value, asked⟩

/-- An expression means the same if its calls cannot be told apart. -/
theorem meaning_congr (e : Expr)
    (agreement : Agreement context other memory others (meaning other others e).calls) :
    meaning context memory e = meaning other others e := by
  induction e using Expr.induct_composed with
  | literal v => rfl
  | identifier name => rw [meaning, meaning, agreement.reading]
  | composed e count recipe parts composed ih =>
    rw [composed.meaning_eq] at agreement ⊢
    rw [composed.meaning_eq]
    refine Meaning.composed_congr fun position asked => ih position (agreement.of_subset ?_)
    intro called made
    exact List.mem_flatMap.mpr ⟨position, asked, made⟩
  | call id name arguments ih =>
    have whole : meaning other others (.call id name arguments) = _ :=
      Application.meaning_expression ⟨id, name, arguments⟩
    have part : meaning context memory (.call id name arguments) = _ :=
      Application.meaning_expression ⟨id, name, arguments⟩
    rw [whole] at agreement
    have agree : ∀ position ∈ (Application.passage other others ⟨id, name, arguments⟩).asked,
        Application.part context memory ⟨id, name, arguments⟩ position =
          Application.part other others ⟨id, name, arguments⟩ position := by
      intro position asked
      refine ih _ (List.get_mem arguments position) (agreement.of_subset fun called made => ?_)
      exact List.mem_append_left _ (List.mem_flatMap.mpr ⟨position, asked, made⟩)
    rcases Application.passage_agrees
      (agreement.of_subset (List.subset_append_right _ _)) agree with ⟨value, asked⟩
    rw [whole, part, value, Application.innerCalls, Application.innerCalls, asked,
      flatMap_calls_congr agree]

/-- What is known of the arguments of a call in one memory can stand for what is known in the other. -/
theorem Application.passage_eq {application : Application}
    (agreement : Agreement context other memory others
      (meaning other others application.expression).calls) :
    ClockedFormula.passage other application.name
        (fun position => (application.part context memory position).value)
        (others application.id) = application.passage other others := by
  refine passage_congr_values fun position asked => congrArg Meaning.value ?_
  refine meaning_congr _ (agreement.of_subset fun called made => ?_)
  rw [application.meaning_expression]
  exact List.mem_append_left _ (List.mem_flatMap.mpr ⟨position, asked, made⟩)

end Agreement

/-! ## Memories in a new run -/

/-- Whether a call at a step drops what the call has gathered before, if there is anything. -/
def NodeState.DropsAt (past : NodeState) (now : UInt64) : Prop :=
  past.temporal = .empty ∨ ∃ last, past.lastStep = some last ∧ now < last

/-- How the memory of a call in a new run compares to its memory in a run from scratch: both carry the
same, or the call is still to come in both runs. -/
inductive Renewed (past node scratch : NodeState) : Prop
  | agrees (same : node.carried = scratch.carried)
  | awaits (lastStep : node.lastStep = past.lastStep) (temporal : node.temporal = past.temporal)
    (injected : node.injected = scratch.injected) (uncalled : scratch.lastStep = none)
    (empty : scratch.temporal = .empty)

namespace Renewed

variable {past node scratch : NodeState}

theorem of_carried {later laterScratch : NodeState} (related : Renewed past node scratch)
    (same : later.carried = node.carried) (sameScratch : laterScratch.carried = scratch.carried) :
    Renewed past later laterScratch := by
  rcases NodeState.carried_eq_iff.mp same with ⟨lastStep, temporal, injected⟩
  rcases NodeState.carried_eq_iff.mp sameScratch with
    ⟨lastStepScratch, temporalScratch, injectedScratch⟩
  cases related with
  | agrees agree => exact .agrees (same.trans (agree.trans sameScratch.symm))
  | awaits sameStep sameTemporal sameInjected uncalled empty =>
    exact .awaits (lastStep.trans sameStep) (temporal.trans sameTemporal)
      (injected.trans (sameInjected.trans injectedScratch.symm)) (lastStepScratch.trans uncalled)
      (temporalScratch.trans empty)

theorem inject (related : Renewed past node scratch) (v : Value) :
    Renewed past { node with injected := some v } { scratch with injected := some v } := by
  cases related with
  | agrees agree =>
    rcases NodeState.carried_eq_iff.mp agree with ⟨lastStep, temporal, _⟩
    exact .agrees (NodeState.carried_eq_iff.mpr ⟨lastStep, temporal, rfl⟩)
  | awaits lastStep temporal injected uncalled empty =>
    exact .awaits lastStep temporal rfl uncalled empty

/-- A call that is still to come and drops what it has gathered begins like one from scratch. -/
theorem beginsEmpty {context : Context} (resets : context.options.resetOnNewRun = true)
    {now : UInt64} (clocked : context.clock.step = some now) (drops : past.DropsAt now)
    (lastStep : node.lastStep = past.lastStep) (temporal : node.temporal = past.temporal) :
    context.BeginsEmpty node := by
  rcases drops with nothing | ⟨last, called, back⟩
  · exact NodeState.temporal_beginCall (temporal.trans nothing) _ _
  · rw [Context.BeginsEmpty, Context.registers, clocked, resets,
      NodeState.beginCall_back (lastStep.trans called) back]
    rfl

/-- A call is passed through as in a run from scratch. -/
theorem pass {context : Context} {name : String} (steady : context.Steady name)
    (resets : context.options.resetOnNewRun = true) {now : UInt64}
    (clocked : context.clock.step = some now) {count : Nat} (values : Fin count → Attempt Value)
    (related : Renewed past node scratch)
    (drops : context.Temporal name count → scratch.lastStep = none → past.DropsAt now) :
    (passage context name values node).value = (passage context name values scratch).value ∧
      (passage context name values node).asked = (passage context name values scratch).asked ∧
      Renewed past (passage context name values node).node
        (passage context name values scratch).node := by
  cases related with
  | agrees agree =>
    rcases passage_alike steady values agree with ⟨value, carried, asked⟩
    exact ⟨value, asked, .agrees carried⟩
  | awaits lastStep temporal injected uncalled empty =>
    have bothEmpty : context.Temporal name count →
        context.BeginsEmpty node ∧ context.BeginsEmpty scratch := fun remembers =>
      ⟨beginsEmpty resets clocked (drops remembers uncalled) lastStep temporal,
        NodeState.temporal_beginCall empty _ _⟩
    rcases passage_anew steady clocked values injected bothEmpty with
      ⟨value, asked, carried | ⟨sameNode, sameScratch⟩⟩
    · exact ⟨value, asked, .agrees carried⟩
    · rw [sameNode, sameScratch]
      exact ⟨value, asked, .awaits lastStep temporal injected uncalled empty⟩

end Renewed

/-! ## Evaluations in a new run -/

/-- What is known when an expression is evaluated in a new run and in a run from scratch: the calls that
are made agree, and their memories go on being comparable. -/
structure Twins (context copy : Context) (past memory others : NodeId → NodeState)
    (calls : List Application) : Prop extends Agreement context copy memory others calls where
  related : ∀ id, Renewed (past id) (memory id) (others id)
  node : ∀ called ∈ calls, ∀ values : Fin called.arguments.length → Attempt Value,
    Renewed (past called.id) (passage context called.name values (memory called.id)).node
      (passage copy called.name values (others called.id)).node

namespace Twins

variable {context copy : Context} {past memory others : NodeId → NodeState}

/-- It is enough that the calls that are still to come drop what they have gathered. -/
theorem of_drops (reading : ∀ name, context.reading name = copy.reading name)
    (passes : ∀ {count : Nat} name (values : Fin count → Attempt Value) node,
      passage context name values node = passage copy name values node)
    (resets : copy.options.resetOnNewRun = true) {now : UInt64}
    (clocked : copy.clock.step = some now) {calls : List Application}
    (steady : ∀ called ∈ calls, copy.Steady called.name)
    (related : ∀ id, Renewed (past id) (memory id) (others id))
    (drops : ∀ called ∈ calls, copy.Temporal called.name called.arguments.length →
      (others called.id).lastStep = none → (past called.id).DropsAt now) :
    Twins context copy past memory others calls := by
  have pass := fun (called : Application) (made : called ∈ calls)
      (values : Fin called.arguments.length → Attempt Value) =>
    (related called.id).pass (steady called made) resets clocked values (drops called made)
  refine ⟨⟨reading, ?_, ?_⟩, related, ?_⟩
  · intro called made values
    rw [passes]
    exact (pass called made values).1
  · intro called made values
    rw [passes]
    exact (pass called made values).2.1
  · intro called made values
    rw [passes]
    exact (pass called made values).2.2

/-- The memories are comparable after the evaluations, too. -/
theorem after {e : Expr}
    (twins : Twins context copy past memory others (meaning copy others e).calls)
    {world later scratch laterScratch : World}
    (begins : world.node context.store = memory) (beginsScratch : scratch.node copy.store = others)
    (reached : Reaches context memory [] (meaning copy others e).calls world later)
    (reachedScratch : Reaches copy others [] (meaning copy others e).calls scratch laterScratch)
    (id : NodeId) :
    Renewed (past id) (later.node context.store id) (laterScratch.node copy.store id) := by
  by_cases touched : ∃ called ∈ (meaning copy others e).calls, called.id = id
  · rcases touched with ⟨called, made, rfl⟩
    have kept := twins.node called made fun position => (called.part context memory position).value
    rw [Application.passage_eq (twins.of_subset (calls_closed e made))] at kept
    exact kept.of_carried (reached.settled called made) (reachedScratch.settled called made)
  · have untouched : ∀ called ∈ (meaning copy others e).calls, called.id ≠ id :=
      fun called made same => touched ⟨called, made, same⟩
    rw [reached.frame id List.not_mem_nil untouched,
      reachedScratch.frame id List.not_mem_nil untouched, begins, beginsScratch]
    exact twins.related id

end Twins

namespace Formula

/-- The same formula with its memory somewhere else. -/
def inStore (f : Formula) (store : StoreId) : Formula := { f with store := store }

/-- An evaluation comes to what it comes to in a run from scratch, if the calls that it makes for the
first time drop what they have gathered before. -/
theorem evaluateAt_renewed {f : Formula} (plain : f.Plain)
    (resets : f.options.resetOnNewRun = true) (consistent : f.expression.Consistent)
    (drawsNothing : f.DrawsNothing) {store : StoreId} {clock : Clock} {now : UInt64}
    (clocked : clock.step = some now) {past : NodeId → NodeState} {world scratch : World}
    (related : ∀ id, Renewed (past id) (world.node f.store id) (scratch.node store id))
    (drops : ∀ id, (scratch.node store id).lastStep = none →
      (((f.inStore store).evaluateAt clock scratch).2.node store id).lastStep ≠ none →
        (past id).DropsAt now) :
    (f.evaluateAt clock world).1 = ((f.inStore store).evaluateAt clock scratch).1 ∧
      ∀ id, Renewed (past id) ((f.evaluateAt clock world).2.node f.store id)
        (((f.inStore store).evaluateAt clock scratch).2.node store id) := by
  have plainCopy : (f.inStore store).Plain :=
    ⟨plain.identifierHandlers, plain.functionHandlers, plain.onlyValues⟩
  have consistentCopy : (f.inStore store).expression.Consistent := consistent
  rcases walkAt_comesTo plain consistent drawsNothing clocked world with
    ⟨after, evaluated, reached, _⟩
  rcases walkAt_comesTo plainCopy consistentCopy drawsNothing clocked scratch with
    ⟨afterScratch, evaluatedScratch, reachedScratch, _⟩
  rw [evaluateAt_conclude evaluatedScratch] at drops ⊢
  rw [evaluateAt_conclude evaluated]
  have steady : ∀ called ∈ (meaning (Context.ofFormula (f.inStore store) clock)
      (scratch.node store) f.expression).calls,
      (Context.ofFormula (f.inStore store) clock).Steady called.name := by
    intro called made
    exact drawsNothing.steady clock called (calls_subset _ _ _ made)
  have dropped : ∀ called ∈ (meaning (Context.ofFormula (f.inStore store) clock)
      (scratch.node store) f.expression).calls,
      (Context.ofFormula (f.inStore store) clock).Temporal called.name called.arguments.length →
        (scratch.node store called.id).lastStep = none → (past called.id).DropsAt now := by
    intro called made remembers uncalled
    apply drops called.id uncalled
    intro never
    rcases NodeState.carried_eq_iff.mp (reachedScratch.settled called made) with ⟨lastStep, _⟩
    have seen := lastStep.trans
      (passage_lastStep (steady called made) clocked remembers _ (scratch.node store called.id))
    exact Option.some_ne_none now (seen.symm.trans never)
  have reading : ∀ name, (Context.ofFormula f clock).reading name =
      (Context.ofFormula (f.inStore store) clock).reading name := fun _ => rfl
  have passes : ∀ {count : Nat} name (values : Fin count → Attempt Value) node,
      passage (Context.ofFormula f clock) name values node =
        passage (Context.ofFormula (f.inStore store) clock) name values node := fun _ _ _ => rfl
  have twins := Twins.of_drops reading passes resets clocked steady related dropped
  have same := meaning_congr f.expression twins.toAgreement
  rw [same] at reached
  exact ⟨congrArg (fun meant => Outcome.finished (Meaning.value meant)) same,
    twins.after rfl rfl reached reachedScratch⟩

end Formula

/-! ## Runs -/

/-- Feeding values into the calls keeps their memories comparable. -/
theorem Occasion.prepare_renewed (occasion : Occasion) {store other : StoreId}
    {past : NodeId → NodeState} {world scratch : World}
    (related : ∀ id, Renewed (past id) (world.node store id) (scratch.node other id))
    (id : NodeId) :
    Renewed (past id) ((occasion.prepare store world).node store id)
      ((occasion.prepare other scratch).node other id) := by
  rw [prepare, prepare]
  induction occasion.feeds generalizing world scratch with
  | nil => exact related id
  | cons entry rest ih =>
    rcases entry with ⟨fed, v⟩
    apply ih
    intro id
    rw [feed_eq, feed_eq]
    by_cases own : id = fed
    · subst own
      rw [World.node_setNode_self, World.node_setNode_self]
      exact (related id).inject v
    · rw [World.node_setNode_of_ne _ _ own, World.node_setNode_of_ne _ _ own]
      exact related id

namespace Formula

/-- Whether all calls drop what they have gathered before, each of them at the step at which it is
called for the first time in a run from scratch. -/
def DropsAll (f : Formula) (past : NodeId → NodeState) : List Occasion → World → Prop
  | [], _ => True
  | occasion :: rest, scratch =>
    (∀ id now, occasion.clock.step = some now → (scratch.node f.store id).lastStep = none →
      ((f.evaluateOn occasion scratch).2.node f.store id).lastStep ≠ none →
        (past id).DropsAt now) ∧
      f.DropsAll past rest (f.evaluateOn occasion scratch).2

/-- It is enough that the run never comes to the last steps that the calls have seen. -/
theorem DropsAll.of_forall {f : Formula} {past : NodeId → NodeState} {occasions : List Occasion}
    (drops : ∀ occasion ∈ occasions, ∀ now, occasion.clock.step = some now →
      ∀ id, (past id).DropsAt now) (scratch : World) :
    f.DropsAll past occasions scratch := by
  induction occasions generalizing scratch with
  | nil => exact trivial
  | cons occasion rest ih =>
    exact ⟨fun id now clocked _ _ => drops occasion List.mem_cons_self now clocked id,
      ih (fun other member => drops other (List.mem_cons_of_mem _ member)) _⟩

theorem outcomes_renewed {f : Formula} (unhandled : f.hasHandlers = false)
    (resets : f.options.resetOnNewRun = true) (consistent : f.expression.Consistent)
    (drawsNothing : f.DrawsNothing) {occasions : List Occasion}
    (onlyValues : ∀ occasion ∈ occasions, occasion.bindings.OnlyValues)
    (clocked : ∀ occasion ∈ occasions, ∃ now, occasion.clock.step = some now) {store : StoreId}
    {past : NodeId → NodeState} {world scratch : World}
    (related : ∀ id, Renewed (past id) (world.node f.store id) (scratch.node store id))
    (drops : (f.inStore store).DropsAll past occasions scratch) :
    f.outcomes occasions world = (f.inStore store).outcomes occasions scratch := by
  induction occasions generalizing world scratch with
  | nil => rfl
  | cons occasion rest ih =>
    rcases clocked occasion List.mem_cons_self with ⟨now, shows⟩
    have plain : (f.on occasion).Plain :=
      .of_hasHandlers unhandled (onlyValues occasion List.mem_cons_self)
    have first : ∀ id, ((occasion.prepare store scratch).node store id).lastStep = none →
        (((f.inStore store).evaluateOn occasion scratch).2.node store id).lastStep ≠ none →
          (past id).DropsAt now := by
      intro id uncalled called
      rcases occasion.node_prepare store scratch id with ⟨injected, prepared⟩
      rw [prepared] at uncalled
      exact drops.1 id now shows uncalled called
    rcases evaluateAt_renewed plain resets consistent drawsNothing shows
        (occasion.prepare_renewed related) first with
      ⟨same, kept⟩
    have later := ih (fun other member => onlyValues other (List.mem_cons_of_mem _ member))
      (fun other member => clocked other (List.mem_cons_of_mem _ member)) kept drops.2
    have whole := congr (congrArg List.cons same) later
    exact whole

/-- A run in a world with memories from before comes to what it comes to from scratch, if every call
that has gathered anything is first called at a step before the last one that it has seen. -/
theorem outcomes_from_scratch {f : Formula} (unhandled : f.hasHandlers = false)
    (resets : f.options.resetOnNewRun = true) (consistent : f.expression.Consistent)
    (drawsNothing : f.DrawsNothing) {occasions : List Occasion}
    (onlyValues : ∀ occasion ∈ occasions, occasion.bindings.OnlyValues)
    (clocked : ∀ occasion ∈ occasions, ∃ now, occasion.clock.step = some now) {store : StoreId}
    {world scratch : World}
    (blank : ∀ id, scratch.node store id =
      { NodeState.blank with injected := (world.node f.store id).injected })
    (drops : (f.inStore store).DropsAll (world.node f.store) occasions scratch) :
    f.outcomes occasions world = (f.inStore store).outcomes occasions scratch := by
  refine outcomes_renewed unhandled resets consistent drawsNothing onlyValues clocked
    (fun id => ?_) drops
  rw [blank id]
  exact .awaits rfl rfl rfl rfl rfl

/-! ## A gate before a frozen value -/

/-- The call that freezes the parameter. -/
def frozenParameter : Application := ⟨⟨0⟩, "init", [.identifier "x"]⟩

/-- The formula that looks at its frozen parameter only while it is open. -/
def gated : Formula :=
  .ofExpr (.conditional (.identifier "open") frozenParameter.expression (.literal .null)) .default ⟨0⟩

theorem gated_consistent : gated.expression.Consistent := by
  intro first inFirst second inSecond _
  have only : gated.expression.applications = [frozenParameter] := rfl
  rw [only] at inFirst inSecond
  rw [List.mem_singleton.mp inFirst, List.mem_singleton.mp inSecond]

theorem gated_drawsNothing : gated.DrawsNothing := by
  intro call member
  have only : gated.expression.calls = [(⟨0⟩, "init")] := rfl
  have resolved : Function.resolve "init" gated.options.ignoreCase = .ok (.temporal .init) := rfl
  rw [only] at member
  rw [List.mem_singleton.mp member, resolved]
  exact nofun

/-- An occasion on which the formula is open or not, and the parameter has a value. -/
def gatedOccasion (step : UInt64) (isOpen : Bool) (x : Int64) : Occasion :=
  ⟨[], ⟨[("open", .value (.boolean isOpen)), ("x", .value (.integer x))]⟩, ⟨none, some step, none⟩⟩

theorem gatedOccasion_onlyValues (step : UInt64) (isOpen : Bool) (x : Int64) :
    (gatedOccasion step isOpen x).bindings.OnlyValues := by
  intro entry member
  rcases List.mem_cons.mp member with rfl | member
  · exact ⟨_, rfl⟩
  · rw [List.mem_singleton.mp member]
    exact ⟨_, rfl⟩

/-- The world after an evaluation that has frozen the parameter. -/
def gatedWorld (step : UInt64) : World :=
  (gated.evaluateOn (gatedOccasion step true 1) World.empty).2

/-- The world after a run that has frozen the parameter in the first step, and has found the gate shut
in the fifth. -/
def shutWorld : World := (gated.evaluateOn (gatedOccasion 5 false 1) (gatedWorld 1)).2

/-- Going back to the third step does not release the value that was frozen in the first. -/
theorem gated_keeps_value :
    (3 : UInt64) < 5 ∧ (shutWorld.node gated.store ⟨0⟩).injected = none ∧
      gated.outcomes [gatedOccasion 3 true 2] shutWorld ≠
        gated.outcomes [gatedOccasion 3 true 2] World.empty := by
  have kept : (gated.outcomes [gatedOccasion 3 true 2] shutWorld).map Outcome.value? =
      [some (.integer 1)] := by decide +kernel
  have released : (gated.outcomes [gatedOccasion 3 true 2] World.empty).map Outcome.value? =
      [some (.integer 2)] := by decide +kernel
  refine ⟨by decide, rfl, ?_⟩
  intro same
  rw [same, released] at kept
  exact absurd kept (by decide)

theorem gated_from_scratch :
    gated.outcomes [gatedOccasion 3 true 2] (gatedWorld 5) =
      (gated.inStore ⟨1⟩).outcomes [gatedOccasion 3 true 2] World.empty := by
  have onlyValues := gatedOccasion_onlyValues
  have others : ∀ id, id ≠ ⟨0⟩ → (gatedWorld 5).node gated.store id = .blank := by
    intro id other
    have plain : (gated.on (gatedOccasion 5 true 1)).Plain := .of_hasHandlers rfl (onlyValues 5 true 1)
    have only : gated.expression.applications = [frozenParameter] := rfl
    refine evaluateOn_spares plain gated_consistent (fun application inside => ?_) World.empty
    rw [only] at inside
    rw [List.mem_singleton.mp inside]
    exact other.symm
  have blank : ∀ id, World.empty.node ⟨1⟩ id =
      { NodeState.blank with injected := ((gatedWorld 5).node gated.store id).injected } := by
    intro id
    by_cases own : id = ⟨0⟩
    · subst own
      rfl
    · rw [others id own]
      rfl
  have drops : (gated.inStore ⟨1⟩).DropsAll ((gatedWorld 5).node gated.store)
      [gatedOccasion 3 true 2] World.empty := by
    refine .of_forall (fun occasion member now shows id => ?_) World.empty
    rw [List.mem_singleton.mp member] at shows
    cases Option.some.inj shows
    by_cases own : id = ⟨0⟩
    · subst own
      exact .inr ⟨5, rfl, by decide⟩
    · rw [others id own]
      exact .inl rfl
  refine outcomes_from_scratch rfl rfl gated_consistent gated_drawsNothing (fun occasion member => ?_)
    (fun occasion member => ?_) blank drops
  · rw [List.mem_singleton.mp member]
    exact onlyValues 3 true 2
  · rw [List.mem_singleton.mp member]
    exact ⟨3, rfl⟩

end Formula

end ClockedFormula
