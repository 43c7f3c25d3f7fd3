import ClockedFormula.Proofs.Evaluation.Shape
import ClockedFormula.Proofs.Session.Command

namespace ClockedFormula

open Formula (Sharing)

/-!
# The shape of the memories in a session

Whatever a host does with the formulas of a session, what a call remembers fits the function of the call.  A
host can feed values into any node, and reset any, whether or not it is a call; none of this matters.  What
can change the function of a call does not happen: a formula and its clones keep their expression and their
options.

A handler can claim a call and so give it a result that the built-in function has not shown.  Where a store
belongs to formulas without handlers for calls, what a call shows is always its last result.
-/

namespace Session

/-! ## The invariant -/

/-- Whether formulas with a store in common are clones, and all memories are in shape. -/
structure Shaped (unclaimed : StoreId → Prop) (session : Session) : Prop where
  /-- The stores that come next are not in use. -/
  numbered : ∀ f ∈ session.all, f.store.number < session.formulas.length
  sharing : Sharing session.all unclaimed
  memories : session.world.Shaped session.all unclaimed

namespace Shaped

variable {unclaimed : StoreId → Prop} {session : Session} {f : Formula}

theorem empty : Session.empty.Shaped unclaimed :=
  ⟨fun _ => nofun, ⟨fun _ => nofun, fun _ => nofun, fun _ => nofun⟩, fun _ => nofun⟩

theorem onWorld (shaped : session.Shaped unclaimed) {world : World}
    (memories : world.Shaped session.all unclaimed) :
    Shaped unclaimed { session with world := world } :=
  ⟨shaped.numbered, shaped.sharing, memories⟩

theorem evaluateTo (shaped : session.Shaped unclaimed) (known : f ∈ session.all) (depth : Nat)
    (clock : Clock) :
    Shaped unclaimed { session with world := (f.evaluateTo depth clock session.world).2 } := by
  have tree : ∀ g ∈ session.all, Bindings.Within session.all g.bindings :=
    fun g member => g.bindings_within.of_subset (inner_subset_all member)
  exact shaped.onWorld (Formula.evaluateTo_shaped shaped.sharing tree known depth clock shaped.memories)

/-- The memory of a formula is changed, and each of its nodes keeps its shape. -/
theorem modifyMemory (shaped : session.Shaped unclaimed) (known : f ∈ session.all)
    {change : NodeMemory → NodeMemory}
    (keeps : ∀ memory id, (memory.state id).Shaped (f.Calls id) (unclaimed f.store) →
      ((change memory).state id).Shaped (f.Calls id) (unclaimed f.store)) :
    (session.modifyMemory f change).Shaped unclaimed := by
  refine shaped.onWorld fun g member id => ?_
  have before := shaped.memories g member id
  by_cases same : g.store = f.store
  · rw [shaped.sharing.calls_eq member known same, same] at before ⊢
    rw [World.node, World.modifyMemory, World.store_modifyStore_self]
    exact keeps _ id before
  · rw [World.node, World.modifyMemory, World.store_modifyStore_of_ne _ same]
    exact before

theorem inject (shaped : session.Shaped unclaimed) (known : f ∈ session.all) (id : NodeId) (v : Value) :
    (session.modifyMemory f fun memory => memory.inject id v).Shaped unclaimed := by
  refine shaped.modifyMemory known fun memory other before => ?_
  rw [NodeMemory.inject, NodeMemory.modify]
  by_cases itself : other = id
  · subst itself
    rw [NodeMemory.state_setState_self]
    exact before.inject (some v)
  · rw [NodeMemory.state_setState_of_ne _ itself]
    exact before

theorem resetCall (shaped : session.Shaped unclaimed) (known : f ∈ session.all) (id : NodeId) :
    (session.modifyMemory f fun memory => memory.reset id).Shaped unclaimed := by
  refine shaped.modifyMemory known fun memory other before => ?_
  by_cases itself : other = id
  · subst itself
    rw [NodeMemory.state_reset_self]
    exact .reset _
  · rw [NodeMemory.state_reset_of_ne _ itself]
    exact before

theorem resetAll (shaped : session.Shaped unclaimed) (known : f ∈ session.all) :
    (session.modifyMemory f NodeMemory.resetAll).Shaped unclaimed := by
  refine shaped.modifyMemory known fun memory id _ => ?_
  rw [NodeMemory.state_resetAll]
  exact .reset _

theorem setCancelled (shaped : session.Shaped unclaimed) (f : Formula) (cancelled : Bool) :
    (session.setCancelled f cancelled).Shaped unclaimed := by
  refine shaped.onWorld fun g member id => ?_
  rw [World.node, ← (session.world.alike_setCancelled f.store g.store cancelled).memory]
  exact shaped.memories g member id

/-- The formulas change, but each of them has its store, expression and options from one that was there, and
gets no handlers for calls where there are to be none. -/
theorem onFormulas (shaped : session.Shaped unclaimed) {formulas : List Formula}
    (longer : session.formulas.length ≤ formulas.length)
    (origin : ∀ g ∈ all { session with formulas := formulas }, ∃ f ∈ session.all,
      g.store = f.store ∧ g.expression = f.expression ∧ g.options = f.options ∧
        (unclaimed g.store → g.functionHandlers = [])) :
    Shaped unclaimed { session with formulas := formulas } := by
  refine ⟨fun g member => ?numbered, ⟨fun g member h also same => ?single, fun g member => ?consistent,
    fun g member => ?unhandled⟩, fun g member id => ?memories⟩
  case numbered =>
    rcases origin g member with ⟨f, before, store, _⟩
    rw [store]
    exact Nat.lt_of_lt_of_le (shaped.numbered f before) longer
  case single =>
    rcases origin g member with ⟨f, before, store, expression, options, _⟩
    rcases origin h also with ⟨k, alsoBefore, alsoStore, alsoExpression, alsoOptions, _⟩
    rw [expression, options, alsoExpression, alsoOptions]
    exact shaped.sharing.single f before k alsoBefore (store.symm.trans (same.trans alsoStore))
  case consistent =>
    rcases origin g member with ⟨f, before, _, expression, _⟩
    rw [expression]
    exact shaped.sharing.consistent f before
  case unhandled =>
    rcases origin g member with ⟨_, _, _, _, _, unhandled⟩
    exact unhandled
  case memories =>
    rcases origin g member with ⟨f, before, store, expression, options, _⟩
    have calls : g.Calls id = f.Calls id := by
      funext function
      rw [Formula.Calls, Formula.Calls, expression, options]
    rw [calls, store]
    exact shaped.memories f before id

theorem replace (shaped : session.Shaped unclaimed) (known : f ∈ session.all) (index : Nat) {g : Formula}
    (store : g.store = f.store) (expression : g.expression = f.expression)
    (options : g.options = f.options) (unhandled : unclaimed g.store → g.functionHandlers = [])
    (inside : g.inner ⊆ session.all) : (session.replace index g).Shaped unclaimed := by
  refine shaped.onFormulas (Nat.le_of_eq List.length_set.symm) fun h member => ?_
  rcases mem_all_replace inside member with rfl | before
  · exact ⟨f, known, store, expression, options, unhandled⟩
  · exact ⟨h, before, rfl, rfl, rfl, shaped.sharing.unhandled h before⟩

theorem clone (shaped : session.Shaped unclaimed) (known : f ∈ session.all) :
    Shaped unclaimed ⟨session.formulas ++ [f], session.world.host f.store⟩ := by
  have cloned : Shaped unclaimed { session with formulas := session.formulas ++ [f] } := by
    refine shaped.onFormulas (by simp) fun g member => ?_
    have before : g ∈ session.all := by
      rcases mem_all_add (inner_subset_all known) member with rfl | before
      · exact known
      · exact before
    exact ⟨g, before, rfl, rfl, rfl, shaped.sharing.unhandled g before⟩
  exact cloned.onWorld cloned.memories

/-- A formula that is defined is new to the session, and so is its store. -/
theorem define (shaped : session.Shaped unclaimed) {expression : Expr} {draft : FormulaDraft}
    {defined : Session} (consistent : expression.Consistent)
    (unhandled : unclaimed ⟨session.formulas.length⟩ → draft.functionScripts = [])
    (done : session.define? expression draft = some defined) : defined.Shaped unclaimed := by
  rcases define?_eq_some done with ⟨f, store, rfl, _, functionHandlers, inside, rfl⟩
  have origin : ∀ {g world}, g ∈ all ⟨session.formulas ++ [f], world⟩ → g = f ∨ g ∈ session.all :=
    mem_all_add inside
  have apart : ∀ g ∈ session.all, g.store ≠ f.store := by
    intro g member same
    have below := shaped.numbered g member
    rw [same, store] at below
    exact Nat.lt_irrefl _ below
  have longer : session.formulas.length < (session.formulas ++ [f]).length := by simp
  refine ⟨fun g member => ?numbered, ⟨fun g member h also same => ?single, fun g member => ?consistent,
    fun g member => ?unclaimed⟩, fun g member id => ?memories⟩
  case numbered =>
    rcases origin member with rfl | before
    · rw [store]
      exact longer
    · exact Nat.lt_trans (shaped.numbered g before) longer
  case single =>
    rcases origin member with rfl | before <;> rcases origin also with rfl | alsoBefore
    · exact ⟨rfl, rfl⟩
    · exact absurd same.symm (apart h alsoBefore)
    · exact absurd same (apart g before)
    · exact shaped.sharing.single g before h alsoBefore same
  case consistent =>
    rcases origin member with rfl | before
    · exact consistent
    · exact shaped.sharing.consistent g before
  case unclaimed =>
    rcases origin member with rfl | before
    · intro alone
      rw [functionHandlers, unhandled (store ▸ alone)]
      rfl
    · exact shaped.sharing.unhandled g before
  case memories =>
    rw [World.node, World.store_host]
    rcases origin member with rfl | before
    · rw [store, World.store_setStore_self]
      exact .blank
    · rw [World.store_setStore_of_ne _ (store ▸ apart g before)]
      exact shaped.memories g before id

theorem perform (shaped : session.Shaped unclaimed) {index : Nat} {command : Command} {reply : Reply}
    {after : Session} (done : session.perform? index command = some (reply, after)) :
    after.Shaped unclaimed := by
  rcases effect_of_perform? done with ⟨f, found, effect⟩
  have known := mem_all_of_mem (List.mem_of_getElem? found)
  cases effect with
  | evaluates clock => exact shaped.evaluateTo known depthLimit clock
  | rebinds bindings inside =>
    exact shaped.replace known index rfl rfl rfl (shaped.sharing.unhandled f known) inside
  | clones => exact shaped.clone known
  | injects id v _ => exact shaped.inject known id v
  | resets => exact shaped.resetAll known
  | resetsCall id => exact shaped.resetCall known id
  | flags cancelled => exact shaped.setCancelled f cancelled
  | nothing => exact shaped

end Shaped

/-! ## What a host can do -/

/-- Whether a host can bring about a session, while formulas in some stores get no handlers for calls.  It
defines formulas over any consistent expressions, gives them handlers, evaluates them to any depth, feeds
and resets any nodes and carries out commands, in any order. -/
inductive Reached (unclaimed : StoreId → Prop) : Session → Prop where
  | empty : Reached unclaimed empty
  | define {session defined : Session} {expression : Expr} {draft : FormulaDraft} :
      Reached unclaimed session → expression.Consistent →
        (unclaimed ⟨session.formulas.length⟩ → draft.functionScripts = []) →
        session.define? expression draft = some defined → Reached unclaimed defined
  | handle {session : Session} {index : Nat} {f : Formula}
      (identifierHandlers functionHandlers : List Handler) :
      Reached unclaimed session → session.formulas[index]? = some f →
        (unclaimed f.store → functionHandlers = []) →
        Reached unclaimed (session.replace index
          { f with identifierHandlers := identifierHandlers, functionHandlers := functionHandlers })
  | evaluate {session : Session} {f : Formula} (depth : Nat) (clock : Clock) :
      Reached unclaimed session → f ∈ session.all →
        Reached unclaimed { session with world := (f.evaluateTo depth clock session.world).2 }
  | inject {session : Session} {f : Formula} (id : NodeId) (v : Value) :
      Reached unclaimed session → f ∈ session.all →
        Reached unclaimed (session.modifyMemory f fun memory => memory.inject id v)
  | resetCall {session : Session} {f : Formula} (id : NodeId) :
      Reached unclaimed session → f ∈ session.all →
        Reached unclaimed (session.modifyMemory f fun memory => memory.reset id)
  | perform {session after : Session} {index : Nat} {command : Command} {reply : Reply} :
      Reached unclaimed session → session.perform? index command = some (reply, after) →
        Reached unclaimed after
  | collectNotes {session : Session} :
      Reached unclaimed session → Reached unclaimed session.collectNotes.2

theorem Reached.shaped {unclaimed : StoreId → Prop} {session : Session}
    (reached : session.Reached unclaimed) : session.Shaped unclaimed := by
  induction reached with
  | empty => exact .empty
  | define _ consistent unhandled done shaped => exact shaped.define consistent unhandled done
  | @handle session index f identifierHandlers functionHandlers _ found unhandled shaped =>
    have known := mem_all_of_mem (List.mem_of_getElem? found)
    refine shaped.replace known index rfl rfl rfl unhandled ?_
    rw [Formula.inner_eq_innerOfTable]
    exact f.inner_eq_innerOfTable ▸ inner_subset_all known
  | evaluate depth clock _ known shaped => exact shaped.evaluateTo known depth clock
  | inject id v _ known shaped => exact shaped.inject known id v
  | resetCall id _ known shaped => exact shaped.resetCall known id
  | perform _ done shaped => exact shaped.perform done
  | collectNotes _ shaped => exact shaped.onWorld shaped.memories

/-- What a call remembers fits its function, whatever a host does.  Only `init` freezes a value, only the
smoothings have stages and as many as they should, only functions with memory know a step, and only two
functions show something; where no handler can claim a call, this is its last result.  So a smoothing always
comes to the last one of its stages, and there is one. -/
theorem memory_fits_function {unclaimed : StoreId → Prop} {session : Session}
    (reached : session.Reached unclaimed) :
    (∀ f ∈ session.all, ∀ id state, (session.memoryOf f).get? id = some state →
      (∀ first second, f.Calls id first → f.Calls id second → first = second) ∧
      (∀ v, state.temporal = .frozen v → f.Calls id .init) ∧
      (∀ levels, state.temporal = .stages levels →
        (f.Calls id .smooth1 ∧ levels.length = 1) ∨ (f.Calls id .smooth3 ∧ levels.length = 3) ∨
          (f.Calls id .smoothN ∧ 1 ≤ levels.length ∧ levels.length ≤ 64)) ∧
      (state.lastStep ≠ none → ∃ function, f.Calls id function) ∧
      (state.external ≠ none → f.Calls id .value ∨ f.Calls id .externalUpdate) ∧
      (unclaimed f.store → state.external = none ∨ state.external = state.lastValue)) ∧
    ∀ (context : Context) (id : NodeId) (name : String) (arguments : List Argument)
      (function : TemporalFunction) (world after : World) (v : Value),
      Function.resolve name context.options.ignoreCase = .ok (.temporal function) →
      (function = .smooth1 ∨ function = .smooth3 ∨ function = .smoothN) →
      callFunction context id name arguments world = .ok v after →
      ∃ levels last, (after.node context.store id).temporal = .stages levels ∧
        levels.getLast? = some last ∧ v = .float last := by
  refine ⟨fun f member id state found => ?_, fun context id name arguments function world after v
    resolved smoothing done => callFunction_smoothing resolved smoothing done⟩
  have known : (session.memoryOf f).state id = state := by rw [NodeMemory.state, found]; rfl
  have shape : state.Shaped (f.Calls id) (unclaimed f.store) :=
    known ▸ reached.shaped.memories f member id
  have single : ∀ first second, f.Calls id first → f.Calls id second → first = second := by
    intro first second here there
    rcases here with ⟨name, present, resolved⟩
    have same := there.eq_of_mem (reached.shaped.sharing.consistent f member) present
    exact Function.temporal.inj (Except.ok.inj (resolved.symm.trans same))
  refine ⟨single, shape.frozen, fun levels smooths => ?stages, fun stepped => ?step, fun shown => ?shown,
    fun alone => ?noted⟩
  case stages =>
    rcases shape.stages levels smooths with ⟨function, called, keeps⟩
    cases function with
    | smooth1 => exact .inl ⟨called, keeps⟩
    | smooth3 => exact .inr (.inl ⟨called, keeps⟩)
    | smoothN => exact .inr (.inr ⟨called, keeps⟩)
    | value | init | externalUpdate | ramp | step | pulse | normal => exact keeps.elim
  case step =>
    rcases Option.ne_none_iff_exists'.mp stepped with ⟨step, last⟩
    exact shape.stepped step last
  case shown =>
    rcases Option.ne_none_iff_exists'.mp shown with ⟨v, external⟩
    exact shape.shown v external
  case noted =>
    cases external : state.external with
    | none => exact .inl rfl
    | some v => exact .inr (shape.noted alone v external).symm

/-- A smoothing of three stages and a value that is shown, under one parameter. -/
def gaugeExpression : Expr :=
  .binary .plus
    (.call ⟨0⟩ "smthN" [.identifier "x", .literal (.float (.ofNat 2)), .literal (.integer 3)])
    (.call ⟨1⟩ "value" [.identifier "x"])

def gaugeDraft : FormulaDraft :=
  ⟨.literal .null, .default, [("x", .value (.integer 4))], [], []⟩

/-- The session of this formula. -/
def gauges : Session := (Session.empty.define? gaugeExpression gaugeDraft).getD Session.empty

def gauge : Formula :=
  (Formula.ofExpr gaugeExpression .default ⟨0⟩).bind "x" (.value (.integer 4))

theorem gauges_formulas : gauges.formulas = [gauge] := rfl

theorem gauges_fit :
    let after : Session :=
      { gauges with world := (gauge.evaluateTo 1 ⟨none, some 3, none⟩ gauges.world).2 }
    ((after.world.node ⟨0⟩ ⟨0⟩).temporal = .stages [.ofNat 4, .ofNat 4, .ofNat 4] ∧
      (after.world.node ⟨0⟩ ⟨1⟩).external = some (.integer 4)) ∧
    ∀ f ∈ after.all, ∀ id state, (after.memoryOf f).get? id = some state →
      state.external = none ∨ state.external = state.lastValue := by
  intro after
  have distinct : (gaugeExpression.applications.map Application.id).Nodup := by decide
  have consistent : gaugeExpression.Consistent :=
    fun _ inFirst _ inSecond same => List.inj_on_of_nodup_map distinct inFirst inSecond same
  have started : gauges.Reached fun _ => True :=
    .define .empty consistent (fun _ => rfl) (rfl : empty.define? gaugeExpression gaugeDraft = some gauges)
  have known : gauge ∈ gauges.all := by
    refine mem_all_of_mem ?_
    rw [gauges_formulas]
    exact List.mem_cons_self
  have fits := memory_fits_function (started.evaluate 1 ⟨none, some 3, none⟩ known)
  refine ⟨⟨by decide +kernel, by decide +kernel⟩, fun f member id state found => ?_⟩
  exact (fits.1 f member id state found).2.2.2.2.2 trivial

end Session

end ClockedFormula
