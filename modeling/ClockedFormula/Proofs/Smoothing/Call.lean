import ClockedFormula.Proofs.Evaluation.Plain
import ClockedFormula.Proofs.Expr.Application
import ClockedFormula.Proofs.Recipe.Following

namespace ClockedFormula

open Recipe Walk

/-!
# Calls of the smoothing functions

The three smoothing functions differ only in how a call comes by the number of its stages and in the
operands that it has.  `Smooths` lists the cases, and everything after it is said once for all of them.

A call first gathers what it needs: its operands and its stages.  Only then does it write, and nothing
can fail any more.  So a call either leaves the stages that `Supply.stages` describes, or it fails and
leaves what was there when it was registered at the clock.  All this holds in any context, as long as
the operands leave the memory of the call itself alone.
-/

namespace TemporalFunction

variable {count : Nat}

/-- The number of stages, where an operand gives it. -/
def askOrder (position : Fin count) : Recipe Workspace count Nat :=
  ask position fun v => Recipe.ofAttempt (v.toInt64.bind order?)

/-- The calls that smooth: how they come by the number of their stages, and which of their operands are
the input, the delay and the initial value. -/
inductive Smooths : TemporalFunction → (count : Nat) → (order : Recipe Workspace count Nat) →
    (input delay : Fin count) → (initial : Option (Fin count)) → Prop
  | one : Smooths smooth1 2 (answer 1) 0 1 none
  | oneFrom : Smooths smooth1 3 (answer 1) 0 1 (some 2)
  | three : Smooths smooth3 2 (answer 3) 0 1 none
  | threeFrom : Smooths smooth3 3 (answer 3) 0 1 (some 2)
  | any : Smooths smoothN 3 (askOrder 2) 0 1 none
  | anyFrom : Smooths smoothN 4 (askOrder 2) 0 1 (some 3)

namespace Smooths

variable {f : TemporalFunction} {order : Recipe Workspace count Nat} {input delay : Fin count}
  {initial : Option (Fin count)}

theorem recipe?_eq (smooths : Smooths f count order input delay initial) :
    f.recipe? count = some fun setting =>
      order.bind fun order => smooth setting order input delay initial := by
  have asked : ∀ {count : Nat} (position : Fin count)
      (next : Nat → Recipe Workspace count Value),
      (askOrder position).bind next =
        (ask position answer).bind fun v =>
          (Recipe.ofAttempt v.toInt64).bind fun i =>
            (Recipe.ofAttempt (order? i)).bind next := by
    intro count position next
    refine congrArg (ask position) (funext fun v => ?_)
    change (Recipe.ofAttempt (v.toInt64.bind order?)).bind next =
      (Recipe.ofAttempt v.toInt64).bind fun i => (Recipe.ofAttempt (order? i)).bind next
    cases v.toInt64 <;> rfl
  cases smooths with
  | one => rfl
  | oneFrom => rfl
  | three => rfl
  | threeFrom => rfl
  | any => exact congrArg some (funext fun setting => (asked _ _).symm)
  | anyFrom => exact congrArg some (funext fun setting => (asked _ _).symm)

/-- There are no other calls of the three functions. -/
theorem exists_of_recipe? {f : TemporalFunction}
    (smoothing : f = smooth1 ∨ f = smooth3 ∨ f = smoothN)
    (accepted : (f.recipe? count).isSome = true) :
    ∃ order input delay initial, Smooths f count order input delay initial := by
  rcases smoothing with rfl | rfl | rfl
  · match count, accepted with
    | 2, _ => exact ⟨_, _, _, _, one⟩
    | 3, _ => exact ⟨_, _, _, _, oneFrom⟩
  · match count, accepted with
    | 2, _ => exact ⟨_, _, _, _, three⟩
    | 3, _ => exact ⟨_, _, _, _, threeFrom⟩
  · match count, accepted with
    | 3, _ => exact ⟨_, _, _, _, any⟩
    | 4, _ => exact ⟨_, _, _, _, anyFrom⟩

theorem order_stateless (smooths : Smooths f count order input delay initial) :
    order.Stateless := by
  have asked : ∀ {count : Nat} (position : Fin count), (askOrder position).Stateless :=
    fun _ _ => Stateless.ofAttempt _
  cases smooths with
  | one => exact trivial
  | oneFrom => exact trivial
  | three => exact trivial
  | threeFrom => exact trivial
  | any => exact asked _
  | anyFrom => exact asked _

end Smooths

/-! ## What a call needs, and what it comes to -/

end TemporalFunction

/-- The operands of a call that smooths. -/
structure Supply where
  order : Nat
  input : Double
  delay : Double
  initial : Option Double

namespace Supply

/-- The level at which all stages start. -/
def level (supply : Supply) : Double := supply.initial.getD supply.input

/-- The stages after a call, given what was there when the call was registered. -/
def stages (supply : Supply) (deltaTime : Double) (integrates : Bool) : Temporal → List Double
  | .stages before =>
    if before.length = supply.order then
      if integrates then
        Smoothing.advance (Smoothing.share deltaTime supply.delay supply.order) supply.input before
      else before
    else List.replicate supply.order supply.level
  | _ => List.replicate supply.order supply.level

end Supply

namespace TemporalFunction

variable {count : Nat}

/-- Ask for the initial value, if there is an operand for it. -/
def askInitial : Option (Fin count) → Recipe Workspace count (Option Double)
  | none => answer none
  | some position => (operandDouble position).bind fun x => answer (some x)

/-- Ask for all operands, in the order in which a call asks for them. -/
def supply (order : Recipe Workspace count Nat) (input delay : Fin count)
    (initial : Option (Fin count)) : Recipe Workspace count Supply :=
  order.bind fun order =>
    (operandDouble input).bind fun input =>
      (operandDouble delay).bind fun delay =>
        (askInitial initial).bind fun initial => answer ⟨order, input, delay, initial⟩

/-- The stages as they are going to be; the initial value is asked for only when they start. -/
def nextStages (setting : Setting) (order : Nat) (input delay : Double)
    (initial : Option (Fin count)) : Temporal → Recipe Workspace count (List Double)
  | .stages stages =>
    if stages.length = order then
      answer <|
        if setting.progress.integrates then
          Smoothing.advance (Smoothing.share setting.deltaTime delay order) input stages
        else stages
    else smooth.restart order input initial
  | _ => smooth.restart order input initial

/-- The part of a smoothing before it writes: the input and the stages as they are going to be. -/
def gather (setting : Setting) (order : Nat) (input delay : Fin count)
    (initial : Option (Fin count)) : Recipe Workspace count (Double × List Double) :=
  (operandDouble input).bind fun input =>
    (operandDouble delay).bind fun delay =>
      readState fun workspace =>
        (nextStages setting order input delay initial workspace.node.temporal).bind fun stages =>
          answer (input, stages)

theorem smooth_eq_gather (setting : Setting) (order : Nat) (input delay : Fin count)
    (initial : Option (Fin count)) :
    smooth setting order input delay initial =
      (gather setting order input delay initial).bind fun gathered =>
        (remember fun node => { node with temporal := .stages gathered.2 }).bind fun _ =>
          answer (.float (gathered.2.getLastD gathered.1)) := by
  rw [smooth, gather]
  simp only [bind_def, pure_def, Recipe.bind_assoc, answer_bind]
  apply congrArg (Recipe.bind _)
  funext input
  apply congrArg (Recipe.bind _)
  funext delay
  apply congrArg readState
  funext workspace
  simp only [answer_bind, Recipe.bind_assoc]
  cases workspace.node.temporal with
  | empty => rfl
  | frozen v => rfl
  | stages stages =>
    dsimp only [nextStages]
    by_cases sameOrder : stages.length = order
    · simp only [if_pos sameOrder, answer_bind]
    · simp only [if_neg sameOrder]

theorem nextStages_stateless (setting : Setting) (order : Nat) (x d : Double)
    (initial : Option (Fin count)) (temporal : Temporal) :
    (nextStages setting order x d initial temporal).Stateless := by
  have restarts : (smooth.restart order x initial).Stateless := by
    cases initial with
    | none => exact trivial
    | some position => exact (Stateless.operandDouble position).bind fun _ => trivial
  cases temporal with
  | empty => exact restarts
  | frozen v => exact restarts
  | stages stages =>
    dsimp only [nextStages]
    by_cases sameOrder : stages.length = order
    · rw [if_pos sameOrder]
      exact trivial
    · rw [if_neg sameOrder]
      exact restarts

theorem gather_writesNothing (setting : Setting) (order : Nat) (input delay : Fin count)
    (initial : Option (Fin count)) :
    (gather setting order input delay initial).WritesNothing :=
  (WritesNothing.operandDouble input).bind fun x =>
    (WritesNothing.operandDouble delay).bind fun d workspace =>
      (WritesNothing.of_stateless (nextStages_stateless setting order x d initial
        workspace.node.temporal)).bind fun _ => trivial

/-! ## Following a smoothing -/

section Following

variable {store : StoreId} {id : NodeId} {operands : Fin count → Walk Value}

/-- Follow a recipe over operands, with the memory of a call as its state. -/
def followAt {α : Type} (store : StoreId) (id : NodeId) (operands : Fin count → Walk Value)
    (recipe : Recipe Workspace count α) : Walk α :=
  recipe.follow operands (Workspace.read store id) (Workspace.write store id)

theorem followAt_bind {α β : Type} (recipe : Recipe Workspace count α)
    (next : α → Recipe Workspace count β) :
    followAt store id operands (recipe.bind next) =
      followAt store id operands recipe >>= fun a => followAt store id operands (next a) :=
  follow_bind _ _ _ recipe next

theorem followAt_spares {α : Type} (spares : ∀ position, (operands position).Spares store id)
    {recipe : Recipe Workspace count α} (quiet : recipe.WritesNothing) :
    (followAt store id operands recipe).Spares store id :=
  quiet.leaves_follow (fun world => world.node store id) spares fun _ => rfl

theorem followAt_remember (change : NodeState → NodeState) (world : World) :
    followAt store id operands (remember change) world =
      .ok () (world.setWorkspace store id ⟨change (world.node store id), world.random store⟩) := rfl

/-- A call that is supplied has come to each of its operands in turn. -/
theorem followAt_supply {order : Recipe Workspace count Nat} {input delay : Fin count}
    {initial : Option (Fin count)} {world last : World} {supplied : Supply}
    (done : followAt store id operands (supply order input delay initial) world =
      .ok supplied last) :
    ∃ first, followAt store id operands order world = .ok supplied.order first ∧
      ∃ second, followAt store id operands (operandDouble input) first =
          .ok supplied.input second ∧
        ∃ third, followAt store id operands (operandDouble delay) second =
            .ok supplied.delay third ∧
          followAt store id operands (askInitial initial) third = .ok supplied.initial last := by
  rw [supply, followAt_bind] at done
  rcases bind_eq_ok done with ⟨number, first, ordered, done⟩
  rw [followAt_bind] at done
  rcases bind_eq_ok done with ⟨x, second, entered, done⟩
  rw [followAt_bind] at done
  rcases bind_eq_ok done with ⟨d, third, delayed, done⟩
  rw [followAt_bind] at done
  rcases bind_eq_ok done with ⟨a, fourth, begun, done⟩
  cases done
  exact ⟨first, ordered, second, entered, third, delayed, begun⟩

theorem followAt_nextStages (setting : Setting) {initial : Option (Fin count)} {supplied : Supply}
    {world last : World}
    (begun : followAt store id operands (askInitial initial) world = .ok supplied.initial last)
    (temporal : Temporal) :
    ∃ after,
      followAt store id operands
          (nextStages setting supplied.order supplied.input supplied.delay initial temporal)
          world =
        .ok (supplied.stages setting.deltaTime setting.progress.integrates temporal) after := by
  have restarts : ∃ after,
      followAt store id operands (smooth.restart supplied.order supplied.input initial) world =
        .ok (List.replicate supplied.order supplied.level) after := by
    cases initial with
    | none =>
      have absent : supplied.initial = none := by
        injection begun with same
        exact same.symm
      rw [Supply.level, absent]
      exact ⟨world, rfl⟩
    | some position =>
      rw [askInitial, followAt_bind] at begun
      rcases bind_eq_ok begun with ⟨x, after, asked, same⟩
      have present : supplied.initial = some x := by
        injection same with same
        exact same.symm
      rw [smooth.restart, Supply.level, present]
      exact ⟨after, (congrFun (followAt_bind _ _) world).trans (bind_ok asked _)⟩
  cases temporal with
  | empty => exact restarts
  | frozen v => exact restarts
  | stages before =>
    dsimp only [nextStages, Supply.stages]
    by_cases sameOrder : before.length = supplied.order
    · rw [if_pos sameOrder, if_pos sameOrder]
      exact ⟨world, rfl⟩
    · rw [if_neg sameOrder, if_neg sameOrder]
      exact restarts

theorem followAt_gather (setting : Setting) {input delay : Fin count}
    {initial : Option (Fin count)} {supplied : Supply} {first second third last : World}
    (spares : ∀ position, (operands position).Spares store id)
    (entered : followAt store id operands (operandDouble input) first = .ok supplied.input second)
    (delayed : followAt store id operands (operandDouble delay) second = .ok supplied.delay third)
    (begun : followAt store id operands (askInitial initial) third = .ok supplied.initial last) :
    ∃ after,
      followAt store id operands (gather setting supplied.order input delay initial) first =
        .ok (supplied.input, supplied.stages setting.deltaTime setting.progress.integrates
          (first.node store id).temporal) after := by
  have kept : third.node store id = first.node store id :=
    ((followAt_spares spares (WritesNothing.operandDouble delay)).of_ok delayed).trans
      ((followAt_spares spares (WritesNothing.operandDouble input)).of_ok entered)
  rcases followAt_nextStages setting begun (first.node store id).temporal with ⟨after, staged⟩
  refine ⟨after, ?_⟩
  rw [gather, followAt_bind, bind_ok entered, followAt_bind, bind_ok delayed, ← kept]
  rw [← kept] at staged
  exact (congrFun (followAt_bind _ _) third).trans (bind_ok staged _)

/-- What a smoothing comes to, and what its call remembers then. -/
theorem followAt_smooth (setting : Setting) {input delay : Fin count}
    {initial : Option (Fin count)} {supplied : Supply} {first second third last : World}
    (spares : ∀ position, (operands position).Spares store id)
    (entered : followAt store id operands (operandDouble input) first = .ok supplied.input second)
    (delayed : followAt store id operands (operandDouble delay) second = .ok supplied.delay third)
    (begun : followAt store id operands (askInitial initial) third = .ok supplied.initial last) :
    ∃ stages after,
      stages = supplied.stages setting.deltaTime setting.progress.integrates
          (first.node store id).temporal ∧
        followAt store id operands (smooth setting supplied.order input delay initial) first =
          .ok (.float (stages.getLastD supplied.input)) after ∧
        after.node store id = { first.node store id with temporal := .stages stages } := by
  rcases followAt_gather setting spares entered delayed begun with ⟨middle, gathered⟩
  have kept := (followAt_spares spares (gather_writesNothing _ _ _ _ _)).of_ok gathered
  generalize supplied.stages setting.deltaTime setting.progress.integrates
    (first.node store id).temporal = stages at gathered
  refine ⟨stages, middle.setWorkspace store id
    ⟨{ first.node store id with temporal := .stages stages }, middle.random store⟩, rfl, ?_,
    World.node_setWorkspace_self _ _ _ _⟩
  rw [smooth_eq_gather, followAt_bind, bind_ok gathered, ← kept]
  rfl

/-- A smoothing that fails has written nothing. -/
theorem followAt_smooth_error {setting : Setting} {order : Nat} {input delay : Fin count}
    {initial : Option (Fin count)} {world after : World} {reason : Interruption}
    (spares : ∀ position, (operands position).Spares store id)
    (stopped : followAt store id operands (smooth setting order input delay initial) world =
      .error reason after) :
    after.node store id = world.node store id := by
  rw [smooth_eq_gather, followAt_bind] at stopped
  rcases bind_eq_error stopped with early | ⟨gathered, middle, _, late⟩
  · exact (followAt_spares spares (gather_writesNothing _ _ _ _ _)).of_error early
  · rw [followAt_bind, bind_ok (followAt_remember _ middle)] at late
    cases late

end Following

end TemporalFunction

/-! ## The call of a built-in function -/

open TemporalFunction

variable {context : Context} {id : NodeId} {name : String} {count : Nat}
  {operands : Fin count → Walk Value} {f : TemporalFunction} {order : Recipe Workspace count Nat}
  {input delay : Fin count} {initial : Option (Fin count)}

/-- What a call finds when it is registered at the clock: how the clock has moved since the call before,
and what the call remembers. -/
def Context.registers (context : Context) (node : NodeState) : Progress × NodeState :=
  node.beginCall context.clock.step context.options.resetOnNewRun

/-- The time between steps. -/
def Context.deltaTime (context : Context) : Double :=
  context.clock.deltaTime.getD context.options.defaultDeltaTime

/-- The stages after a call, given what the call remembered before. -/
def Supply.stagesAfter (supplied : Supply) (context : Context) (node : NodeState) : List Double :=
  supplied.stages context.deltaTime (context.registers node).1.integrates
    (context.registers node).2.temporal

/-- Register a call and then ask for all its operands. -/
def supplying (context : Context) (id : NodeId) (operands : Fin count → Walk Value)
    (order : Recipe Workspace count Nat) (input delay : Fin count)
    (initial : Option (Fin count)) : Walk Supply :=
  beginCall context id >>= fun _ =>
    followAt context.store id operands (supply order input delay initial)

namespace TemporalFunction.Smooths

theorem callOperands_eq (smooths : Smooths f count order input delay initial)
    (resolved : Function.resolve name context.options.ignoreCase = .ok (.temporal f))
    (world : World) :
    callOperands context id name count operands world =
      (followAt context.store id operands order >>= fun order =>
          followAt context.store id operands
            (smooth ⟨context.clock, context.options,
              (context.registers (world.node context.store id)).1⟩ order input delay initial))
        (world.setNode context.store id (context.registers (world.node context.store id)).2) := by
  rw [callOperands_temporal resolved, smooths.recipe?_eq, ← followAt_bind]
  rfl

/-- A call that is supplied comes to its last stage, and remembers its stages. -/
theorem callOperands_ok (smooths : Smooths f count order input delay initial)
    (resolved : Function.resolve name context.options.ignoreCase = .ok (.temporal f))
    (spares : ∀ position, (operands position).Spares context.store id)
    {world last : World} {supplied : Supply}
    (done : supplying context id operands order input delay initial world = .ok supplied last) :
    ∃ stages after,
      stages = supplied.stagesAfter context (world.node context.store id) ∧
        callOperands context id name count operands world =
          .ok (.float (stages.getLastD supplied.input)) after ∧
        after.node context.store id =
          { (context.registers (world.node context.store id)).2 with
            temporal := .stages stages } := by
  rcases followAt_supply ((bind_ok (beginCall_eq context id world) _).symm.trans done) with
    ⟨first, ordered, second, entered, third, delayed, begun⟩
  have kept : first.node context.store id =
      (context.registers (world.node context.store id)).2 :=
    ((followAt_spares spares (WritesNothing.of_stateless smooths.order_stateless)).of_ok ordered).trans
      (World.node_setNode_self _ _ _ _)
  rcases followAt_smooth
      ⟨context.clock, context.options, (context.registers (world.node context.store id)).1⟩
      spares entered delayed begun with
    ⟨stages, after, staged, smoothed, remembered⟩
  rw [kept] at staged remembered
  refine ⟨stages, after, staged, ?_, remembered⟩
  rw [smooths.callOperands_eq resolved]
  exact (bind_ok ordered _).trans smoothed

/-- A call that fails remembers what it did when it was registered at the clock. -/
theorem callOperands_error (smooths : Smooths f count order input delay initial)
    (resolved : Function.resolve name context.options.ignoreCase = .ok (.temporal f))
    (spares : ∀ position, (operands position).Spares context.store id)
    {world after : World} {reason : Interruption}
    (stopped : callOperands context id name count operands world = .error reason after) :
    after.node context.store id = (context.registers (world.node context.store id)).2 := by
  have ordering := followAt_spares spares (WritesNothing.of_stateless smooths.order_stateless)
  have registered := World.node_setNode_self world context.store id
    (context.registers (world.node context.store id)).2
  rw [smooths.callOperands_eq resolved] at stopped
  rcases bind_eq_error stopped with early | ⟨number, middle, ordered, late⟩
  · exact (ordering.of_error early).trans registered
  · exact (followAt_smooth_error spares late).trans ((ordering.of_ok ordered).trans registered)

end TemporalFunction.Smooths

namespace Smoothing

/-- A call that smooths, as it stands in an expression. -/
structure Node where
  application : Application
  function : TemporalFunction
  order : Recipe Workspace application.arguments.length Nat
  input : Fin application.arguments.length
  delay : Fin application.arguments.length
  initial : Option (Fin application.arguments.length)
  smooths : function.Smooths application.arguments.length order input delay initial

namespace Node

/-- Register the call and ask for all its operands. -/
def supplying (node : Node) (enter : Context → Formula → Walk Value) (context : Context) :
    Walk Supply :=
  ClockedFormula.supplying context node.application.id
    (fun position =>
      evaluate enter context (node.application.arguments.get position))
    node.order node.input node.delay node.initial

end Node

end Smoothing

end ClockedFormula
