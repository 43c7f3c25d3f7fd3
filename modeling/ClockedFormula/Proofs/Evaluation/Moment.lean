import ClockedFormula.Proofs.Evaluation.Composition
import ClockedFormula.Proofs.Recipe.Following

namespace ClockedFormula

open Walk

/-!
# The calls in a walk

A walk reaches a function call once, several times or not at all; that depends on values.  A moment is
a call together with the world in which a walk reaches it, so everything about the call is known at
that moment: what it will come to, and what it will leave behind.  `moments` lists the moments of the
evaluation of an expression, in the order in which they come.  The context is meant to be plain: what
handlers evaluate on their own account is not listed.

The main statement is that a call is the only owner of its memory.  From one moment of a call to the
next, its memory stays exactly as the earlier moment has left it.
-/

/-- A function call and the world in which a walk reaches it. -/
structure Moment where
  context : Context
  id : NodeId
  name : String
  arguments : List Argument
  world : World

namespace Moment

/-- The walk of the call. -/
def walk (moment : Moment) : Walk Value :=
  evaluateCall moment.context moment.id moment.name moment.arguments

/-- How the call ends. -/
def ending (moment : Moment) : Except Interruption Value := moment.walk.ending moment.world

/-- The world that the call leaves behind. -/
def after (moment : Moment) : World := moment.walk.leaves moment.world

end Moment

/-- What happens during a call of a built-in function, given what happens on the way to an operand. -/
def duringCall {μ : Type} (context : Context) (id : NodeId) (name : String) (count : Nat)
    (operands : Fin count → Walk Value) (inner : Fin count → World → List μ) (world : World) :
    List μ :=
  match Function.resolve name context.options.ignoreCase with
  | .error _ => []
  | .ok (.math f) =>
    match f.recipe? context.options.roundAwayFromZero count with
    | none => []
    | some recipe => recipe.trail operands inner (pure ()) (fun _ => pure ()) world
  | .ok (.temporal f) =>
    match f.recipe? count with
    | none => []
    | some recipe =>
      match beginCall context id world with
      | .error _ _ => []
      | .ok progress begun =>
        (recipe ⟨context.clock, context.options, progress⟩).trail operands inner
          (Workspace.read context.store id) (Workspace.write context.store id) begun

mutual

/-- The moments in the evaluation of an expression. -/
def moments (enter : Context → Formula → Walk Value) (context : Context) :
    Expr → World → List Moment
  | .literal _, _ => []
  | .identifier _, _ => []
  | .unary op operand, world =>
    op.recipe.trail (fun _ => evaluate enter context operand)
      (fun _ => moments enter context operand) (pure ()) (fun _ => pure ()) world
  | .binary op left right, world =>
    op.recipe.trail (operandsOfTwo (evaluate enter context left) (evaluate enter context right))
      (operandsOfTwo (moments enter context left) (moments enter context right))
      (pure ()) (fun _ => pure ()) world
  | .conditional condition thenBranch elseBranch, world =>
    choose.trail
      (operandsOfThree (evaluate enter context condition) (evaluate enter context thenBranch)
        (evaluate enter context elseBranch))
      (operandsOfThree (moments enter context condition) (moments enter context thenBranch)
        (moments enter context elseBranch))
      (pure ()) (fun _ => pure ()) world
  | .call id name arguments, world =>
    ⟨context, id, name, delay enter context arguments, world⟩ ::
      duringCall context id name arguments.length
        (fun position => evaluate enter context (arguments.get position))
        (fun position => (momentsOfAll enter context arguments).getD position fun _ => []) world

/-- The moments in the evaluation of each of several expressions. -/
def momentsOfAll (enter : Context → Formula → Walk Value) (context : Context) :
    List Expr → List (World → List Moment)
  | [] => []
  | e :: rest => moments enter context e :: momentsOfAll enter context rest

end

variable {enter : Context → Formula → Walk Value} {context : Context}

theorem momentsOfAll_eq_map (arguments : List Expr) :
    momentsOfAll enter context arguments = arguments.map (moments enter context) := by
  induction arguments with
  | nil => rfl
  | cons e rest ih => rw [momentsOfAll, ih, List.map_cons]

theorem moments_call (id : NodeId) (name : String) (arguments : List Expr) (world : World) :
    moments enter context (.call id name arguments) world =
      ⟨context, id, name, delay enter context arguments, world⟩ ::
        duringCall context id name arguments.length
          (fun position => evaluate enter context (arguments.get position))
          (fun position => moments enter context (arguments.get position)) world := by
  rw [moments]
  simp [momentsOfAll_eq_map]

theorem Composed.moments_eq {e : Expr} {count : Nat} {recipe : Recipe Unit count Value}
    {parts : Fin count → Expr} (composed : Composed e count recipe parts)
    (enter : Context → Formula → Walk Value) (context : Context) (world : World) :
    moments enter context e world =
      recipe.trail (fun position => evaluate enter context (parts position))
        (fun position => moments enter context (parts position)) (pure ()) (fun _ => pure ())
        world := by
  cases composed with
  | unary op operand => rw [moments]
  | binary op left right =>
    rw [moments, map_operandsOfTwo (evaluate enter context),
      map_operandsOfTwo (moments enter context)]
  | conditional condition thenBranch elseBranch =>
    rw [moments, map_operandsOfThree (evaluate enter context),
      map_operandsOfThree (moments enter context)]

/-! ## What joins the worlds of a walk -/

section Joining

variable {μ : Type} {count : Nat} {operands : Fin count → Walk Value}
  {inner : Fin count → World → List μ}

/-- What can be composed holds from the beginning to the end of a call of a built-in function, if it
holds on the way to the operands and if changes of the call's own memory do not count. -/
theorem callOperands_chain (context : Context) (joins : World → List μ → World → Prop)
    (stay : ∀ world, joins world [] world)
    (compose : ∀ {first second third events later}, joins first events second →
      joins second later third → joins first (events ++ later) third)
    (id : NodeId) (name : String)
    (asks : ∀ position world,
      joins world (inner position world) ((operands position).leaves world))
    (registers : ∀ state world, joins world [] (world.setNode context.store id state))
    (writes : ∀ workspace world, joins world [] (world.setWorkspace context.store id workspace))
    (world : World) :
    joins world (duringCall context id name count operands inner world)
      ((callOperands context id name count operands).leaves world) := by
  have nothing : ∀ e, joins world [] ((Walk.fail e : Walk Value).leaves world) := fun _ => stay world
  rw [duringCall]
  cases resolved : Function.resolve name context.options.ignoreCase with
  | error e =>
    rw [callOperands_unresolved resolved]
    exact nothing e
  | ok f =>
    cases f with
    | math f =>
      have keeps : ∀ world, joins world [] ((pure () : Walk Unit).leaves world) := stay
      rw [callOperands_math resolved]
      dsimp only
      cases f.recipe? context.options.roundAwayFromZero count with
      | none => exact nothing _
      | some recipe =>
        exact Recipe.follow_chain joins stay compose asks keeps (fun _ => keeps) recipe world
    | temporal f =>
      have reads : ∀ world,
          joins world [] ((Workspace.read context.store id).leaves world) := stay
      have stores : ∀ workspace world,
          joins world [] ((Workspace.write context.store id workspace).leaves world) := writes
      rw [leaves, callOperands_temporal resolved]
      dsimp only
      cases f.recipe? count with
      | none => exact nothing (.arityMismatch f.name f.arity.text count)
      | some recipe =>
        exact compose (registers _ world)
          (Recipe.follow_chain joins stay compose asks reads stores _ _)

end Joining

/-- The moment of a call of an expression. -/
def Application.moment (application : Application) (enter : Context → Formula → Walk Value)
    (context : Context) (world : World) : Moment :=
  ⟨context, application.id, application.name, delay enter context application.arguments, world⟩

theorem Application.walk_moment (application : Application)
    (enter : Context → Formula → Walk Value) (context : Context) (world : World) :
    (application.moment enter context world).walk =
      evaluate enter context application.expression := by
  rw [Application.expression, evaluate]
  rfl

/-- A call that comes to a value notes it. -/
theorem Application.moment_ok (enter : Context → Formula → Walk Value) (plain : context.Plain)
    {application : Application} {world after : World} {v : Value}
    (called : callOperands context application.id application.name application.arguments.length
      (fun position => evaluate enter context (application.arguments.get position)) world =
        .ok v after) :
    (application.moment enter context world).ending = .ok v ∧
      (application.moment enter context world).after.node context.store application.id =
        { after.node context.store application.id with lastValue := some v } := by
  have walked := evaluate_call_plain enter plain application.id application.name
    application.arguments world
  rw [called] at walked
  have done : (application.moment enter context world).walk world = _ :=
    (congrFun (application.walk_moment enter context world) world).trans walked
  have left : (application.moment enter context world).after = _ := leaves_ok done
  exact ⟨ending_ok done, left ▸ World.node_setNode_self _ _ _ _⟩

/-- Whether all of some moments are moments of the given calls; the worlds around them play no part. -/
def OnlyOf (enter : Context → Formula → Walk Value) (context : Context)
    (applications : List Application) (_ : World) (events : List Moment) (_ : World) : Prop :=
  ∀ moment ∈ events, ∃ application ∈ applications,
    moment = application.moment enter context moment.world

namespace OnlyOf

variable {applications : List Application} {first second third : World}
  {events later : List Moment}

theorem nil (enter : Context → Formula → Walk Value) (context : Context)
    (applications : List Application) (first second : World) :
    OnlyOf enter context applications first [] second := by
  intro moment member
  cases member

theorem append (here : OnlyOf enter context applications first events second)
    (there : OnlyOf enter context applications second later third) :
    OnlyOf enter context applications first (events ++ later) third := by
  intro moment member
  rcases List.mem_append.mp member with early | late
  · exact here moment early
  · exact there moment late

theorem of_subset {all : List Application} (subset : applications ⊆ all)
    (only : OnlyOf enter context applications first events second) (third : World) :
    OnlyOf enter context all first events third := by
  intro moment member
  rcases only moment member with ⟨application, inside, same⟩
  exact ⟨application, subset inside, same⟩

end OnlyOf

theorem applications_subset_ofAll {arguments : List Expr} {e : Expr} (member : e ∈ arguments) :
    e.applications ⊆ Expr.applicationsOfAll arguments := by
  intro application inside
  exact Expr.mem_applicationsOfAll.mpr ⟨e, member, inside⟩

theorem duringCall_onlyOf (id : NodeId) (name : String) (arguments : List Expr)
    (inside : ∀ e ∈ arguments, ∀ world,
      OnlyOf enter context e.applications world (moments enter context e world) world)
    (world : World) :
    OnlyOf enter context (Expr.applicationsOfAll arguments) world
      (duringCall context id name arguments.length
        (fun position => evaluate enter context (arguments.get position))
        (fun position => moments enter context (arguments.get position)) world) world :=
  have nothing := OnlyOf.nil enter context
    (Expr.applicationsOfAll arguments)
  (callOperands_chain context (OnlyOf enter context (Expr.applicationsOfAll arguments))
    (fun world => nothing world world) OnlyOf.append id name
    (fun position world =>
      (inside _ (List.get_mem arguments position) world).of_subset
        (applications_subset_ofAll (List.get_mem arguments position)) _)
    (fun _ _ => nothing _ _) (fun _ _ => nothing _ _) world).of_subset (List.Subset.refl _) world

/-- A walk reaches no calls but those of its expression. -/
theorem moments_onlyOf (enter : Context → Formula → Walk Value) (context : Context) (e : Expr)
    (world after : World) :
    OnlyOf enter context e.applications world (moments enter context e world) after := by
  induction e using Expr.induct_composed generalizing world after with
  | literal v => exact OnlyOf.nil _ _ _ _ _
  | identifier name => exact OnlyOf.nil _ _ _ _ _
  | composed e count recipe parts composed ih =>
    have nothing := OnlyOf.nil enter context e.applications
    rw [composed.moments_eq]
    exact Recipe.follow_chain (OnlyOf enter context e.applications) (fun world => nothing world world)
      OnlyOf.append
      (fun position world =>
        (ih position world world).of_subset (composed.applications_subset position) _)
      (fun _ => nothing _ _) (fun _ _ => nothing _ _) recipe world
  | call id name arguments ih =>
    rw [moments_call]
    intro moment member
    rcases List.mem_cons.mp member with itself | inside
    · exact ⟨⟨id, name, arguments⟩, List.mem_cons_self, itself ▸ rfl⟩
    · have during := duringCall_onlyOf id name arguments
        (fun e argument world => ih e argument world world) world
      exact during.of_subset (List.subset_cons_self _ _) world moment inside

/-! ## Who changes the memory of a call -/

/-- From the first memory of a call to the last, nothing but its own moments changes it: each of them
finds what the one before has left. -/
def Linked (store : StoreId) (id : NodeId) : NodeState → List Moment → NodeState → Prop
  | first, [], last => last = first
  | first, moment :: rest, last =>
    moment.world.node store id = first ∧ Linked store id (moment.after.node store id) rest last

namespace Linked

variable {store : StoreId} {id : NodeId}

theorem append {first middle last : NodeState} {moments later : List Moment}
    (here : Linked store id first moments middle) (there : Linked store id middle later last) :
    Linked store id first (moments ++ later) last := by
  induction moments generalizing first with
  | nil =>
    cases here
    exact there
  | cons moment rest ih => exact ⟨here.1, ih here.2⟩

end Linked

/-- The moments of one call. -/
def momentsOf (id : NodeId) (moments : List Moment) : List Moment :=
  moments.filter fun moment => moment.id = id

theorem momentsOf_cons_of_eq {moment : Moment} {id : NodeId} (own : moment.id = id)
    (rest : List Moment) : momentsOf id (moment :: rest) = moment :: momentsOf id rest :=
  List.filter_cons_of_pos (decide_eq_true own)

theorem momentsOf_cons_of_ne {moment : Moment} {id : NodeId} (other : moment.id ≠ id)
    (rest : List Moment) : momentsOf id (moment :: rest) = momentsOf id rest :=
  List.filter_cons_of_neg fun same => other (of_decide_eq_true same)

theorem momentsOf_eq_nil {applications : List Application} {first last : World}
    {events : List Moment} (only : OnlyOf enter context applications first events last)
    {id : NodeId} (others : ∀ application ∈ applications, application.id ≠ id) :
    momentsOf id events = [] := by
  apply List.filter_eq_nil_iff.mpr
  intro moment member same
  rcases only moment member with ⟨application, inside, itself⟩
  rw [itself] at same
  exact others application inside (of_decide_eq_true same)

/-- Whether the memory of a call changes at its moments only. -/
def OwnedBy (store : StoreId) (id : NodeId) (before : World) (moments : List Moment)
    (after : World) : Prop :=
  Linked store id (before.node store id) (momentsOf id moments) (after.node store id)

theorem OwnedBy.append {store : StoreId} {id : NodeId} {first second third : World}
    {moments later : List Moment} (here : OwnedBy store id first moments second)
    (there : OwnedBy store id second later third) :
    OwnedBy store id first (moments ++ later) third := by
  rw [OwnedBy, momentsOf, List.filter_append]
  exact Linked.append here there

/-- In a walk, what a call remembers changes at the moments of this call and at no others. -/
theorem evaluate_ownedBy (enter : Context → Formula → Walk Value) (plain : context.Plain) {e : Expr}
    (consistent : e.Consistent) (id : NodeId) (world : World) :
    OwnedBy context.store id world (moments enter context e world)
      ((evaluate enter context e).leaves world) := by
  induction e using Expr.induct_composed generalizing world with
  | literal v => rfl
  | identifier name =>
    have stays : (evaluate enter context (.identifier name)).leaves world = world := by
      rw [leaves, evaluate, evaluateIdentifier_plain plain]
      cases context.reading name <;> rfl
    rw [stays]
    rfl
  | composed e count recipe parts composed ih =>
    have keeps : ∀ world,
        OwnedBy context.store id world [] ((pure () : Walk Unit).leaves world) := fun _ => rfl
    rw [composed.moments_eq, composed.evaluate_eq]
    exact Recipe.follow_chain (OwnedBy context.store id) (fun _ => rfl) OwnedBy.append
      (fun position => ih position
        (consistent.of_subset (composed.applications_subset position)))
      keeps (fun _ => keeps) recipe world
  | call other name arguments ih =>
    rw [moments_call]
    by_cases same : other = id
    · -- None of the moments on the way to the arguments belongs to the call itself.
      subst same
      have inner := duringCall_onlyOf other name arguments
        (fun e _ world => moments_onlyOf enter context e world world) world
      have none := momentsOf_eq_nil inner fun application inside => by
        rcases Expr.mem_applicationsOfAll.mp inside with ⟨argument, member, inside⟩
        exact consistent.ne_of_mem_argument member inside
      have own := momentsOf_cons_of_eq (rfl : Moment.id
        ⟨context, other, name, delay enter context arguments, world⟩ = other)
      rw [OwnedBy, own, none]
      exact ⟨rfl, rfl⟩
    · -- The call changes its own memory, and that is another one.
      have distinct : id ≠ other := Ne.symm same
      have whole := evaluate_call_plain enter plain other name arguments world
      have chain := callOperands_chain context (OwnedBy context.store id)
        (fun _ => rfl) OwnedBy.append other name
        (fun position => ih _ (List.get_mem arguments position)
          (consistent.argument (List.get_mem arguments position)))
        (fun state world => World.node_setNode_of_ne world context.store distinct state)
        (fun workspace world =>
          World.node_setWorkspace_of_ne world context.store distinct workspace) world
      rw [OwnedBy, momentsOf_cons_of_ne same, leaves, whole]
      rw [OwnedBy, leaves] at chain
      cases outcome : callOperands context other name arguments.length
          (fun position => evaluate enter context (arguments.get position)) world with
      | ok v after =>
        rw [outcome] at chain
        dsimp only
        rw [World.node_setNode_of_ne _ _ distinct]
        exact chain
      | error reason after =>
        rw [outcome] at chain
        exact chain

/-- In a consistent expression, the moments of a call are moments of this call and of no other. -/
theorem eq_moment_of_mem {e : Expr} (consistent : e.Consistent) {application : Application}
    (inside : application ∈ e.applications) {world : World} {moment : Moment}
    (member : moment ∈ momentsOf application.id (moments enter context e world)) :
    moment = application.moment enter context moment.world := by
  rcases List.mem_filter.mp member with ⟨reached, own⟩
  rcases moments_onlyOf enter context e world world moment reached with ⟨other, present, itself⟩
  have same : other.id = application.id := by
    rw [itself] at own
    exact of_decide_eq_true own
  rwa [consistent other present application inside same] at itself

/-- The way to an argument of a call leaves the memory of the call alone. -/
theorem argument_spares (enter : Context → Formula → Walk Value) (plain : context.Plain)
    {id : NodeId} {name : String} {arguments : List Expr}
    (consistent : (Expr.call id name arguments).Consistent) {e : Expr} (member : e ∈ arguments) :
    (evaluate enter context e).Spares context.store id := by
  intro world
  have owned := evaluate_ownedBy enter plain (consistent.argument member) id world
  rw [OwnedBy, momentsOf_eq_nil (moments_onlyOf enter context e world world)
    fun application inside => consistent.ne_of_mem_argument member inside] at owned
  exact owned

end ClockedFormula
