import ClockedFormula.Proofs.Evaluation.Shape
import ClockedFormula.Proofs.Walk.Trail

namespace ClockedFormula

open Walk

/-!
# The turns of calls

A call begins and ends, and in between its arguments are evaluated, in which further calls begin and end.  A
name in an argument can lead back to the formula around it, and then the same call begins again before it has
ended.  The turns of a walk are the beginnings and ends of all its calls in the order in which they come, in
whichever formula the calls stand and whoever has asked for them.

What is to be said of the turns of a walk has to be looked at for single calls only.
-/

/-- Something that happens to calls: in a walk they begin and end, and between walks the host feeds values
into them and resets them, or defines a formula. -/
inductive Turn where
  | begins (call : Moment)
  | ends (call : Moment)
  | feeds (store : StoreId) (id : NodeId) (v : Value)
  | resets (store : StoreId) (id : NodeId)
  /-- All calls of a store are reset. -/
  | resetsAll (store : StoreId)
  /-- A store comes into use. -/
  | founds (store : StoreId)

/-- Whether a call keeps its memory at a place. -/
def Moment.At (call : Moment) (store : StoreId) (id : NodeId) : Prop :=
  call.context.store = store ∧ call.id = id

instance (call : Moment) (store : StoreId) (id : NodeId) : Decidable (call.At store id) :=
  inferInstanceAs (Decidable (_ ∧ _))

/-- Whether something happens to a call that keeps its memory at a place. -/
def Turn.Concerns (store : StoreId) (id : NodeId) : Turn → Prop
  | begins call => call.At store id
  | ends call => call.At store id
  | feeds other call _ => other = store ∧ call = id
  | resets other call => other = store ∧ call = id
  | resetsAll other => other = store
  | founds other => other = store

instance (store : StoreId) (id : NodeId) : (turn : Turn) → Decidable (turn.Concerns store id)
  | .begins call | .ends call => inferInstanceAs (Decidable (call.At store id))
  | .feeds other call _ | .resets other call =>
    inferInstanceAs (Decidable (other = store ∧ call = id))
  | .resetsAll other | .founds other => inferInstanceAs (Decidable (other = store))

/-! ## Walks -/

/-- The turns in the evaluation of a name. -/
def identifierTurns (entering : Context → Formula → World → List Turn) (context : Context)
    (name : String) (world : World) : List Turn :=
  match context.find? name with
  | some (.value _) => []
  | some (.formula f) => entering context f world
  | none =>
    match context.clockReading? name with
    | some _ => []
    | none =>
      consultTrail context (context.foldName name) [] (fun _ _ => []) context.identifierHandlers
        none world

/-- The turns while the built-in function is called, if no handler has claimed the call. -/
def unclaimedTurns (context : Context) (id : NodeId) (name : String) (arguments : List Argument)
    (inner : Nat → World → List Turn) : Option Value → World → List Turn
  | some _ => fun _ => []
  | none => duringCall context id name arguments.length
    (fun position => (arguments.get position).value) fun position => inner position

/-- The turns in a function call, given the turns on the way to an argument. -/
def callTurns (context : Context) (id : NodeId) (name : String) (arguments : List Argument)
    (inner : Nat → World → List Turn) (world : World) : List Turn :=
  let call : Moment := ⟨context, id, name, arguments, world⟩
  .begins call ::
    inSequence (consult context context.functionHandlers (context.foldName name) arguments)
      (consultTrail context (context.foldName name) arguments inner context.functionHandlers none)
      (unclaimedTurns context id name arguments inner) world ++
    [.ends call]

mutual

/-- The turns in the evaluation of an expression, given those in the formulas that it opens. -/
def turns (enter : Context → Formula → Walk Value)
    (entering : Context → Formula → World → List Turn) (context : Context) :
    Expr → World → List Turn
  | .literal _, _ => []
  | .identifier name, world => identifierTurns entering context name world
  | .unary op operand, world =>
    op.recipe.trail (fun _ => evaluate enter context operand)
      (fun _ => turns enter entering context operand) (pure ()) (fun _ => pure ()) world
  | .binary op left right, world =>
    op.recipe.trail (operandsOfTwo (evaluate enter context left) (evaluate enter context right))
      (operandsOfTwo (turns enter entering context left) (turns enter entering context right))
      (pure ()) (fun _ => pure ()) world
  | .conditional condition thenBranch elseBranch, world =>
    choose.trail
      (operandsOfThree (evaluate enter context condition) (evaluate enter context thenBranch)
        (evaluate enter context elseBranch))
      (operandsOfThree (turns enter entering context condition)
        (turns enter entering context thenBranch) (turns enter entering context elseBranch))
      (pure ()) (fun _ => pure ()) world
  | .call id name arguments, world =>
    callTurns context id name (delay enter context arguments)
      (fun position => (turnsOfAll enter entering context arguments).getD position fun _ => []) world

/-- The turns in the evaluation of each of several expressions. -/
def turnsOfAll (enter : Context → Formula → Walk Value)
    (entering : Context → Formula → World → List Turn) (context : Context) :
    List Expr → List (World → List Turn)
  | [] => []
  | e :: rest => turns enter entering context e :: turnsOfAll enter entering context rest

end

/-- How a formula is entered with at most so many formulas open inside one another. -/
def enterTo (depth : Nat) (outer : Context) (f : Formula) : Walk Value :=
  walk depth (outer.enter f) f.expression

/-- The turns in the evaluation of an expression with at most so many formulas open inside one another. -/
def walkTurns : (depth : Nat) → Context → Expr → World → List Turn
  | 0, _, _, _ => []
  | depth + 1, context, e, world =>
    turns (enterTo depth) (fun outer f => walkTurns depth (outer.enter f) f.expression) context e world

/-- The turns when a formula is evaluated at a clock. -/
def Formula.turnsTo (depth : Nat) (f : Formula) (clock : Clock) : World → List Turn :=
  walkTurns depth (Context.ofFormula f clock) f.expression

section

variable {enter : Context → Formula → Walk Value}
  {entering : Context → Formula → World → List Turn} {context : Context}

theorem turnsOfAll_eq_map (arguments : List Expr) :
    turnsOfAll enter entering context arguments =
      arguments.map (turns enter entering context) := by
  induction arguments with
  | nil => rfl
  | cons e rest ih => rw [turnsOfAll, ih, List.map_cons]

theorem Composed.turns_eq {e : Expr} {count : Nat} {recipe : Recipe Unit count Value}
    {parts : Fin count → Expr} (composed : Composed e count recipe parts)
    (enter : Context → Formula → Walk Value)
    (entering : Context → Formula → World → List Turn) (context : Context) (world : World) :
    turns enter entering context e world =
      recipe.trail (fun position => evaluate enter context (parts position))
        (fun position => turns enter entering context (parts position)) (pure ())
        (fun _ => pure ()) world := by
  cases composed with
  | unary op operand => rw [turns]
  | binary op left right =>
    rw [turns, map_operandsOfTwo (evaluate enter context),
      map_operandsOfTwo (turns enter entering context)]
  | conditional condition thenBranch elseBranch =>
    rw [turns, map_operandsOfThree (evaluate enter context),
      map_operandsOfThree (turns enter entering context)]

end

/-! ## What joins the worlds around turns -/

namespace Walk.Joins

variable {joins : World → List Turn → World → Prop}

/-- Whether something joins the worlds around a call of an expression, if it joins those around its
arguments. -/
def Around (joins : World → List Turn → World → Prop) (enter : Context → Formula → Walk Value)
    (context : Context) (application : Application) : Prop :=
  ∀ inner : Nat → World → List Turn,
    OfArguments joins (delay enter context application.arguments) inner →
      ∀ world, joins world
        (callTurns context application.id application.name (delay enter context application.arguments)
          inner world)
        ((ClockedFormula.evaluate enter context application.expression).leaves world)

/-- A beginning, an end and a change of the call's own memory do not count, and so the call joins what its
arguments join. -/
theorem evaluateCall (joining : Joins joins) (context : Context) (id : NodeId) (name : String)
    {arguments : List Argument} {inner : Nat → World → List Turn}
    (known : OfArguments joins arguments inner)
    (begins : ∀ call : Moment, call.At context.store id → ∀ world, joins world [.begins call] world)
    (ends : ∀ call : Moment, call.At context.store id → ∀ world, joins world [.ends call] world)
    (changes : ∀ workspace world, joins world [] (world.setWorkspace context.store id workspace))
    (world : World) :
    joins world (callTurns context id name arguments inner world)
      ((ClockedFormula.evaluateCall context id name arguments).leaves world) := by
  have registers : ∀ state world, joins world [] (world.setNode context.store id state) := by
    intro state world
    rw [World.setNode_eq_setWorkspace]
    exact changes _ world
  have notes : ∀ v world, joins world []
      ((Walk.modifyMemory context.store (fun memory => memory.recordResult id v) >>=
        fun _ => (pure v : Walk Value)).leaves world) := fun v world => registers _ world
  have asks : ∀ (position : Fin arguments.length) world, joins world (inner position world)
      ((arguments.get position).value.leaves world) :=
    fun position world => known.inside (List.getElem?_eq_getElem position.isLt) world
  have within : joins world
      (inSequence (ClockedFormula.consult context context.functionHandlers (context.foldName name)
          arguments)
        (consultTrail context (context.foldName name) arguments inner context.functionHandlers none)
        (unclaimedTurns context id name arguments inner) world)
      ((ClockedFormula.evaluateCall context id name arguments).leaves world) := by
    refine joining.bind (joining.consult known context _ _ world) fun claimed world => ?_
    cases claimed with
    | some v => exact notes v world
    | none =>
      have called : joins world (unclaimedTurns context id name arguments inner none world)
          ((callFunction context id name arguments).leaves world) := by
        rw [callFunction_eq_callOperands rfl]
        exact callOperands_chain context joins joining.stay joining.compose id name asks registers
          changes world
      exact joining.bind_quiet called notes
  exact joining.compose (joining.compose (begins _ ⟨rfl, rfl⟩ world) within) (ends _ ⟨rfl, rfl⟩ _)

section Evaluations

variable {enter : Context → Formula → Walk Value}
  {entering : Context → Formula → World → List Turn} {context : Context}

/-- What joins the worlds around the evaluation of each argument joins those around the arguments of a
call. -/
theorem ofArguments {arguments : List Expr}
    (inside : ∀ e ∈ arguments, ∀ world, joins world (turns enter entering context e world)
      ((ClockedFormula.evaluate enter context e).leaves world)) :
    OfArguments joins (delay enter context arguments) fun position =>
      (turnsOfAll enter entering context arguments).getD position fun _ => [] where
  inside := by
    intro position argument located world
    rw [delay_eq_map, List.getElem?_map] at located
    rcases Option.map_eq_some_iff.mp located with ⟨e, present, rfl⟩
    rw [turnsOfAll_eq_map, List.getD_eq_getElem?_getD, List.getElem?_map, present]
    exact inside e (List.mem_of_getElem? present) world
  outside := by
    intro position missing
    rw [delay_eq_map, List.getElem?_map, Option.map_eq_none_iff] at missing
    rw [turnsOfAll_eq_map, List.getD_eq_getElem?_getD, List.getElem?_map, missing]
    rfl

theorem evaluateIdentifier (joining : Joins joins) (name : String)
    (opens : ∀ f, context.find? name = some (.formula f) → ∀ world,
      joins world (entering context f world) ((enter context f).leaves world)) (world : World) :
    joins world (identifierTurns entering context name world)
      ((ClockedFormula.evaluateIdentifier enter context name).leaves world) := by
  unfold ClockedFormula.evaluateIdentifier identifierTurns
  cases found : context.find? name with
  | some binding =>
    cases binding with
    | value v => exact joining.stay world
    | formula f => exact opens f found world
  | none =>
    cases context.clockReading? name with
    | some v => exact joining.stay world
    | none =>
      have nobody : OfArguments joins [] fun _ _ => [] := ⟨nofun, fun _ => rfl⟩
      have asked := joining.consult nobody context context.identifierHandlers (context.foldName name)
        world
      refine joining.bind_quiet asked fun claimed world => ?_
      cases claimed <;> exact joining.stay world

/-- What joins the worlds around all calls of an expression, and around the formulas that it opens, joins
those around its evaluation. -/
theorem evaluate (joining : Joins joins)
    (opens : ∀ name f, context.find? name = some (.formula f) → ∀ world,
      joins world (entering context f world) ((enter context f).leaves world)) (e : Expr)
    (calls : ∀ application ∈ e.applications, Around joins enter context application) (world : World) :
    joins world (turns enter entering context e world)
      ((ClockedFormula.evaluate enter context e).leaves world) := by
  induction e using Expr.induct_composed generalizing world with
  | literal v =>
    rw [turns]
    exact joining.stay world
  | identifier name => exact joining.evaluateIdentifier name (opens name) world
  | composed e count recipe parts composed ih =>
    have keeps : ∀ world, joins world [] ((pure () : Walk Unit).leaves world) := joining.stay
    rw [composed.evaluate_eq, composed.turns_eq]
    refine Recipe.follow_chain joins joining.stay joining.compose (fun position => ih position ?_)
      keeps (fun _ => keeps) recipe world
    exact fun application inside => calls application (composed.applications_subset position inside)
  | call id name arguments ih =>
    rw [turns]
    refine calls ⟨id, name, arguments⟩ List.mem_cons_self _ (ofArguments ?_) world
    intro e argument
    refine ih e argument fun application inside => calls application ?_
    exact List.mem_cons_of_mem _ (Expr.mem_applicationsOfAll.mpr ⟨e, argument, inside⟩)

/-- What joins the worlds around the calls of all formulas in a tree of bindings joins those around every
walk that opens no others. -/
theorem walk (joining : Joins joins) {all : List Formula}
    (tree : ∀ f ∈ all, Bindings.Within all f.bindings)
    (calls : ∀ g ∈ all, ∀ application ∈ g.expression.applications, ∀ context : Context,
      context.Of g → ∀ depth, Around joins (enterTo depth) context application)
    {g : Formula} (known : g ∈ all) (of : context.Of g)
    (within : Bindings.Within all context.bindings) (depth : Nat) (world : World) :
    joins world (walkTurns depth context g.expression world)
      ((ClockedFormula.walk depth context g.expression).leaves world) := by
  induction depth generalizing g context world with
  | zero => exact joining.stay world
  | succ depth ih =>
    refine joining.evaluate (fun name f found => ?_) g.expression
      (fun application inside => calls g known application inside context of depth) world
    have bound : f ∈ all := within.find? found
    exact ih bound ⟨rfl, rfl, rfl⟩ ((tree f bound).overlay within)

end Evaluations

end Walk.Joins

end ClockedFormula
