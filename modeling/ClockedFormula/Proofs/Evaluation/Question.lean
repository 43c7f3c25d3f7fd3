import ClockedFormula.Proofs.Evaluation.Order

namespace ClockedFormula

open Walk

/-!
# Questions to handlers

The events of a walk tell by its label which handler is asked, and labels need not be different.  A question
tells it by the chain to which the handler belongs and by the place of the handler in that chain.

Only the walk itself asks the questions that are listed here.  A handler of a call may evaluate arguments on its
own account, as often as it likes, and ask handlers on the way; a handler that leaves the arguments alone asks
nobody.  If all of them do, the questions are all that the events tell of anybody being asked.
-/

/-- The two chains of handlers of a formula. -/
inductive Chain where
  | identifiers
  | functions
deriving DecidableEq

/-- The handlers of a chain, in the order in which they are asked. -/
def Context.handlersOf (context : Context) : Chain → List Handler
  | .identifiers => context.identifierHandlers
  | .functions => context.functionHandlers

/-- A question to a handler. -/
structure Question where
  chain : Chain
  /-- The place of the handler in its chain. -/
  place : Nat
  /-- The name as the handler is asked about it. -/
  name : String
deriving DecidableEq

/-- The questions to the handlers of a chain, from a place on. -/
def chainQuestions (context : Context) (chain : Chain) (name : String) (arguments : List Argument) :
    List Handler → (place : Nat) → Option Value → World → List Question
  | [], _, _, _ => []
  | handler :: rest, place, claimed, world =>
    if world.isCancelled context.root then []
    else
      let program := consult.response context name arguments handler world
      ⟨chain, place, name⟩ ::
        inSequence (program.run context.root arguments claimed) (fun _ => [])
          (chainQuestions context chain name arguments rest (place + 1))
          (world.addNote (.asked handler.label name))

/-- The questions while a chain is consulted about a name. -/
def consultQuestions (context : Context) (chain : Chain) (name : String) (arguments : List Argument) :
    World → List Question :=
  chainQuestions context chain name arguments (context.handlersOf chain) 0 none

/-- The questions in the evaluation of a name.  A formula to which it is bound has handlers of its own. -/
def identifierQuestions (context : Context) (name : String) : World → List Question :=
  match context.find? name with
  | some _ => fun _ => []
  | none =>
    match context.clockReading? name with
    | some _ => fun _ => []
    | none => consultQuestions context .identifiers (context.foldName name) []

/-- The questions in a function call, given those on the way to its operands. -/
def callQuestions (context : Context) (id : NodeId) (name : String) (arguments : List Argument)
    {count : Nat} (operands : Fin count → Walk Value) (inner : Nat → World → List Question) :
    World → List Question :=
  inSequence (consult context context.functionHandlers (context.foldName name) arguments)
    (consultQuestions context .functions (context.foldName name) arguments)
    fun
      | some _ => fun _ => []
      | none => duringCall context id name count operands fun position => inner position

mutual

/-- The questions in the evaluation of an expression. -/
def questions (enter : Context → Formula → Walk Value) (context : Context) :
    Expr → World → List Question
  | .literal _, _ => []
  | .identifier name, world => identifierQuestions context name world
  | .unary op operand, world =>
    op.recipe.trail (fun _ => evaluate enter context operand)
      (fun _ => questions enter context operand) (pure ()) (fun _ => pure ()) world
  | .binary op left right, world =>
    op.recipe.trail (operandsOfTwo (evaluate enter context left) (evaluate enter context right))
      (operandsOfTwo (questions enter context left) (questions enter context right))
      (pure ()) (fun _ => pure ()) world
  | .conditional condition thenBranch elseBranch, world =>
    choose.trail
      (operandsOfThree (evaluate enter context condition) (evaluate enter context thenBranch)
        (evaluate enter context elseBranch))
      (operandsOfThree (questions enter context condition) (questions enter context thenBranch)
        (questions enter context elseBranch))
      (pure ()) (fun _ => pure ()) world
  | .call id name arguments, world =>
    callQuestions context id name (delay enter context arguments)
      (fun position => evaluate enter context (arguments.get position))
      (fun position => (questionsOfAll enter context arguments).getD position fun _ => []) world

/-- The questions in the evaluation of each of several expressions. -/
def questionsOfAll (enter : Context → Formula → Walk Value) (context : Context) :
    List Expr → List (World → List Question)
  | [] => []
  | e :: rest => questions enter context e :: questionsOfAll enter context rest

end

/-- The questions to the handlers of a formula when it is evaluated at a clock. -/
def Formula.questionsTo : (depth : Nat) → Formula → Clock → World → List Question
  | 0, _, _, _ => []
  | depth + 1, f, clock, world =>
    questions (enterTo depth) (Context.ofFormula f clock) f.expression world

section

variable {enter : Context → Formula → Walk Value} {context : Context}

theorem getD_map_get {α β : Type} (f : α → β) (as : List α) (position : Fin as.length) (otherwise : β) :
    (as.map f).getD position otherwise = f (as.get position) := by
  simp

theorem questionsOfAll_eq_map (arguments : List Expr) :
    questionsOfAll enter context arguments = arguments.map (questions enter context) := by
  induction arguments with
  | nil => rfl
  | cons e rest ih => rw [questionsOfAll, ih, List.map_cons]

theorem Composed.questions_eq {e : Expr} {count : Nat} {recipe : Recipe Unit count Value}
    {parts : Fin count → Expr} (composed : Composed e count recipe parts)
    (enter : Context → Formula → Walk Value) (context : Context) :
    questions enter context e =
      recipe.trail (fun position => evaluate enter context (parts position))
        (fun position => questions enter context (parts position)) (pure ()) fun _ => pure () := by
  funext world
  cases composed with
  | unary op operand => rw [questions]
  | binary op left right =>
    rw [questions, map_operandsOfTwo (evaluate enter context), map_operandsOfTwo (questions enter context)]
  | conditional condition thenBranch elseBranch =>
    rw [questions, map_operandsOfThree (evaluate enter context),
      map_operandsOfThree (questions enter context)]

end

/-! ## Handlers that leave arguments alone -/

/-- Whether a program asks for none of so many arguments, whatever it learns on the way. -/
def Program.Ignores (count : Nat) : Program → Prop
  | done => True
  | fail _ => True
  | claim _ next => next.Ignores count
  | look next => ∀ claimed, (next claimed).Ignores count
  | evaluate position next => count ≤ position ∧ ∀ result, (next result).Ignores count
  | peek _ _ next => ∀ shown, (next shown).Ignores count
  | suspend next => next.Ignores count
  | cancel _ next => next.Ignores count
  | note _ next => next.Ignores count

/-- Whether a handler evaluates none of the arguments that it is given. -/
def Handler.Ignores (handler : Handler) : Prop :=
  ∀ request, (handler.respond request).Ignores request.arguments.length

/-- Where there are no arguments none is asked for. -/
theorem Program.ignores_zero (program : Program) : program.Ignores 0 := by
  induction program with
  | done => exact trivial
  | fail e => exact trivial
  | claim v next ih => exact ih
  | look next ih => exact ih
  | evaluate position next ih => exact ⟨Nat.zero_le position, ih⟩
  | peek store id next ih => exact ih
  | suspend next ih => exact ih
  | cancel place next ih => exact ih
  | note entry next ih => exact ih

/-- The handler and the name, if a handler is asked, be it by the walk or on behalf of another handler. -/
def Event.asked? (event : Event) : Option (String × String) :=
  match event.happening with
  | .asks handler name => some (handler, name)
  | _ => none

/-- Whether nothing happens on the way to an argument that is not there. -/
def Spans (arguments : List Argument) (inner : Nat → World → List Event) : Prop :=
  ∀ position world, arguments.length ≤ position → inner position world = []

/-- A handler that leaves its arguments alone asks nobody. -/
theorem Program.Ignores.filterMap_events {arguments : List Argument} {program : Program}
    (ignores : program.Ignores arguments.length) {inner : Nat → World → List Event}
    (spans : Spans arguments inner) (root : StoreId) (claimed : Option Value) (world : World) :
    (program.events root arguments inner claimed world).filterMap Event.asked? = [] := by
  induction program generalizing claimed world with
  | done => rfl
  | fail e => rfl
  | claim v next ih => exact ih ignores (claimed.or (some v)) world
  | look next ih => exact ih claimed (ignores claimed) claimed world
  | evaluate position next ih =>
    rw [events, inSequence, spans position world ignores.1]
    cases answerAt arguments position world with
    | ok result after => exact ih result (ignores.2 result) claimed after
    | error reason after => rfl
  | peek store id next ih =>
    exact ih (world.readouts store id) (ignores (world.readouts store id)) claimed world
  | suspend next ih =>
    rw [events]
    cases world.isCancelled root with
    | true => rfl
    | false => exact ih ignores claimed world
  | cancel place next ih => exact ih ignores claimed (world.cancelAt place)
  | note entry next ih => exact ih ignores claimed (world.addNote entry)

/-! ## Questions as events -/

/-- Whether a question is put to the handler with this label about this name. -/
def Question.AskedAs (context : Context) (question : Question) (asked : String × String) : Prop :=
  ∃ handler, (context.handlersOf question.chain)[question.place]? = some handler ∧
    asked = (handler.label, question.name)

/-- Whether questions are all that events tell of anybody being asked, one for one and in the same order. -/
def AllAsked (context : Context) (asked : List Question) (es : List Event) : Prop :=
  List.Forall₂ (Question.AskedAs context) asked (es.filterMap Event.asked?)

namespace AllAsked

variable {context : Context}

theorem nil : AllAsked context [] [] := List.Forall₂.nil

theorem append {first second : List Question} {es later : List Event} (here : AllAsked context first es)
    (there : AllAsked context second later) : AllAsked context (first ++ second) (es ++ later) := by
  rw [AllAsked, List.filterMap_append]
  exact List.rel_append here there

/-- What happens in walks in sequence is asked in sequence. -/
theorem inSequence {α : Type} {walk : Walk α} {asked : World → List Question} {es : World → List Event}
    {later : α → World → List Question} {laterEvents : α → World → List Event} {world : World}
    (here : AllAsked context (asked world) (es world))
    (there : ∀ a world, AllAsked context (later a world) (laterEvents a world)) :
    AllAsked context (ClockedFormula.inSequence walk asked later world)
      (ClockedFormula.inSequence walk es laterEvents world) := by
  rw [ClockedFormula.inSequence, ClockedFormula.inSequence]
  cases walk world with
  | ok a after => exact here.append (there a after)
  | error reason after => exact here.append .nil

theorem trail {σ α : Type} {count : Nat} {operands : Fin count → Walk Value} {read : Walk σ}
    {write : σ → Walk Unit} {inner : Fin count → World → List Question}
    {innerEvents : Fin count → World → List Event}
    (inside : ∀ position world, AllAsked context (inner position world) (innerEvents position world))
    (recipe : Recipe σ count α) (world : World) :
    AllAsked context (recipe.trail operands inner read write world)
      (recipe.trail operands innerEvents read write world) := by
  rw [Recipe.trail_eq_flatMap, Recipe.trail_eq_flatMap]
  generalize recipe.evaluations operands read write world = evaluated
  induction evaluated with
  | nil => exact .nil
  | cons evaluation rest ih => exact (inside evaluation.1 evaluation.2).append ih

theorem duringCall {count : Nat} {operands : Fin count → Walk Value}
    {inner : Fin count → World → List Question} {innerEvents : Fin count → World → List Event}
    (inside : ∀ position world, AllAsked context (inner position world) (innerEvents position world))
    (id : NodeId) (name : String) (world : World) :
    AllAsked context (ClockedFormula.duringCall context id name count operands inner world)
      (ClockedFormula.duringCall context id name count operands innerEvents world) := by
  cases resolved : Function.resolve name context.options.ignoreCase with
  | error e =>
    rw [duringCall_unresolved resolved, duringCall_unresolved resolved]
    exact .nil
  | ok f =>
    obtain ⟨σ, recipe, read, write, begun, -, -, passes⟩ := callOperands_follows resolved id operands world
    rw [passes, passes]
    exact trail inside recipe begun

/-- What is left of a chain of handlers that leave their arguments alone. -/
theorem chain {chain : Chain} {name : String} {arguments : List Argument}
    {inner : Nat → World → List Event} (spans : Spans arguments inner) {handlers : List Handler}
    {place : Nat} (ignoring : ∀ handler ∈ handlers, ∀ world,
      (consult.response context name arguments handler world).Ignores arguments.length)
    (located : (context.handlersOf chain).drop place = handlers) (claimed : Option Value) (world : World) :
    AllAsked context (chainQuestions context chain name arguments handlers place claimed world)
      (consultEvents context name arguments inner handlers claimed world) := by
  induction handlers generalizing place claimed world with
  | nil => exact .nil
  | cons handler rest ih =>
    rw [chainQuestions, consultEvents]
    cases world.isCancelled context.root with
    | true => exact .nil
    | false =>
      have there : (context.handlersOf chain)[place]? = some handler := by
        rw [← List.head?_drop, located]
        rfl
      have behind : (context.handlersOf chain).drop (place + 1) = rest := by
        rw [← List.tail_drop, located]
        rfl
      refine .cons ⟨handler, there, rfl⟩ (inSequence ?_ fun claimed world => ?_)
      · rw [AllAsked, (ignoring handler List.mem_cons_self world).filterMap_events spans]
        exact .nil
      · exact ih (fun other member => ignoring other (List.mem_cons_of_mem _ member)) behind claimed world

theorem consult (chain : Chain) {name : String} {arguments : List Argument}
    {inner : Nat → World → List Event} (spans : Spans arguments inner)
    (ignoring : ∀ handler ∈ context.handlersOf chain, ∀ world,
      (consult.response context name arguments handler world).Ignores arguments.length) (world : World) :
    AllAsked context (consultQuestions context chain name arguments world)
      (consultEvents context name arguments inner (context.handlersOf chain) none world) :=
  .chain spans ignoring List.drop_zero none world

end AllAsked

section Evaluations

variable {enter : Context → Formula → Walk Value} {entering : Context → Formula → World → List Event}
  {context : Context}

theorem identifier_allAsked (onlyValues : context.bindings.OnlyValues) (name : String) (world : World) :
    AllAsked context (identifierQuestions context name world)
      (identifierEvents entering context name world) := by
  unfold identifierQuestions identifierEvents
  cases found : context.find? name with
  | some binding =>
    obtain ⟨v, rfl⟩ := onlyValues.find?_eq found
    exact .nil
  | none =>
    cases context.clockReading? name with
    | some v => exact .nil
    | none =>
      have nobody : Spans [] fun _ _ => [] := fun _ _ _ => rfl
      exact .consult .identifiers nobody (fun _ _ _ => Program.ignores_zero _) world

theorem call_allAsked (ignoring : ∀ handler ∈ context.functionHandlers, handler.Ignores) (id : NodeId)
    (name : String) {arguments : List Expr}
    (inside : ∀ e ∈ arguments, ∀ world,
      AllAsked context (questions enter context e world) (events enter entering context e world))
    (world : World) :
    AllAsked context (questions enter context (.call id name arguments) world)
      (events enter entering context (.call id name arguments) world) := by
  have length : (delay enter context arguments).length = arguments.length := by
    rw [delay_eq_map, List.length_map]
  have spans : Spans (delay enter context arguments) fun position =>
      (eventsOfAll enter entering context arguments).getD position fun _ => [] := by
    intro position world beyond
    have missing : (arguments.map (events enter entering context))[position]? = none := by
      rw [List.getElem?_eq_none_iff, List.length_map, ← length]
      exact beyond
    dsimp only
    rw [eventsOfAll_eq_map, List.getD_eq_getElem?_getD, missing]
    rfl
  rw [questions, events, callQuestions, callEvents]
  refine .inSequence (.consult .functions spans (fun handler member world => ?_) world) fun claimed world => ?_
  · have ignores := ignoring handler member (context.request (context.foldName name)
      (delay enter context arguments) (world.timesAsked handler.label))
    rwa [Context.request, List.length_map] at ignores
  · cases claimed with
    | some v => exact .nil
    | none =>
      refine .duringCall (fun position world => ?_) id name world
      rw [questionsOfAll_eq_map, eventsOfAll_eq_map, getD_map_get, getD_map_get]
      exact inside _ (List.get_mem arguments position) world

/-- The questions in an evaluation are all that its events tell of anybody being asked. -/
theorem evaluate_allAsked (onlyValues : context.bindings.OnlyValues)
    (ignoring : ∀ handler ∈ context.functionHandlers, handler.Ignores) (e : Expr) (world : World) :
    AllAsked context (questions enter context e world) (events enter entering context e world) := by
  induction e using Expr.induct_composed generalizing world with
  | literal v =>
    rw [questions, events]
    exact .nil
  | identifier name =>
    rw [questions, events]
    exact identifier_allAsked onlyValues name world
  | composed e count recipe parts composed ih =>
    rw [composed.questions_eq, composed.events_eq]
    exact .trail ih recipe world
  | call id name arguments ih => exact call_allAsked ignoring id name ih world

end Evaluations

end ClockedFormula
