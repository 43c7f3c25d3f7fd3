import ClockedFormula.Proofs.Evaluation.Question

namespace ClockedFormula

open Walk

/-!
# Nothing is asked for twice

Operators and functions look at their operands again and again, but they evaluate each of them at most once: a
sum looks for text before it adds, a comparison with many things keeps what it compares them with, and a
smoothing that begins needs its input for more than one stage.  Recipes say so by the row along which they ask.

What handlers see of it is a bound.  In one walk a handler is not asked about a name more often than the name is
mentioned in the expression.  A mention need not come to a question: it may not be reached, it may be bound, and
a handler in front may put an end to the walk.
-/

/-! ## Mentions -/

/-- A name where it is mentioned, with the chain of handlers that may be asked about it. -/
structure Mention where
  chain : Chain
  name : String

namespace Expr

mutual

/-- The mentions of names in an expression, in the order of the text. -/
def mentions : Expr → List Mention
  | literal _ => []
  | identifier name => [⟨.identifiers, name⟩]
  | unary _ operand => operand.mentions
  | binary _ left right => left.mentions ++ right.mentions
  | conditional condition thenBranch elseBranch =>
    condition.mentions ++ thenBranch.mentions ++ elseBranch.mentions
  | call _ name arguments => ⟨.functions, name⟩ :: mentionsOfAll arguments

/-- The mentions of names in several expressions, one after the other. -/
def mentionsOfAll : List Expr → List Mention
  | [] => []
  | e :: rest => e.mentions ++ mentionsOfAll rest

end

theorem mentionsOfAll_eq_flatMap (es : List Expr) : mentionsOfAll es = es.flatMap mentions := by
  induction es with
  | nil => rfl
  | cons e rest ih => rw [mentionsOfAll, ih, List.flatMap_cons]

end Expr

theorem Composed.mentions_eq {e : Expr} {count : Nat} {recipe : Recipe Unit count Value}
    {parts : Fin count → Expr} (composed : Composed e count recipe parts) :
    e.mentions = (List.finRange count).flatMap fun position => (parts position).mentions := by
  cases composed with
  | unary op operand => exact (List.append_nil _).symm
  | binary op left right => exact congrArg (left.mentions ++ ·) (List.append_nil _).symm
  | conditional condition thenBranch elseBranch =>
    rw [Expr.mentions, List.append_assoc]
    exact congrArg (fun last => condition.mentions ++ (thenBranch.mentions ++ last)) (List.append_nil _).symm

/-- Whether a question may come of a mention. -/
def Question.About (context : Context) (question : Question) (mention : Mention) : Prop :=
  mention.chain = question.chain ∧ context.foldName mention.name = question.name

instance (context : Context) (question : Question) (mention : Mention) :
    Decidable (question.About context mention) :=
  inferInstanceAs (Decidable (_ ∧ _))

/-- How often there is a mention of which a question may come. -/
def Question.occasions (context : Context) (question : Question) (mentions : List Mention) : Nat :=
  mentions.countP fun mention => question.About context mention

namespace Question

variable {context : Context} {question : Question}

theorem occasions_append (first second : List Mention) :
    question.occasions context (first ++ second) =
      question.occasions context first + question.occasions context second :=
  List.countP_append

/-- In fewer parts there are fewer mentions. -/
theorem occasions_flatMap_le {α : Type} {few many : List α} (sublist : few.Sublist many)
    (mentions : α → List Mention) :
    question.occasions context (few.flatMap mentions) ≤
      question.occasions context (many.flatMap mentions) := by
  induction sublist with
  | slnil => exact Nat.le_refl _
  | cons a _ ih =>
    rw [List.flatMap_cons, occasions_append]
    exact Nat.le_add_left_of_le ih
  | cons_cons a _ ih =>
    rw [List.flatMap_cons, List.flatMap_cons, occasions_append, occasions_append]
    exact Nat.add_le_add_left ih _

/-- Bounds for what is asked on the way to single parts add up. -/
theorem count_flatMap_le {α : Type} {inner : α → World → List Question} {mentions : α → List Mention}
    (inside : ∀ a world, (inner a world).count question ≤ question.occasions context (mentions a))
    (evaluated : List (α × World)) :
    (evaluated.flatMap fun evaluation => inner evaluation.1 evaluation.2).count question ≤
      question.occasions context ((evaluated.map Prod.fst).flatMap mentions) := by
  induction evaluated with
  | nil => exact Nat.le_refl _
  | cons evaluation rest ih =>
    rw [List.flatMap_cons, List.map_cons, List.flatMap_cons, List.count_append, occasions_append]
    exact Nat.add_le_add (inside evaluation.1 evaluation.2) ih

end Question

/-! ## Operators -/

theorem Composed.asksAlong {e : Expr} {count : Nat} {recipe : Recipe Unit count Value}
    {parts : Fin count → Expr} (composed : Composed e count recipe parts) :
    recipe.AsksAlong (List.finRange count) := by
  cases composed with
  | unary op operand => exact op.recipe_asksAlong
  | binary op left right => exact op.recipe_asksAlong
  | conditional condition thenBranch elseBranch => exact choose_asksAlong

/-- Every function goes through its arguments once. -/
theorem Function.row_perm (f : Function) (count : Nat) : (f.row count).Perm (List.finRange count) := by
  cases f with
  | math f => exact .refl _
  | temporal f =>
    by_cases any : f = .smoothN
    · subst any
      exact List.filter_append_perm (fun position : Fin count => position.val == 2) _
    · exact .of_eq (TemporalFunction.row_of_ne any count)

/-! ## Questions on the way -/

section Bounds

variable {context : Context} {question : Question}

/-- Where a recipe is followed that asks for each operand at most once, a question is put no more often than all
operands together allow. -/
theorem Recipe.AsksAlong.count_trail_le {σ α : Type} {count : Nat} {recipe : Recipe σ count α}
    {row : List (Fin count)} (along : recipe.AsksAlong row) (rearranged : row.Perm (List.finRange count))
    {operands : Fin count → Walk Value} {read : Walk σ} {write : σ → Walk Unit}
    {inner : Fin count → World → List Question} {mentions : Fin count → List Mention}
    (inside : ∀ position world,
      (inner position world).count question ≤ question.occasions context (mentions position))
    (world : World) :
    (recipe.trail operands inner read write world).count question ≤
      question.occasions context ((List.finRange count).flatMap mentions) := by
  calc (recipe.trail operands inner read write world).count question
    _ = ((recipe.evaluations operands read write world).flatMap fun evaluation =>
          inner evaluation.1 evaluation.2).count question := by rw [Recipe.trail_eq_flatMap]
    _ ≤ question.occasions context
          (((recipe.evaluations operands read write world).map Prod.fst).flatMap mentions) :=
        Question.count_flatMap_le inside _
    _ ≤ question.occasions context (row.flatMap mentions) :=
        Question.occasions_flatMap_le (along.sublist world) mentions
    _ = question.occasions context ((List.finRange count).flatMap mentions) :=
        (rearranged.flatMap_right mentions).countP_eq _

theorem count_duringCall_le {count : Nat} {operands : Fin count → Walk Value}
    {inner : Fin count → World → List Question} {mentions : Fin count → List Mention}
    (inside : ∀ position world,
      (inner position world).count question ≤ question.occasions context (mentions position))
    (id : NodeId) (name : String) (world : World) :
    (duringCall context id name count operands inner world).count question ≤
      question.occasions context ((List.finRange count).flatMap mentions) := by
  cases resolved : Function.resolve name context.options.ignoreCase with
  | error e =>
    rw [duringCall_unresolved resolved]
    exact Nat.zero_le _
  | ok f =>
    obtain ⟨σ, recipe, read, write, begun, orders, -, passes⟩ :=
      callOperands_follows resolved id operands world
    rw [passes]
    exact orders.along.count_trail_le (f.row_perm count) inside begun

/-- A chain is asked from the front, and no handler twice. -/
theorem exists_chainQuestions_eq (chain : Chain) (name : String) (arguments : List Argument)
    (handlers : List Handler) (place : Nat) (claimed : Option Value) (world : World) :
    ∃ length, chainQuestions context chain name arguments handlers place claimed world =
      (List.range' place length).map fun place => ⟨chain, place, name⟩ := by
  induction handlers generalizing place claimed world with
  | nil => exact ⟨0, rfl⟩
  | cons handler rest ih =>
    rw [chainQuestions]
    cases world.isCancelled context.root with
    | true => exact ⟨0, rfl⟩
    | false =>
      simp only [Bool.false_eq_true, if_false, inSequence]
      cases (consult.response context name arguments handler world).run context.root arguments claimed
          (world.addNote (.asked handler.label name)) with
      | ok claimed after =>
        obtain ⟨length, later⟩ := ih (place + 1) claimed after
        refine ⟨length + 1, ?_⟩
        rw [List.range'_succ, List.map_cons, ← later]
        rfl
      | error reason after => exact ⟨1, rfl⟩

/-- A mention comes to at most one question to the same handler. -/
theorem count_consultQuestions_le (chain : Chain) (name : String) (arguments : List Argument)
    (world : World) :
    (consultQuestions context chain (context.foldName name) arguments world).count question ≤
      question.occasions context [⟨chain, name⟩] := by
  obtain ⟨length, asked⟩ := exists_chainQuestions_eq chain (context.foldName name) arguments
    (context.handlersOf chain) 0 none world
  rw [consultQuestions, asked, Question.occasions, List.countP_singleton]
  by_cases about : question.About context ⟨chain, name⟩
  · rw [if_pos (decide_eq_true about)]
    have distinct : ((List.range' 0 length).map fun place =>
        (⟨chain, place, context.foldName name⟩ : Question)).Nodup :=
      (List.nodup_range' 1).map fun first second same => (Question.mk.inj same).2.1
    exact List.nodup_iff_count_le_one.mp distinct question
  · rw [List.count_eq_zero_of_not_mem]
    · exact Nat.zero_le _
    · intro member
      obtain ⟨place, -, same⟩ := List.mem_map.mp member
      subst same
      exact about ⟨rfl, rfl⟩

section Evaluations

variable {enter : Context → Formula → Walk Value}

theorem count_identifierQuestions_le (name : String) (world : World) :
    (identifierQuestions context name world).count question ≤
      question.occasions context [⟨.identifiers, name⟩] := by
  unfold identifierQuestions
  cases context.find? name with
  | some binding => exact Nat.zero_le _
  | none =>
    cases context.clockReading? name with
    | some v => exact Nat.zero_le _
    | none => exact count_consultQuestions_le .identifiers name [] world

theorem count_callQuestions_le (id : NodeId) (name : String) {arguments : List Expr}
    (inside : ∀ e ∈ arguments, ∀ world,
      (questions enter context e world).count question ≤ question.occasions context e.mentions)
    (world : World) :
    (questions enter context (.call id name arguments) world).count question ≤
      question.occasions context (Expr.call id name arguments).mentions := by
  have named : (Expr.call id name arguments).mentions =
      [⟨.functions, name⟩] ++ (List.finRange arguments.length).flatMap fun position =>
        (arguments.get position).mentions := by
    rw [Expr.mentions, Expr.mentionsOfAll_eq_flatMap, ← List.flatMap_map arguments.get,
      List.map_get_finRange]
    rfl
  rw [questions, callQuestions, inSequence, named, Question.occasions_append, List.count_append]
  refine Nat.add_le_add (count_consultQuestions_le .functions name _ world) ?_
  cases consult context context.functionHandlers (context.foldName name) (delay enter context arguments)
      world with
  | error reason after => exact Nat.zero_le _
  | ok claimed after =>
    cases claimed with
    | some v => exact Nat.zero_le _
    | none =>
      refine count_duringCall_le (fun position world => ?_) id name after
      rw [questionsOfAll_eq_map, getD_map_get]
      exact inside _ (List.get_mem arguments position) world

/-- In one evaluation a handler is asked about a name at most as often as the name is mentioned. -/
theorem count_questions_le (e : Expr) (world : World) :
    (questions enter context e world).count question ≤ question.occasions context e.mentions := by
  induction e using Expr.induct_composed generalizing world with
  | literal v =>
    rw [questions]
    exact Nat.zero_le _
  | identifier name =>
    rw [questions]
    exact count_identifierQuestions_le name world
  | composed e count recipe parts composed ih =>
    rw [composed.questions_eq, composed.mentions_eq]
    exact composed.asksAlong.count_trail_le (.refl _) ih world
  | call id name arguments ih => exact count_callQuestions_le id name ih world

end Evaluations

end Bounds

namespace Formula

/-- In one evaluation of a formula whose names are bound to values, no handler is asked about a name more often
than the name is mentioned in the expression, provided that the handlers of calls leave the arguments to the
evaluation.  The questions that are counted are all that the events tell of anybody being asked, and the events
are what the evaluation adds to the journal. -/
theorem handlers_asked_at_most_once_for_each_mention (f : Formula) (onlyValues : Bindings.OnlyValues f.bindings)
    (ignoring : ∀ handler ∈ f.functionHandlers, handler.Ignores) (depth : Nat) (clock : Clock)
    (world : World) :
    let context := Context.ofFormula f clock
    let asked := questionsTo depth f clock world
    let happened := f.eventsTo depth clock world
    (∀ chain place name, asked.count ⟨chain, place, name⟩ ≤
      f.expression.mentions.countP fun mention =>
        mention.chain = chain ∧ context.foldName mention.name = name) ∧
      List.Forall₂ (Question.AskedAs context) asked (happened.filterMap Event.asked?) ∧
      (f.evaluateTo depth clock world).2.journal =
        world.journal ++ happened.filterMap fun event => event.happening.note? := by
  intro context asked happened
  have journaled : (f.evaluateTo depth clock world).2.journal =
      world.journal ++ happened.filterMap fun event => event.happening.note? := by
    rw [evaluateTo_snd]
    exact journal_walk depth context f.expression world
  cases depth with
  | zero => exact ⟨fun _ _ _ => Nat.zero_le _, .nil, journaled⟩
  | succ depth =>
    exact ⟨fun chain place name => count_questions_le f.expression world,
      evaluate_allAsked onlyValues ignoring f.expression world, journaled⟩

/-- The maximum of a name and itself, with a handler of calls that lets them pass and a handler of names. -/
def doubleMention : Formula :=
  let pair := Formula.ofExpr (.call ⟨0⟩ "Max" [.identifier "x", .identifier "x"]) .default ⟨0⟩
  (pair.addIdentifierHandler ⟨"one", fun _ => .claim (.integer 1) .done⟩).addFunctionHandler
    ⟨"silent", fun _ => .done⟩

/-- The bound is reached. -/
theorem doubleMention_asks_twice :
    Bindings.OnlyValues doubleMention.bindings ∧
      (∀ handler ∈ doubleMention.functionHandlers, handler.Ignores) ∧
      questionsTo 1 doubleMention .blank World.empty =
        [⟨.functions, 0, "Max"⟩, ⟨.identifiers, 0, "x"⟩, ⟨.identifiers, 0, "x"⟩] ∧
      (questionsTo 1 doubleMention .blank World.empty).count ⟨.identifiers, 0, "x"⟩ ≤
        doubleMention.expression.mentions.countP fun mention =>
          mention.chain = .identifiers ∧
            (Context.ofFormula doubleMention .blank).foldName mention.name = "x" := by
  have onlyValues : Bindings.OnlyValues doubleMention.bindings := nofun
  have ignoring : ∀ handler ∈ doubleMention.functionHandlers, handler.Ignores := by
    intro handler member request
    cases List.mem_singleton.mp member
    exact trivial
  exact ⟨onlyValues, ignoring, by decide +kernel,
    (handlers_asked_at_most_once_for_each_mention doubleMention onlyValues ignoring 1 .blank World.empty).1
      .identifiers 0 "x"⟩

end Formula

end ClockedFormula
