import ClockedFormula.Proofs.Evaluation.Cancellation
import ClockedFormula.Proofs.Evaluation.Turn
import ClockedFormula.Proofs.Function.Order

namespace ClockedFormula

open Walk

/-!
# The order in which the arguments of a call are evaluated

A call that no handler claims follows the recipe of its function.  Which arguments it evaluates, and in which
worlds, is told by the same trail that tells what happens on the way to them.  So whatever happens in them, be
it the questions to their handlers or the failure that ends the call, happens in the order of the evaluations.

It is the order of the arguments themselves, but for the smoothing of any order.  That function has to know the
number of its stages before all else, and it evaluates the third argument first.  Where both the third argument
and the first fail, the call fails with the third.
-/

section Calls

variable {context : Context} {name : String} {count : Nat} {f : Function}

/-- A call follows a recipe in the order of its function.  A number of arguments that the function does not take
makes it a recipe that asks for nothing. -/
theorem callOperands_follows (resolved : Function.resolve name context.options.ignoreCase = .ok f)
    (id : NodeId) (operands : Fin count → Walk Value) (world : World) :
    ∃ (σ : Type) (recipe : Recipe σ count Value) (read : Walk σ) (write : σ → Walk Unit)
        (begun : World),
      f.Orders recipe ∧
      callOperands context id name count operands world = recipe.follow operands read write begun ∧
      ∀ (μ : Type) (inner : Fin count → World → List μ),
        duringCall context id name count operands inner world =
          recipe.trail operands inner read write begun := by
  cases f with
  | math f =>
    cases accepted : (f.recipe? context.options.roundAwayFromZero count : Option (Recipe Unit _ _)) with
    | none =>
      refine ⟨Unit, _, pure (), fun _ => pure (), world, .fail _ ((Function.math f).arityError count), ?_,
        fun μ inner => ?_⟩
      · rw [callOperands_math resolved, accepted]
        rfl
      · rw [duringCall_math resolved, accepted]
        rfl
    | some recipe =>
      refine ⟨Unit, recipe, pure (), fun _ => pure (), world, Function.orders_math accepted, ?_,
        fun μ inner => ?_⟩
      · rw [callOperands_math resolved, accepted]
        rfl
      · rw [duringCall_math resolved, accepted]
  | temporal f =>
    cases accepted : f.recipe? count with
    | none =>
      refine ⟨Unit, _, pure (), fun _ => pure (), world,
        .fail _ ((Function.temporal f).arityError count), ?_, fun μ inner => ?_⟩
      · rw [callOperands_temporal resolved, accepted]
        rfl
      · rw [duringCall_temporal resolved, accepted]
        rfl
    | some recipe =>
      let begun := (world.node context.store id).beginCall context.clock.step
        context.options.resetOnNewRun
      refine ⟨Workspace, recipe ⟨context.clock, context.options, begun.1⟩,
        Workspace.read context.store id, Workspace.write context.store id,
        world.setNode context.store id begun.2, Function.orders_temporal accepted _, ?_,
        fun μ inner => ?_⟩
      · rw [callOperands_temporal resolved, accepted]
      · rw [duringCall_temporal resolved, accepted]
        rfl

end Calls

/-! ## What walks leave in the journal -/

theorem walk_journaled (depth : Nat) (context : Context) (e : Expr) :
    Keeps Law.Journaled (walk depth context e) (walkEvents depth context e) := by
  induction depth generalizing context e with
  | zero => exact fun world => (List.append_nil _).symm
  | succ depth ih =>
    refine (Law.journaled_basic context.root).keeps_evaluate (fun name f _ world => ?_) e
    exact (ih (context.enter f) f.expression world).opening f

/-- What a walk adds to the journal. -/
def journalEntries (depth : Nat) (context : Context) (e : Expr) (world : World) : List Note :=
  (walkEvents depth context e world).filterMap fun event => event.happening.note?

theorem journal_walk (depth : Nat) (context : Context) (e : Expr) (world : World) :
    ((walk depth context e).leaves world).journal =
      world.journal ++ journalEntries depth context e world :=
  walk_journaled depth context e world

section Evaluations

variable {context : Context} {id : NodeId} {name : String} {arguments : List Expr} {world asked : World}
  {f : Function}

/-- The arguments that a call evaluates if no handler claims it, in the order in which it does, each with the
world in which it is evaluated. -/
def argumentEvaluations (depth : Nat) (context : Context) (id : NodeId) (name : String)
    (arguments : List Expr) (asked : World) : List (Fin arguments.length × World) :=
  duringCall context id name arguments.length (fun position => walk depth context (arguments.get position))
    (fun position world => [(position, world)]) asked

/-- A call that no handler claims adds to the journal what its arguments add, in the order in which they are
evaluated. -/
theorem journal_call (depth : Nat) (id : NodeId)
    (resolved : Function.resolve name context.options.ignoreCase = .ok f)
    (unclaimed : consult context context.functionHandlers (context.foldName name)
      (delay (enterTo depth) context arguments) world = .ok none asked) :
    ((walk (depth + 1) context (.call id name arguments)).leaves world).journal =
      asked.journal ++
        (argumentEvaluations (depth + 1) context id name arguments asked).flatMap fun e =>
          journalEntries (depth + 1) context (arguments.get e.1) e.2 := by
  obtain ⟨σ, recipe, read, write, begun, -, -, passes⟩ := callOperands_follows resolved id
    (fun position => walk (depth + 1) context (arguments.get position)) asked
  have called := callOperands_chain context (fun first entries last => last.journal = first.journal ++ entries)
    (fun world => (List.append_nil _).symm)
    (fun here there => by rw [there, here, List.append_assoc]) id name
    (fun position => journal_walk (depth + 1) context (arguments.get position))
    (fun state world => (List.append_nil _).symm) (fun workspace world => (List.append_nil _).symm) asked
  rw [passes, Recipe.trail_eq_flatMap] at called
  rw [argumentEvaluations, passes]
  rw [← Recipe.evaluations, ← called]
  change ((evaluate (enterTo depth) context (.call id name arguments)).leaves world).journal =
    ((callOperands context id name arguments.length fun position =>
      evaluate (enterTo depth) context (arguments.get position)).leaves asked).journal
  rw [← callFunction_delay, evaluate, evaluateCall, leaves_bind, unclaimed]
  dsimp only
  -- The result that the node notes is no entry.
  rw [leaves_bind, leaves]
  cases callFunction context id name (delay (enterTo depth) context arguments) asked <;> rfl

/-- A call that no handler claims evaluates its arguments in increasing position, unless it is a smoothing of
any order that evaluates more than one of them.  Whatever the function, the journal tells what handlers are
asked on the way to the arguments in the order in which these are evaluated.  An argument that is interrupted is
the last one, and it interrupts the call. -/
theorem evaluated_in_order_iff (depth : Nat) (id : NodeId)
    (resolved : Function.resolve name context.options.ignoreCase = .ok f)
    (unclaimed : consult context context.functionHandlers (context.foldName name)
      (delay (enterTo depth) context arguments) world = .ok none asked) :
    let call := walk (depth + 1) context (.call id name arguments)
    let operands := fun position => walk (depth + 1) context (arguments.get position)
    let evaluated := argumentEvaluations (depth + 1) context id name arguments asked
    ((evaluated.map Prod.fst).Pairwise (· < ·) ↔ (f = .temporal .smoothN → evaluated.length ≤ 1)) ∧
      (evaluated.map Prod.fst).Sublist (f.row arguments.length) ∧
      (∃ entries : Fin arguments.length → World → List Note,
        (∀ position world,
          ((operands position).leaves world).journal = world.journal ++ entries position world) ∧
        (call.leaves world).journal = asked.journal ++ evaluated.flatMap fun e => entries e.1 e.2) ∧
      (evaluated.Pairwise fun earlier _ => ∃ v after, operands earlier.1 earlier.2 = .ok v after) ∧
      ∀ e ∈ evaluated, ∀ reason after, operands e.1 e.2 = .error reason after →
        call world = .error reason after := by
  intro call operands evaluated
  obtain ⟨σ, recipe, read, write, begun, orders, follows, passes⟩ :=
    callOperands_follows resolved id operands asked
  have same : evaluated = recipe.evaluations operands read write begun := passes _ _
  refine ⟨?_, ?_, ?_, ?_, ?_⟩
  · rw [same]
    exact orders.increasing_iff operands read write begun
  · rw [same]
    exact orders.along.sublist begun
  · exact ⟨_, fun position => journal_walk (depth + 1) context (arguments.get position),
      journal_call depth id resolved unclaimed⟩
  · rw [same]
    exact recipe.pairwise_evaluations begun
  · intro e member reason after stopped
    rw [same] at member
    have interrupted := recipe.follow_of_interrupted member stopped
    rw [← follows] at interrupted
    change evaluate (enterTo depth) context (.call id name arguments) world = .error reason after
    rw [evaluate, evaluateCall, bind_ok unclaimed]
    refine bind_error ?_ _
    rw [callFunction_delay]
    exact interrupted

/-- A context in which nothing is bound and nobody is asked. -/
def bareContext : Context where
  options := .default
  bindings := .empty
  identifierHandlers := []
  functionHandlers := []
  store := ⟨0⟩
  clock := .blank
  root := ⟨0⟩

/-- A smoothing of the second order whose arguments are all constant. -/
def constantArguments : List Expr :=
  [.literal (.float (.ofNat 3)), .literal (.float .one), .literal (.integer 2)]

/-- The same with the input and the order unbound. -/
def unboundArguments : List Expr := [.identifier "x", .literal (.float .one), .identifier "n"]

/-- The order is evaluated before the input, and if both are undefined, it is the order that the smoothing
fails with. -/
theorem smoothing_misses_order_before_input :
    let evaluated := fun arguments =>
      argumentEvaluations 1 bareContext ⟨0⟩ "smthN" arguments World.empty
    let fails := fun e name =>
      (walk 1 bareContext e).ending World.empty = .error (.failed (.parameterNotDefined name))
    (evaluated constantArguments).map (fun e => e.1.val) = [2, 0, 1] ∧
      ¬ ((evaluated constantArguments).map Prod.fst).Pairwise (· < ·) ∧
      fails (.identifier "x") "x" ∧ fails (.call ⟨0⟩ "smthN" unboundArguments) "n" := by
  intro evaluated fails
  have resolved : Function.resolve "smthN" bareContext.options.ignoreCase =
      .ok (.temporal .smoothN) := rfl
  have unclaimed : ∀ arguments, consult bareContext bareContext.functionHandlers
      (bareContext.foldName "smthN") (delay (enterTo 0) bareContext arguments) World.empty =
        .ok none World.empty := fun _ => rfl
  obtain ⟨increasing, -⟩ := evaluated_in_order_iff 0 ⟨0⟩ resolved (unclaimed constantArguments)
  obtain ⟨-, -, -, -, ends⟩ := evaluated_in_order_iff 0 ⟨0⟩ resolved (unclaimed unboundArguments)
  refine ⟨rfl, fun forwards => ?_, rfl, ?_⟩
  · have short : (evaluated constantArguments).length ≤ 1 := increasing.mp forwards rfl
    exact absurd short (by decide)
  · have stopped := ends _ List.mem_cons_self _ _ rfl
    dsimp only [fails]
    rw [ending, stopped]

end Evaluations

end ClockedFormula
